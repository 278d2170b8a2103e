import HouseStyle.Proofs.Source.Shape
import HouseStyle.Proofs.Text.Boundary
import HouseStyle.Rule.Basic

/-!
# Scans line by line

`LineScan.Reads` says what a scan finds in some lines and where it stands after them, whatever follows. It composes
along the lines (`Reads.nil`, `Reads.single`, `Reads.append`), so what a scan finds in a file is put together from its
steps (`Reads.run`).

* **What a scan finds in a file is what an invariant of its states says of each line** (`run_eq_flatMap`).
* Every scan reads all lines: what it finds in them is `found`, and it stands at `after` then (`reads_found`). Of both,
  only the numbers of the lines depend on where the lines stand (`found_succ`).
* A rule that looks at each line alone is silent on a line exactly if it finds nothing in it
  (`Rule.isSilentOn_perLine`).

A lone brace is the only ink of its line (`Line.has_opening`, `Line.has_closing`).
-/

namespace HouseStyle

namespace LineScan

variable {σ : Type} {scan : LineScan σ} {s s' s'' : σ} {n : Nat} {line : Text} {lines lines' ms : List Text}
variable {fs gs : List Finding}

/-- From the state `s` before line `n`, the scan finds `fs` in the lines and stands at `s'` after them. -/
def Reads (scan : LineScan σ) (s : σ) (n : Nat) (lines : List Text) (fs : List Finding) (s' : σ) : Prop :=
  ∀ rest, scan.runFrom s n (lines ++ rest) = fs ++ scan.runFrom s' (n + lines.length) rest

/-- The messages about a line as findings. -/
def findingsAt (n : Nat) (ms : List Text) : List Finding := ms.map fun m => { line := n, message := m }

namespace Reads

theorem nil : scan.Reads s n [] [] s := fun _ => rfl

theorem single (h : scan.step s line = (s', ms)) : scan.Reads s n [line] (findingsAt n ms) s' := by
  intro rest
  rw [List.singleton_append, runFrom, h]
  rfl

theorem append (h : scan.Reads s n lines fs s') (h' : scan.Reads s' (n + lines.length) lines' gs s'') :
    scan.Reads s n (lines ++ lines') (fs ++ gs) s'' := by
  intro rest
  rw [List.append_assoc, h, h', List.length_append, List.append_assoc, Nat.add_assoc]

theorem cons (h : scan.step s line = (s', ms)) (h' : scan.Reads s' (n + 1) lines fs s'') :
    scan.Reads s n (line :: lines) (findingsAt n ms ++ fs) s'' :=
  (single h).append h'

/-- A line without messages. -/
theorem quiet (h : scan.step s line = (s', [])) (h' : scan.Reads s' (n + 1) lines fs s'') :
    scan.Reads s n (line :: lines) fs s'' :=
  cons h h'

/-- What a scan finds in a file, if it adds nothing at the end. -/
theorem run {src : Source} (hfinish : scan.finish = fun _ _ => []) (h : scan.Reads scan.start 1 src.lines fs s) :
    scan.run src = fs := by
  have hrest := h []
  rw [List.append_nil, runFrom, hfinish, List.append_nil] at hrest
  exact hrest

end Reads

/-! ## Reading any lines -/

/-- Where the scan stands after some lines. -/
def after (scan : LineScan σ) (s : σ) (lines : List Text) : σ := lines.foldl (fun s line => (scan.step s line).1) s

/-- What the scan finds in the lines from number `n` on, without what it adds at the end of a file. -/
def found (scan : LineScan σ) (s : σ) (n : Nat) : List Text → List Finding
  | [] => []
  | line :: rest => findingsAt n (scan.step s line).2 ++ scan.found (scan.step s line).1 (n + 1) rest

theorem reads_found (scan : LineScan σ) : ∀ (s : σ) (n : Nat) (lines : List Text),
    scan.Reads s n lines (scan.found s n lines) (scan.after s lines)
  | _, _, [] => .nil
  | s, n, line :: rest => .cons (Prod.ext rfl rfl) (reads_found scan (scan.step s line).1 (n + 1) rest)

theorem runFrom_eq (scan : LineScan σ) (s : σ) (n : Nat) (lines : List Text) :
    scan.runFrom s n lines = scan.found s n lines ++ scan.finish (n + lines.length) (scan.after s lines) := by
  have hreads := reads_found scan s n lines []
  rwa [List.append_nil, runFrom] at hreads

theorem after_append (s : σ) (lines lines' : List Text) :
    scan.after s (lines ++ lines') = scan.after (scan.after s lines) lines' :=
  List.foldl_append

theorem found_append : ∀ (s : σ) (n : Nat) (lines lines' : List Text),
    scan.found s n (lines ++ lines') = scan.found s n lines ++ scan.found (scan.after s lines) (n + lines.length) lines'
  | _, _, [], _ => rfl
  | s, n, line :: lines, lines' => by
    have ih := found_append (scan.step s line).1 (n + 1) lines lines'
    rw [List.cons_append, found, ih, found, List.append_assoc, List.length_cons, Nat.add_right_comm, Nat.add_assoc n]
    rfl

theorem line_of_mem_found {f : Finding} : ∀ {s : σ} {n : Nat} {lines : List Text}, f ∈ scan.found s n lines →
    n ≤ f.line ∧ f.line < n + lines.length
  | s, n, line :: lines, h => by
    rcases List.mem_append.mp h with h | h
    · obtain ⟨m, _, rfl⟩ := List.mem_map.mp h
      simp only [List.length_cons]
      omega
    · have ih := line_of_mem_found h
      simp only [List.length_cons]
      omega

/-- The same lines one number later. -/
theorem found_succ : ∀ (s : σ) (n : Nat) (lines : List Text),
    scan.found s (n + 1) lines = (scan.found s n lines).map fun f => { f with line := f.line + 1 }
  | _, _, [] => rfl
  | s, n, line :: lines => by
    rw [found, found, List.map_append, found_succ (scan.step s line).1 (n + 1) lines, findingsAt, findingsAt,
      List.map_map]
    rfl

/-! ## Silence -/

theorem runFrom_cons_eq_nil : scan.runFrom s n (line :: lines) = [] ↔
    ∃ s', scan.step s line = (s', []) ∧ scan.runFrom s' (n + 1) lines = [] := by
  have hrun : scan.runFrom s n (line :: lines) =
      findingsAt n (scan.step s line).2 ++ scan.runFrom (scan.step s line).1 (n + 1) lines := rfl
  rw [hrun, List.append_eq_nil_iff, findingsAt, List.map_eq_nil_iff]
  constructor
  · rintro ⟨hquiet, hrest⟩
    exact ⟨_, Prod.ext rfl hquiet, hrest⟩
  · rintro ⟨s', hstep, hrest⟩
    rw [hstep]
    exact ⟨rfl, hrest⟩

/-- **What a scan finds in a file**, if an invariant of its states before each line says what is found in the line. The
lines are counted from zero. -/
theorem run_eq_flatMap (Inv : Nat → σ → Prop) (found : Nat → List Text) (hfinish : scan.finish = fun _ _ => [])
    (hstart : Inv 0 scan.start)
    (hstep : ∀ k line s, lines[k]? = some line → Inv k s →
      (scan.step s line).2 = found k ∧ Inv (k + 1) (scan.step s line).1) (name : Text) :
    scan.run ⟨name, lines⟩ = (List.range lines.length).flatMap fun k => findingsAt (k + 1) (found k) := by
  have hreads : ∀ k ≤ lines.length, ∃ s, Inv k s ∧ scan.Reads scan.start 1 (lines.take k)
      ((List.range k).flatMap fun k => findingsAt (k + 1) (found k)) s := by
    intro k
    induction k with
    | zero => exact fun _ => ⟨scan.start, hstart, .nil⟩
    | succ k ih =>
      intro hk
      obtain ⟨s, hinv, hreads⟩ := ih (Nat.le_of_succ_le hk)
      have hline : lines[k]? = some lines[k] := List.getElem?_eq_getElem hk
      obtain ⟨hfound, hnext⟩ := hstep k _ s hline hinv
      have hlast : scan.Reads s (1 + (lines.take k).length) [lines[k]] (findingsAt (k + 1) (found k))
          (scan.step s lines[k]).1 := by
        rw [List.length_take_of_le (Nat.le_of_succ_le hk), Nat.add_comm]
        exact .single (Prod.ext rfl hfound)
      refine ⟨_, hnext, ?_⟩
      rw [List.take_add_one, hline, List.range_succ, List.flatMap_append, List.flatMap_singleton]
      exact hreads.append hlast
  obtain ⟨s, _, hall⟩ := hreads lines.length le_rfl
  rw [List.take_length] at hall
  exact hall.run hfinish

end LineScan

/-- There are no messages exactly if no condition holds. -/
theorem messagesWhere_eq_nil {checks : List (Bool × Text)} : messagesWhere checks = [] ↔ ∀ c ∈ checks, c.1 = false := by
  simp [messagesWhere]

/-! ## Rules that look at each line alone -/

/-- The rule reports nothing on line `n` of the file. -/
def Rule.IsSilentOn (rule : Rule) (src : Source) (n : Nat) : Prop := ∀ d ∈ rule.verify src, d.pos.line ≠ n

/-- A rule that looks at each line alone is silent on a line exactly if it finds nothing in it. -/
theorem Rule.isSilentOn_perLine {rule : Rule} {check : Text → List Text}
    (hrun : rule.run = (LineScan.perLine check).run) (name : Text) (before : List Text) (line : Text) (after : List Text) :
    rule.IsSilentOn ⟨name, before ++ line :: after⟩ (before.length + 1) ↔ check line = [] := by
  have hfound : rule.run ⟨name, before ++ line :: after⟩ = (List.range (before ++ line :: after).length).flatMap
      fun k => LineScan.findingsAt (k + 1) (((before ++ line :: after)[k]?.map check).getD []) := by
    rw [hrun]
    exact LineScan.run_eq_flatMap (fun _ _ => True) _ rfl trivial
      (fun k line s hline _ => ⟨by rw [hline]; rfl, trivial⟩) name
  have hline : (before ++ line :: after)[before.length]? = some line := by simp
  rw [IsSilentOn, verify, hfound]
  constructor
  · intro h
    refine List.eq_nil_iff_forall_not_mem.mpr fun message hmessage => ?_
    refine h (rule.diagnose name { line := (before.length + 1 : Nat), message }) ?_ rfl
    refine List.mem_map_of_mem (List.mem_flatMap.mpr ⟨before.length, by simp, ?_⟩)
    rw [hline]
    exact List.mem_map_of_mem hmessage
  · intro h d hd
    obtain ⟨f, hf, rfl⟩ := List.mem_map.mp hd
    obtain ⟨k, _, hk⟩ := List.mem_flatMap.mp hf
    obtain ⟨message, hmessage, rfl⟩ := List.mem_map.mp hk
    rintro (heq : ((k + 1 : Nat) : Int) = (before.length + 1 : Nat))
    obtain rfl : k = before.length := by omega
    rw [hline, Option.map_some, h] at hmessage
    cases hmessage


/-! ## Braces -/

namespace Line

variable {line : Text}

/-- The line holds no brace. -/
def Braceless (line : Text) : Prop := line.has '{' = false ∧ line.has '}' = false

instance (line : Text) : Decidable (Braceless line) := inferInstanceAs (Decidable (_ ∧ _))

/-- The line is a lone closing brace. -/
def isLoneClosing (line : Text) : Bool := line.trim == Text.ofString "\x7d"

/-- A line that is a single ASCII character between white space holds no other that is not white space. -/
theorem mem_iff_of_trim {b c : UInt8} (h : line.trim = [b]) (hc : Text.isInk c) : c ∈ line ↔ c = b := by
  constructor
  · intro hmem
    have htrim := Text.mem_trim hc hmem
    rwa [h, List.mem_singleton] at htrim
  · rintro rfl
    obtain ⟨front, hfront, _⟩ := Text.exists_append_trimLeft line
    have hmem : c ∈ line.trimLeft := (Text.trim_isPrefix line).subset (by rw [h]; exact List.mem_singleton_self c)
    rw [hfront]
    exact List.mem_append_right front hmem

theorem isOpeningBrace_brace : isOpeningBrace "\x7b" := by decide

theorem isLoneClosing_brace : isLoneClosing "\x7d" := by decide

theorem has_opening (h : isOpeningBrace line) : line.has '{' = true ∧ line.has '}' = false := by
  have htrim : line.trim = [Text.byte '{'] := beq_iff_eq.mp h
  have hopen := mem_iff_of_trim (c := Text.byte '{') htrim (by decide)
  have hclose := mem_iff_of_trim (c := Text.byte '}') htrim (by decide)
  refine ⟨List.contains_iff_mem.mpr (hopen.mpr rfl), ?_⟩
  rw [Text.has, ← Bool.not_eq_true, List.contains_iff_mem, hclose]
  decide

theorem has_closing (h : isLoneClosing line) : line.has '{' = false ∧ line.has '}' = true := by
  have htrim : line.trim = [Text.byte '}'] := beq_iff_eq.mp h
  have hopen := mem_iff_of_trim (c := Text.byte '{') htrim (by decide)
  have hclose := mem_iff_of_trim (c := Text.byte '}') htrim (by decide)
  refine ⟨?_, List.contains_iff_mem.mpr (hclose.mpr rfl)⟩
  rw [Text.has, ← Bool.not_eq_true, List.contains_iff_mem, hopen]
  decide

theorem lead_of_isLoneClosing (h : isLoneClosing line) : lead line = some (Text.byte '}') := by
  apply lead_of_trim
  rw [beq_iff_eq.mp h]
  rfl

end Line

end HouseStyle
