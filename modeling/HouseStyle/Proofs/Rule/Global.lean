import HouseStyle.Proofs.Rule.Scan
import HouseStyle.Proofs.Source.Directive
import HouseStyle.Rule.Declaration

/-!
# Comments between globals

The rule about globals reads a line with a block comment as it reads any other line. Outside braces and macros such a
line changes nothing but the count of globals (`next_comment`), and that exactly if the text of the comment has a
semicolon, and an equals sign if it has an opening parenthesis (`readsAsDeclaration`). The count does not matter for
what is found in the lines that follow (`found_plus`, `after_plus`), only for what is reported about the whole file.

Hence a comment on a line of its own moves the diagnostics below it down by one line and does nothing else, **unless its
text is taken for a declaration** (`global_with_comment`), as that of a commented-out declaration is
(`commented_declaration_counts`).
-/

namespace HouseStyle

/-- The diagnostic when a line is put in before line `n`. -/
def Diagnostic.movedFrom (n : Nat) (d : Diagnostic) : Diagnostic :=
  if n ≤ d.pos.line then { d with pos := { d.pos with line := d.pos.line + 1 } } else d

namespace Rule

variable {s : GlobalState} {line t : Text} {before after : List Text} {c n : Nat}

/-! ## The scan -/

/-- The report about a file with this many globals, if they are too many. -/
def countFinding (found : Nat) : Finding where
  line := 0
  message := "One global variable per file maximum, found " ++ Text.ofNat found

/-- What is reported about a file with this many globals. -/
def countFindings (found : Nat) : List Finding := if found > 1 then [countFinding found] else []

/-- The scan for globals. -/
def globalScan : LineScan GlobalState where
  start := {}
  step := GlobalState.next
  finish _ s := countFindings s.found

/-- The number of globals that the rule finds in the lines. -/
def globalsIn (lines : List Text) : Nat := (globalScan.after {} lines).found

theorem run_global (name : Text) (lines : List Text) :
    global.run ⟨name, lines⟩ = globalScan.found {} 1 lines ++ countFindings (globalsIn lines) :=
  globalScan.runFrom_eq {} 1 lines

/-! ## The count of globals -/

/-- The state with more globals found. -/
def GlobalState.plus (s : GlobalState) (c : Nat) : GlobalState := { s with found := s.found + c }

theorem next_plus (s : GlobalState) (c : Nat) (line : Text) :
    (s.plus c).next line = ((s.next line).1.plus c, (s.next line).2) := by
  unfold GlobalState.next GlobalState.plus
  dsimp only
  split_ifs
  · rfl
  · rfl
  · rw [Nat.add_right_comm]
  · rfl

/-- What is found in lines does not depend on the number of globals before them. -/
theorem found_plus (c : Nat) : ∀ (s : GlobalState) (n : Nat) (lines : List Text),
    globalScan.found (s.plus c) n lines = globalScan.found s n lines
  | _, _, [] => rfl
  | s, n, line :: lines => by
    have hstep : globalScan.step (s.plus c) line = ((s.next line).1.plus c, (s.next line).2) := next_plus s c line
    rw [LineScan.found, hstep, found_plus c (s.next line).1 (n + 1) lines]
    rfl

theorem after_plus (c : Nat) : ∀ (s : GlobalState) (lines : List Text),
    globalScan.after (s.plus c) lines = (globalScan.after s lines).plus c
  | _, [] => rfl
  | s, line :: lines => by
    have ih := after_plus c (s.next line).1 lines
    have hstep : globalScan.step (s.plus c) line = ((s.next line).1.plus c, (s.next line).2) := next_plus s c line
    rw [LineScan.after, List.foldl_cons, hstep]
    exact ih

/-! ## Comments -/

/-- The text of a comment is taken for a declaration: it has a semicolon, and an equals sign if it has an opening
parenthesis. -/
def readsAsDeclaration (t : Text) : Bool := t.has ';' && (!t.has '(' || t.has '=')

section Comment

variable (hcomment : line.trim = "/*" ++ t ++ "*/")
include hcomment

/-- But for its delimiters, a line with a comment holds what the comment holds. -/
theorem has_comment {c : Char} (hink : Text.isInk (Text.byte c)) (hslash : Text.byte c ≠ Text.byte '/')
    (hstar : Text.byte c ≠ Text.byte '*') : line.has c = t.has c := by
  have hopen : Text.byte c ∉ Text.ofString "/*" := by
    show Text.byte c ∉ [Text.byte '/', Text.byte '*']
    simp [hslash, hstar]
  have hclose : Text.byte c ∉ Text.ofString "*/" := by
    show Text.byte c ∉ [Text.byte '*', Text.byte '/']
    simp [hslash, hstar]
  have htrim : Text.byte c ∈ line ↔ Text.byte c ∈ line.trim := ⟨Text.mem_trim hink, Text.mem_of_mem_trim⟩
  rw [Text.has, Text.has, Bool.eq_iff_iff, List.contains_iff_mem, List.contains_iff_mem, htrim, hcomment]
  simp [hopen, hclose]

theorem exists_trimLeft_comment : ∃ rest, line.trimLeft = Text.byte '/' :: Text.byte '*' :: rest := by
  obtain ⟨rest, hrest⟩ := Text.trim_isPrefix line
  rw [hcomment] at hrest
  exact ⟨t ++ Text.ofString "*/" ++ rest, hrest.symm⟩

theorem declaresGlobal_comment (ht : Line.Braceless t) : declaresGlobal line = readsAsDeclaration t := by
  obtain ⟨rest, hrest⟩ := exists_trimLeft_comment hcomment
  have hsemicolon := has_comment hcomment (c := ';') (by decide) (by decide) (by decide)
  have hbrace := has_comment hcomment (c := '}') (by decide) (by decide) (by decide)
  have hparenthesis := has_comment hcomment (c := '(') (by decide) (by decide) (by decide)
  have hequals := has_comment hcomment (c := '=') (by decide) (by decide) (by decide)
  have hfront : (line.trimLeft.startsWith "//" || line.trimLeft.startsWith "**" ||
      Line.startsWithWord line.trimLeft "typedef") = false := by
    rw [hrest]
    rfl
  simp only [Bool.or_eq_false_iff] at hfront
  rw [declaresGlobal, readsAsDeclaration, hsemicolon, hbrace, hparenthesis, hequals, ht.2]
  simp [hfront]

/-- **Outside braces and macros, a line with a comment changes nothing but the count of globals.** -/
theorem next_comment (ht : Line.Braceless t) (hdepth : s.depth = 0) (hcode : s.inMacro = false) :
    s.next line = if readsAsDeclaration t then (s.plus 1, globalMessages line) else (s, []) := by
  obtain ⟨rest, hrest⟩ := exists_trimLeft_comment hcomment
  have hopening := has_comment hcomment (c := '{') (by decide) (by decide) (by decide)
  have hclosing := has_comment hcomment (c := '}') (by decide) (by decide) (by decide)
  have hsame : depthAfter s.depth line = s.depth := by
    rw [depthAfter, hopening, hclosing, ht.1, ht.2]
    rfl
  have hhash : line.trimLeft.startsWith "#" = false := by
    rw [hrest]
    rfl
  rw [GlobalState.next, hsame, declaresGlobal_comment hcomment ht]
  obtain ⟨depth, inMacro, found⟩ := s
  obtain rfl : depth = 0 := hdepth
  obtain rfl : inMacro = false := hcode
  simp [hhash, GlobalState.plus]

end Comment

/-! ## A line put in -/

theorem map_moved_above {fs : List Finding} (rule : Rule) (name : Text) (h : ∀ f ∈ fs, f.line < n) :
    (fs.map (rule.diagnose name)).map (·.movedFrom n) = fs.map (rule.diagnose name) := by
  rw [List.map_map]
  refine List.map_congr_left fun f hf => if_neg ?_
  have hlt := h f hf
  show ¬(n : Int) ≤ f.line
  omega

theorem map_moved_below {fs : List Finding} (rule : Rule) (name : Text) (h : ∀ f ∈ fs, n ≤ f.line) :
    (fs.map (rule.diagnose name)).map (·.movedFrom n) =
      (fs.map fun f => { f with line := f.line + 1 }).map (rule.diagnose name) := by
  rw [List.map_map, List.map_map]
  exact List.map_congr_left fun f hf => if_pos (h f hf)

theorem line_of_mem_countFindings {f : Finding} (hf : f ∈ countFindings n) : f.line = 0 := by
  rw [countFindings] at hf
  split at hf
  · rw [List.mem_singleton.mp hf]
    rfl
  · cases hf

/-- The diagnostics of a file when those below a place in it have moved down by one line. -/
theorem map_moved_verify (name : Text) (before after : List Text) :
    (global.verify ⟨name, before ++ after⟩).map (·.movedFrom (before.length + 1)) =
      (globalScan.found {} 1 before).map (global.diagnose name) ++
        (globalScan.found (globalScan.after {} before) (before.length + 2) after ++
          countFindings (globalsIn (before ++ after))).map (global.diagnose name) := by
  have habove : ∀ f ∈ globalScan.found {} 1 before, f.line < (before.length + 1 : Nat) := by
    intro f hf
    have hlt := (LineScan.line_of_mem_found hf).2
    omega
  have hbelow : ∀ f ∈ globalScan.found (globalScan.after {} before) (before.length + 1) after,
      (before.length + 1 : Nat) ≤ f.line := fun f hf => (LineScan.line_of_mem_found hf).1
  have hfile : ∀ f ∈ countFindings (globalsIn (before ++ after)), f.line < (before.length + 1 : Nat) := by
    intro f hf
    have hline := line_of_mem_countFindings hf
    omega
  rw [verify, run_global, LineScan.found_append, Nat.add_comm 1 before.length, List.append_assoc]
  simp only [List.map_append]
  have h₁ := map_moved_above global name habove
  have h₂ := map_moved_below global name hbelow
  have h₃ := map_moved_above global name hfile
  rw [← LineScan.found_succ] at h₂
  rw [h₁, h₂, h₃]

section Insert

variable {ms : List Text} (hline : (globalScan.after {} before).next line = ((globalScan.after {} before).plus c, ms))
include hline

theorem after_insert (after : List Text) :
    globalScan.after {} (before ++ line :: after) = (globalScan.after {} (before ++ after)).plus c := by
  have hstep : globalScan.step (globalScan.after {} before) line = ((globalScan.after {} before).plus c, ms) := hline
  rw [LineScan.after_append, LineScan.after_append, ← after_plus, LineScan.after, List.foldl_cons, hstep]
  rfl

theorem globalsIn_insert (after : List Text) :
    globalsIn (before ++ line :: after) = globalsIn (before ++ after) + c := by
  rw [globalsIn, after_insert hline]
  rfl

theorem verify_insert (name : Text) (after : List Text) : global.verify ⟨name, before ++ line :: after⟩ =
    (globalScan.found {} 1 before).map (global.diagnose name) ++ (LineScan.findingsAt (before.length + 1) ms ++
      (globalScan.found (globalScan.after {} before) (before.length + 2) after ++
        countFindings (globalsIn (before ++ after) + c))).map (global.diagnose name) := by
  have hstep : globalScan.step (globalScan.after {} before) line = ((globalScan.after {} before).plus c, ms) := hline
  rw [verify, run_global, globalsIn_insert hline, LineScan.found_append, LineScan.found, hstep, found_plus,
    Nat.add_comm 1, List.append_assoc, List.append_assoc, List.map_append]

end Insert

/-- One more global shows, in a message about its line or in the report about the file, unless it has no message and is
the only one. -/
theorem map_count_eq_iff {ms : List Text} {fs : List Finding} {found : Nat} (name : Text) :
    (LineScan.findingsAt n ms ++ (fs ++ countFindings (found + 1))).map (global.diagnose name) =
      (fs ++ countFindings found).map (global.diagnose name) ↔ ms = [] ∧ found = 0 := by
  constructor
  · intro h
    have hlen := congrArg List.length h
    simp only [List.length_map, List.length_append, LineScan.findingsAt] at hlen
    rcases Nat.lt_trichotomy found 1 with hzero | rfl | htwo
    · have hcount : countFindings found = [] := if_neg (by omega)
      have hcount' : countFindings (found + 1) = [] := if_neg (by omega)
      rw [hcount, hcount'] at hlen
      exact ⟨List.length_eq_zero_iff.mp (by omega), by omega⟩
    · have hone : (countFindings 1).length = 0 := rfl
      have htwo : (countFindings (1 + 1)).length = 1 := rfl
      omega
    · -- Both reports stand at the end, and they name different numbers.
      have hend : ∀ k, 1 < k →
          (countFindings k).map (global.diagnose name) = [global.diagnose name (countFinding k)] := by
        intro k hk
        rw [countFindings, if_pos hk]
        rfl
      simp only [← List.append_assoc, List.map_append] at h
      rw [hend found htwo, hend (found + 1) (by omega)] at h
      have hlast := congrArg List.getLast? h
      rw [List.getLast?_concat, List.getLast?_concat] at hlast
      have hmessage := congrArg Diagnostic.message (Option.some.inj hlast)
      have hnumber := congrArg Text.digitsValue (List.append_cancel_left hmessage)
      rw [Text.digitsValue_ofNat, Text.digitsValue_ofNat] at hnumber
      omega
  · rintro ⟨rfl, rfl⟩
    rfl

/-- **A comment on a line of its own moves the diagnostics below it and does nothing else, unless its text is taken for
a declaration.** Outside braces and macros, it is counted as a global exactly if its text reads as a declaration; the
diagnostics are those of the file without it, moved, exactly if it is not counted, or if no name in it is objected to
and there is no other global. -/
theorem global_with_comment (name : Text) (before after : List Text) {line t : Text}
    (hcomment : line.trim = "/*" ++ t ++ "*/") (ht : Line.Braceless t)
    (hdepth : (globalScan.after {} before).depth = 0) (hcode : (globalScan.after {} before).inMacro = false) :
    globalsIn (before ++ line :: after) = globalsIn (before ++ after) + (if readsAsDeclaration t then 1 else 0) ∧
    (global.verify ⟨name, before ++ line :: after⟩ =
        (global.verify ⟨name, before ++ after⟩).map (·.movedFrom (before.length + 1)) ↔
      readsAsDeclaration t = false ∨ (globalMessages line = [] ∧ globalsIn (before ++ after) = 0)) := by
  have hnext := next_comment hcomment ht hdepth hcode
  rw [map_moved_verify]
  cases hreads : readsAsDeclaration t with
  | false =>
    have hline : (globalScan.after {} before).next line = ((globalScan.after {} before).plus 0, []) := by
      rw [hnext, hreads]
      rfl
    rw [globalsIn_insert hline, verify_insert hline]
    simp [LineScan.findingsAt]
  | true =>
    have hline : (globalScan.after {} before).next line =
        ((globalScan.after {} before).plus 1, globalMessages line) := by
      rw [hnext, hreads]
      rfl
    rw [globalsIn_insert hline, verify_insert hline, List.append_cancel_left_eq, map_count_eq_iff]
    simp

/-- A comment with a semicolon and a parenthesis between two globals, not at the front of its line. -/
theorem global_with_comment_prose :
    let before : List Text := ["int g_x;"]
    let after : List Text := ["int y;"]
    let line : Text := "  /* x (not y; see above) */"
    let t : Text := " x (not y; see above) "
    line.trim = "/*" ++ t ++ "*/" ∧ Line.Braceless t ∧ (globalScan.after {} before).depth = 0 ∧
      (globalScan.after {} before).inMacro = false ∧
      global.verify ⟨"a.c", before ++ line :: after⟩ =
        (global.verify ⟨"a.c", before ++ after⟩).map (·.movedFrom 2) := by
  intro before after line t
  have hcomment : line.trim = "/*" ++ t ++ "*/" := by decide +kernel
  have hdepth : (globalScan.after {} before).depth = 0 := by decide +kernel
  have hcode : (globalScan.after {} before).inMacro = false := by decide +kernel
  have ht : Line.Braceless t := by decide +kernel
  have hmoved := (global_with_comment "a.c" before after hcomment ht hdepth hcode).2.mpr (.inl rfl)
  exact ⟨hcomment, ht, hdepth, hcode, hmoved⟩

/-- A declaration that is commented out counts as a global: it is reported for its name, and with the global above it
for their number. -/
theorem commented_declaration_counts :
    let before : List Text := ["int g_x;"]
    let line : Text := "/* int x; */"
    let t : Text := " int x; "
    line = "/*" ++ t ++ "*/" ∧ Line.Braceless t ∧ t.includes "*/" = false ∧
      (globalScan.after {} before).depth = 0 ∧ (globalScan.after {} before).inMacro = false ∧
      globalsIn (before ++ [line]) = 2 ∧ globalsIn before = 1 ∧
      global.verify ⟨"a.c", before ++ [line]⟩ ≠ (global.verify ⟨"a.c", before⟩).map (·.movedFrom 2) := by
  decide +kernel

end Rule

end HouseStyle
