import Mathlib.Data.List.Basic
import HouseStyle.Convention

/-!
# What rules report, and in which order

A list of findings is orderly within a stretch of lines (`Orderly`) if each leaves file and severity to the rule, is
about a line of the stretch or about the whole file, and none is about a line before that of an earlier one. Orderly
lists of neighbouring stretches can be joined (`Orderly.append`), so a scan line by line finds an orderly list if what
it adds after the last line is orderly (`orderly_run`).

**All rules of the convention find orderly lists** (`Rule.isOrderly_of_mem_convention`), whatever the limits. Their
diagnostics bear the name and the severity of the rule and the name of the file, and come in the order of lines, where a
line one past the last stands for the end of the file (`Rule.verify_orderly`).
-/

namespace HouseStyle

/-- The findings leave file and severity to their rule, are about the lines from `first` to `last` or about the whole
file, and are in the order of lines. -/
structure Orderly (first last : Nat) (fs : List Finding) : Prop where
  file : ∀ f ∈ fs, f.file = []
  severity : ∀ f ∈ fs, f.severity = .unset
  within : ∀ f ∈ fs, f.line = 0 ∨ first ≤ f.line ∧ f.line ≤ last
  ordered : fs.Pairwise fun f g => 0 < f.line → 0 < g.line → f.line ≤ g.line

namespace Orderly

variable {first last first' last' n : Nat} {fs gs : List Finding} {f : Finding}

theorem nil : Orderly first last [] := ⟨by simp, by simp, by simp, .nil⟩

theorem single (hfile : f.file = []) (hseverity : f.severity = .unset)
    (hline : f.line = 0 ∨ first ≤ f.line ∧ f.line ≤ last) : Orderly first last [f] :=
  ⟨by simpa using hfile, by simpa using hseverity, by simpa using hline, List.pairwise_singleton _ _⟩

/-- What is found under a condition. -/
theorem ite {p : Prop} [Decidable p] (h : Orderly first last fs) : Orderly first last (if p then fs else []) := by
  split
  · exact h
  · exact .nil

/-- Findings about stretches that follow one another. -/
theorem append (hf : Orderly first last fs) (hg : Orderly first' last' gs) (hfirst : first ≤ first')
    (hmiddle : last ≤ first') (hlast : last ≤ last') : Orderly first last' (fs ++ gs) where
  file := List.forall_mem_append.mpr ⟨hf.file, hg.file⟩
  severity := List.forall_mem_append.mpr ⟨hf.severity, hg.severity⟩
  within := by
    refine List.forall_mem_append.mpr ⟨fun f h => ?_, fun g h => ?_⟩
    · have := hf.within f h
      omega
    · have := hg.within g h
      omega
  ordered := by
    refine List.pairwise_append.mpr ⟨hf.ordered, hg.ordered, fun f hmem g hmem' hfpos hgpos => ?_⟩
    have := hf.within f hmem
    have := hg.within g hmem'
    omega

/-- Messages about one line. -/
theorem messages (n : Nat) (ms : List Text) : Orderly n n (ms.map fun m => { line := n, message := m }) where
  file := by simp
  severity := by simp
  within := by simp
  ordered := List.pairwise_map.mpr (List.pairwise_of_forall fun _ _ _ _ => Int.le_refl _)

/-- The messages about a line and what is found in the lines after it. -/
theorem messages_append (ms : List Text) {n k : Nat} (h : Orderly (n + 1) (n + 1 + k) fs) :
    Orderly n (n + (k + 1)) (ms.map (fun m => { line := n, message := m }) ++ fs) := by
  have happend := (messages n ms).append h (Nat.le_succ n) (Nat.le_succ n) (by omega)
  rwa [Nat.add_right_comm] at happend

end Orderly

/-! ## Scans -/

section Scan

variable {σ : Type} {scan : LineScan σ}

theorem orderly_runFrom (hfinish : ∀ n s, Orderly n n (scan.finish n s)) :
    ∀ (lines : List Text) (s : σ) (n : Nat), Orderly n (n + lines.length) (scan.runFrom s n lines)
  | [], s, n => hfinish n s
  | line :: lines, s, n => .messages_append _ (orderly_runFrom hfinish lines (scan.step s line).1 (n + 1))

/-- **A scan finds an orderly list** if what it adds at the end is about the whole file or about its end. -/
theorem orderly_run (hfinish : ∀ n s, Orderly n n (scan.finish n s)) (src : Source) :
    Orderly 1 (src.lines.length + 1) (scan.run src) := by
  have hrun := orderly_runFrom hfinish src.lines scan.start 1
  rwa [Nat.add_comm] at hrun

end Scan

namespace Rule

/-- What the rule finds in a file is orderly. -/
def IsOrderly (rule : Rule) : Prop := ∀ src : Source, Orderly 1 (src.lines.length + 1) (rule.run src)

/-- A rule that is a scan which adds nothing at the end. -/
theorem isOrderly_of_scan {rule : Rule} {σ : Type} {scan : LineScan σ} (hrun : rule.run = scan.run)
    (hfinish : scan.finish = fun _ _ => []) : rule.IsOrderly := by
  intro src
  rw [hrun]
  exact orderly_run (fun n s => by rw [hfinish]; exact .nil) src

/-! ## Rules that look further -/

theorem isOrderly_multiLinesComment : multiLinesComment.IsOrderly :=
  orderly_run fun _ _ => .ite <| .single rfl rfl <| .inr ⟨Int.le_refl _, Int.le_refl _⟩

theorem isOrderly_global : global.IsOrderly :=
  orderly_run fun _ _ => .ite <| .single rfl rfl <| .inl rfl

theorem orderly_indentFindings (unit : Int) : ∀ (n : Nat) (lines : List Text) (verdicts : List Block.Verdict),
    Orderly n (n + lines.length) (indentFindings unit n lines verdicts)
  | _, [], _ => .nil
  | _, _ :: _, [] => .nil
  | n, _ :: lines, _ :: verdicts => .messages_append _ (orderly_indentFindings unit (n + 1) lines verdicts)

theorem isOrderly_indentationLevel (unit : Int) : (indentationLevel unit).IsOrderly := by
  intro src
  have hlines : Orderly 1 (src.lines.length + 1)
      (indentFindings unit 1 src.lines (Block.scan (Shape.ofLines src.lines)).verdicts) := by
    rw [Nat.add_comm]
    exact orderly_indentFindings unit 1 src.lines _
  exact hlines.append (.ite <| .single rfl rfl <| .inr ⟨Int.le_refl _, Int.le_refl _⟩) (Nat.le_add_left _ _)
    (Nat.le_refl _) (Nat.le_refl _)

theorem line_of_mem_directivesFrom {e : Nat × Directive} : ∀ {n : Nat} {lines : List Text},
    e ∈ directivesFrom n lines → n ≤ e.1 ∧ e.1 < n + lines.length
  | _, [], h => by cases h
  | n, line :: lines, h => by
    have ih : e ∈ directivesFrom (n + 1) lines → n ≤ e.1 ∧ e.1 < n + (lines.length + 1) := by
      intro h
      have := line_of_mem_directivesFrom h
      omega
    rw [directivesFrom] at h
    split at h
    · rcases List.mem_cons.mp h with rfl | h
      · exact ⟨Nat.le_refl _, by simp⟩
      · exact ih h
    · exact ih h

/-- A header has one finding at most. -/
theorem orderly_guardFindings (guard : Text) {count : Nat} {directives : List (Nat × Directive)}
    (h : ∀ e ∈ directives, 1 ≤ e.1 ∧ e.1 ≤ count) : Orderly 1 (count + 1) (guardFindings guard count directives) := by
  have hline : ∀ e ∈ directives, ∀ message : Text, Orderly 1 (count + 1) [{ line := e.1, message := message }] := by
    intro e he message
    have := h e he
    exact .single rfl rfl (.inr (by dsimp only; omega))
  fun_cases guardFindings guard count directives with
  | case1 => exact .single rfl rfl (.inl rfl)
  | case2 n first rest _ => exact hline (n, first) (by simp) _
  | case3 n first _ => exact hline (n, first) (by simp) _
  | case4 n first _ m second rest _ => exact hline (m, second) (by simp) _
  | case5 => exact .nil
  | case6 => exact .single rfl rfl (.inr (by dsimp only; omega))

theorem isOrderly_headerGuard : headerGuard.IsOrderly := by
  intro src
  refine .ite <| orderly_guardFindings _ fun e he => ?_
  have := line_of_mem_directivesFrom he
  omega

/-! ## The convention -/

/-- **The rules of the convention are orderly.** -/
theorem isOrderly_of_mem_convention {limits : Limits} {rule : Rule} (h : rule ∈ convention limits) :
    rule.IsOrderly := by
  simp only [convention, List.mem_cons, List.not_mem_nil, or_false] at h
  rcases h with rfl | rfl | rfl | rfl | rfl | rfl | rfl | rfl | rfl | rfl | rfl | rfl | rfl | rfl | rfl | rfl | rfl |
    rfl | rfl | rfl | rfl | rfl | rfl | rfl | rfl
  -- All rules but four are scans that add nothing at the end.
  all_goals
    first
    | exact isOrderly_indentationLevel _
    | exact isOrderly_multiLinesComment
    | exact isOrderly_headerGuard
    | exact isOrderly_global
    | exact isOrderly_of_scan rfl rfl

/-- The diagnostics of an orderly rule bear its name, its severity and the name of the file. -/
theorem IsOrderly.bears {rule : Rule} (h : rule.IsOrderly) {src : Source} {d : Diagnostic} (hd : d ∈ rule.verify src) :
    d.rule = rule.name ∧ d.severity = rule.severity ∧ d.pos.file = src.name := by
  obtain ⟨f, hf, rfl⟩ := List.mem_map.mp hd
  simp [diagnose, (h src).file f hf, (h src).severity f hf]

/-- They are about lines of the file, about its end, or about the whole file. -/
theorem IsOrderly.line_le {rule : Rule} (h : rule.IsOrderly) {src : Source} {d : Diagnostic}
    (hd : d ∈ rule.verify src) : 0 ≤ d.pos.line ∧ d.pos.line ≤ src.lines.length + 1 := by
  obtain ⟨f, hf, rfl⟩ := List.mem_map.mp hd
  have hwithin := (h src).within f hf
  simp only [diagnose]
  omega

/-- Those about lines are in the order of lines. -/
theorem IsOrderly.pairwise {rule : Rule} (h : rule.IsOrderly) (src : Source) :
    ((rule.verify src).filter (0 < ·.pos.line)).Pairwise fun a b => a.pos.line ≤ b.pos.line := by
  rw [List.pairwise_filter, verify, List.pairwise_map]
  refine (h src).ordered.imp fun hle hf hg => ?_
  exact hle (of_decide_eq_true hf) (of_decide_eq_true hg)

/-- **Whatever the limits, the file and its content, the diagnostics of a rule of the convention bear the name and the
severity of the rule and the name of the file, they are about lines from 0 to one past the last, and those about lines
are discovered in the order of lines.** -/
theorem verify_orderly (limits : Limits) (name content : Text) (rule : Rule) (h : rule ∈ convention limits) :
    (∀ d ∈ rule.verify (Source.ofContent name content),
      d.rule = rule.name ∧ d.severity = rule.severity ∧ d.pos.file = name ∧
        0 ≤ d.pos.line ∧ d.pos.line ≤ (splitLines content).length + 1) ∧
      ((rule.verify (Source.ofContent name content)).filter (0 < ·.pos.line)).Pairwise
        fun a b => a.pos.line ≤ b.pos.line := by
  have horderly : rule.IsOrderly := isOrderly_of_mem_convention h
  refine ⟨fun d hd => ?_, horderly.pairwise _⟩
  obtain ⟨hrule, hseverity, hfile⟩ := horderly.bears hd
  exact ⟨hrule, hseverity, hfile, horderly.line_le hd⟩

/-- Two globals are reported on their lines, and their number after them for the whole file. -/
theorem verify_orderly_globals :
    let src := Source.ofContent "a.c" "int a;\n\nint b;\n"
    Rule.global ∈ convention {} ∧ (Rule.global.verify src).map (·.pos.line) = [1, 3, 0] ∧
      ((Rule.global.verify src).filter (0 < ·.pos.line)).Pairwise fun a b => a.pos.line ≤ b.pos.line := by
  intro src
  have hmem : Rule.global ∈ convention {} := by simp [convention]
  exact ⟨hmem, by decide +kernel, (verify_orderly {} "a.c" "int a;\n\nint b;\n" Rule.global hmem).2⟩

end Rule

end HouseStyle
