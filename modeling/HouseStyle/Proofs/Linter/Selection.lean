import HouseStyle.Convention
import HouseStyle.Linter
import HouseStyle.Proofs.Linter.Sorting

/-!
# Selecting rules

The rules of a file run independently of one another, so running some of them finds what running all of them finds, less
the findings of the others (`lintFile_filter`). Hence **selecting rules by name is filtering the full report by name**
(`lintFile_select`), where a rule is asked for (`Rule.Asked`) if it is enabled, or none is, and it is not disabled.

Blank names in either list stand for nothing. A rule whose own name is empty can therefore be neither enabled nor
disabled by a blank name (`blank_name_disables_nothing`).
-/

namespace HouseStyle

variable {rules : List Rule} {enable disable names : List Text} {name : Text} {src : Source}

/-! ## Independent rules -/

/-- The findings of the rules whose names are kept are the findings that name such a rule. -/
theorem flatMap_verify_filter (keep : Text → Bool) (rules : List Rule) (src : Source) :
    (rules.filter (keep ·.name)).flatMap (·.verify src) = (rules.flatMap (·.verify src)).filter (keep ·.rule) := by
  have hrule : ∀ rule : Rule, ∀ d ∈ rule.verify src, d.rule = rule.name := by
    intro rule d hd
    obtain ⟨f, -, rfl⟩ := List.mem_map.mp hd
    rfl
  rw [List.filter_flatMap]
  induction rules with
  | nil => rfl
  | cons rule rest ih =>
    rw [List.flatMap_cons, ← ih, List.filter_cons]
    split
    next hkeep =>
      have hall : (rule.verify src).filter (keep ·.rule) = rule.verify src :=
        List.filter_eq_self.mpr fun d hd => by rw [hrule rule d hd]; exact hkeep
      rw [List.flatMap_cons, hall]
    next hkeep =>
      have hnone : (rule.verify src).filter (keep ·.rule) = [] :=
        List.filter_eq_nil_iff.mpr fun d hd => by rw [hrule rule d hd]; exact hkeep
      rw [hnone, List.nil_append]

/-- **Running the rules whose names are kept is keeping the diagnostics that name such a rule.** -/
theorem lintFile_filter (keep : Text → Bool) (rules : List Rule) (name content : Text) :
    lintFile (rules.filter (keep ·.name)) name content = (lintFile rules name content).filter (keep ·.rule) := by
  simp only [lintFile, Suppression.filter]
  rw [flatMap_verify_filter, ← Diagnostic.sort_filter, List.filter_comm]

/-! ## Names that are asked for -/

namespace Rule

/-- The name is enabled, or no name is, and it is not disabled. Blank names stand for nothing. -/
def Asked (enable disable : List Text) (name : Text) : Prop :=
  ((∀ n ∈ enable, n.trim = []) ∨ ∃ n ∈ enable, n.trim ≠ [] ∧ n.trim = name) ∧
    ∀ n ∈ disable, n.trim ≠ [] → n.trim ≠ name

instance (enable disable : List Text) (name : Text) : Decidable (Asked enable disable name) :=
  inferInstanceAs (Decidable (_ ∧ _))

theorem mem_givenNames : name ∈ givenNames names ↔ ∃ n ∈ names, n.trim ≠ [] ∧ n.trim = name := by
  simp only [givenNames, List.mem_filter, List.mem_map, Bool.not_eq_true', List.isEmpty_eq_false_iff]
  constructor
  · rintro ⟨⟨n, hn, rfl⟩, hne⟩
    exact ⟨n, hn, hne, rfl⟩
  · rintro ⟨n, hn, hne, rfl⟩
    exact ⟨⟨n, hn, rfl⟩, hne⟩

theorem givenNames_eq_nil : givenNames names = [] ↔ ∀ n ∈ names, n.trim = [] := by
  simp [givenNames]

theorem asked_iff : Asked enable disable name ↔
    (givenNames enable = [] ∨ name ∈ givenNames enable) ∧ name ∉ givenNames disable := by
  rw [Asked, givenNames_eq_nil, mem_givenNames, mem_givenNames]
  simp only [not_exists, not_and, ne_eq]

/-- Without unknown names, the selected rules are those whose names are asked for. -/
theorem selected_eq (h : (select rules enable disable).unknown = []) :
    (select rules enable disable).selected = rules.filter fun rule => decide (Asked enable disable rule.name) := by
  have hknown : (givenNames enable).filter (fun name => rules.any (·.name == name)) = givenNames enable := by
    rw [List.filter_eq_self]
    intro name hname
    have hall := List.filter_eq_nil_iff.mp h name (List.mem_append_left _ hname)
    simpa using hall
  have hselected : (select rules enable disable).selected = rules.filter fun rule =>
      ((givenNames enable).isEmpty || (givenNames enable).contains rule.name) &&
        !(givenNames disable).contains rule.name := by
    rw [select, hknown]
  rw [hselected]
  refine List.filter_congr fun rule _ => ?_
  rw [Bool.eq_iff_iff, decide_eq_true_eq, asked_iff]
  simp

end Rule

/-- **Running the selected rules over a file is filtering the full report by the names that are asked for**, if no given
name is unknown. -/
theorem lintFile_select (rules : List Rule) (enable disable : List Text)
    (h : (Rule.select rules enable disable).unknown = []) (name content : Text) :
    lintFile (Rule.select rules enable disable).selected name content =
      (lintFile rules name content).filter fun d => decide (Rule.Asked enable disable d.rule) := by
  rw [Rule.selected_eq h]
  exact lintFile_filter (fun name => decide (Rule.Asked enable disable name)) rules name content

/-- A rule that stands twice in the list is enabled, with spaces around its name and a blank name beside it; another is
enabled and disabled. -/
theorem lintFile_select_twice :
    let rules := convention {} ++ [Rule.goto]
    let enable := [Text.ofString " goto ", " ", "comma"]
    let disable := [Text.ofString "comma\t", ""]
    let found : Diagnostic := ⟨⟨"a.c", 1, 0⟩, "Goto statement unauthorized", "goto", .error, []⟩
    (Rule.select rules enable disable).unknown = [] ∧
      lintFile (Rule.select rules enable disable).selected "a.c" "goto a,b;\ngoto c,d; // nolint:goto\n" =
        [found, found] := by
  intro rules enable disable found
  have hunknown : (Rule.select rules enable disable).unknown = [] := by decide +kernel
  refine ⟨hunknown, ?_⟩
  rw [lintFile_select rules enable disable hunknown, lintFile, ← Diagnostic.sort_filter, Diagnostic.sort,
    List.mergeSort_of_pairwise (by decide +kernel)]
  decide +kernel

/-- A blank name does not disable a rule without a name, although trimming makes it the name of this rule. -/
theorem blank_name_disables_nothing :
    let nameless : Rule :=
      { name := "", doc := "", severity := .error
        run := (LineScan.perLine fun line => messagesWhere [(line.includes "x", "Letter x found")]).run }
    let rules := convention {} ++ [nameless]
    let enable : List Text := []
    let disable := [Text.ofString " "]
    (Rule.select rules enable disable).unknown = [] ∧
      lintFile (Rule.select rules enable disable).selected "a.c" "x\n" ≠
        (lintFile rules "a.c" "x\n").filter fun d =>
          decide (((∀ n ∈ enable, n.trim = []) ∨ ∃ n ∈ enable, n.trim = d.rule) ∧ ∀ n ∈ disable, n.trim ≠ d.rule) := by
  decide +kernel

end HouseStyle
