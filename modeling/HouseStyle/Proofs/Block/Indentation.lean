import HouseStyle.Proofs.Block.Machine

/-!
# The indentation of lines does not matter to the block structure

The width that a line should be indented by depends on the lines without the white space at their fronts
(`fileWidths_congr`), so the reports about lines fall into two parts that do not mix:

* the reports about widths compare each line with its expected width (`filter_width_indentFindings`);
* the reports about braces are those of the verdicts alone (`filter_brace_indentFindings`).

Hence **one bad indent does not cascade**, and indenting every line as expected leaves the reports about braces
(`exists_expected_widths`).
-/

namespace HouseStyle.Rule

open Block

/-! ## Two kinds of reports -/

/-- Whether a message is about the width of a line. -/
def isAboutWidth (message : Text) : Bool := message.startsWith "Wrong indentation level"

/-- The reports about the widths of lines from number `n` on, when `widths` are expected: one for each line that is not
blank and has another width. -/
def widthFindings : (n : Nat) → List Text → (widths : List Int) → List Finding
  | n, line :: lines, width :: widths =>
    (if !line.isBlank && measuredWidth line != width then
      [{ line := n, message := widthMessage width (measuredWidth line) }] else []) ++ widthFindings (n + 1) lines widths
  | _, _, _ => []

/-- The reports about closing braces that close nothing, in lines from number `n` on. -/
def braceFindings : (n : Nat) → List Verdict → List Finding
  | _, [] => []
  | n, v :: verdicts =>
    (if v.unexpected then [{ line := n, message := "Unexpected closing brace" }] else []) ++
      braceFindings (n + 1) verdicts

/-- The widths that lines with these verdicts are expected to have. -/
def expectedWidths (unit : Int) (verdicts : List Verdict) : List Int := verdicts.map fun v => expectedWidth unit v.level

theorem isAboutWidth_widthMessage (expected actual : Int) : isAboutWidth (widthMessage expected actual) := rfl

theorem not_isAboutWidth_unexpected : isAboutWidth "Unexpected closing brace" = false := by decide

theorem not_isAboutWidth_end {n count : Nat} {f : Finding} (hf : f ∈ endFindings n count) :
    isAboutWidth f.message = false := by
  unfold endFindings at hf
  split at hf
  · obtain rfl := List.mem_singleton.mp hf
    rfl
  · cases hf

theorem filter_width_indentFindings (unit : Int) : ∀ (n : Nat) (lines : List Text) (verdicts : List Verdict),
    (indentFindings unit n lines verdicts).filter (isAboutWidth ·.message) =
      widthFindings n lines (expectedWidths unit verdicts)
  | _, [], _ => by simp [indentFindings, widthFindings]
  | _, _ :: _, [] => rfl
  | n, line :: lines, v :: verdicts => by
    have ih := filter_width_indentFindings unit (n + 1) lines verdicts
    simp only [expectedWidths] at ih
    rw [indentFindings, List.filter_append, ih, indentMessages_eq, expectedWidths, List.map_cons, widthFindings]
    congr 1
    split <;> split <;> simp [List.filter_cons, isAboutWidth_widthMessage, not_isAboutWidth_unexpected]

theorem filter_brace_indentFindings (unit : Int) : ∀ (n : Nat) (lines : List Text) (verdicts : List Verdict),
    lines.length = verdicts.length →
    (indentFindings unit n lines verdicts).filter (!isAboutWidth ·.message) = braceFindings n verdicts
  | _, [], [], _ => rfl
  | n, line :: lines, v :: verdicts, h => by
    rw [indentFindings, List.filter_append, filter_brace_indentFindings unit (n + 1) lines verdicts (Nat.succ.inj h),
      indentMessages_eq, braceFindings]
    congr 1
    split <;> split <;> simp [isAboutWidth_widthMessage, not_isAboutWidth_unexpected]

/-! ## The reports about a file -/

/-- The reports about the lines of a file. -/
def reports (unit : Int) (name : Text) (lines : List Text) : List Diagnostic :=
  (indentationLevel unit).verify ⟨name, lines⟩

/-- The reports about widths among them. -/
def widthReports (unit : Int) (name : Text) (lines : List Text) : List Diagnostic :=
  (reports unit name lines).filter (isAboutWidth ·.message)

/-- The other reports: closing braces that are unexpected, and how many are missing. -/
def braceReports (unit : Int) (name : Text) (lines : List Text) : List Diagnostic :=
  (reports unit name lines).filter (!isAboutWidth ·.message)

variable {unit : Int} {name : Text} {lines lines' : List Text}

/-- The widths that are expected of the lines of a file. -/
def fileWidths (unit : Int) (lines : List Text) : List Int :=
  expectedWidths unit (scan (Shape.ofLines lines)).verdicts

theorem length_fileWidths : (fileWidths unit lines).length = lines.length := by
  rw [fileWidths, expectedWidths, List.length_map, length_scan, Shape.length_ofLines]

theorem filter_verify (rule : Rule) (src : Source) (p : Text → Bool) :
    (rule.verify src).filter (p ·.message) =
      ((rule.run src).filter (p ·.message)).map (rule.diagnose src.name) := by
  rw [verify, List.filter_map]
  rfl

theorem widthReports_eq : widthReports unit name lines =
    (widthFindings 1 lines (fileWidths unit lines)).map ((indentationLevel unit).diagnose name) := by
  have hend : ∀ n count, (endFindings n count).filter (isAboutWidth ·.message) = [] := by
    intro n count
    rw [List.filter_eq_nil_iff]
    intro f hf
    simp [not_isAboutWidth_end hf]
  rw [widthReports, reports, filter_verify _ _ isAboutWidth, run_indentationLevel, List.filter_append, hend,
    List.append_nil, filter_width_indentFindings, fileWidths]

theorem braceReports_eq : braceReports unit name lines =
    (braceFindings 1 (scan (Shape.ofLines lines)).verdicts ++
      endFindings (lines.length + 1) (scan (Shape.ofLines lines)).unclosed).map
        ((indentationLevel unit).diagnose name) := by
  have hend : ∀ n count, (endFindings n count).filter (!isAboutWidth ·.message) = endFindings n count := by
    intro n count
    rw [List.filter_eq_self]
    intro f hf
    simp [not_isAboutWidth_end hf]
  have hlen : lines.length = (scan (Shape.ofLines lines)).verdicts.length := by
    rw [length_scan, Shape.length_ofLines]
  rw [braceReports, reports, filter_verify _ _ (!isAboutWidth ·), run_indentationLevel, List.filter_append, hend,
    filter_brace_indentFindings unit 1 lines _ hlen]

/-! ## Lines that differ in their indentation -/

theorem ofLines_congr (h : lines'.map Text.trimLeft = lines.map Text.trimLeft) :
    Shape.ofLines lines' = Shape.ofLines lines := by
  rw [← Shape.ofLines_trimLeft lines', h, Shape.ofLines_trimLeft]

theorem fileWidths_congr (h : lines'.map Text.trimLeft = lines.map Text.trimLeft) :
    fileWidths unit lines' = fileWidths unit lines := by
  rw [fileWidths, ofLines_congr h, ← fileWidths]

theorem braceReports_congr (h : lines'.map Text.trimLeft = lines.map Text.trimLeft) :
    braceReports unit name lines' = braceReports unit name lines := by
  have hlen : lines'.length = lines.length := by simpa using congrArg List.length h
  rw [braceReports_eq, ofLines_congr h, hlen, ← braceReports_eq]

theorem isBlank_congr {line line' : Text} (h : line'.trimLeft = line.trimLeft) : line'.isBlank = line.isBlank := by
  rw [Text.isBlank, Text.trim, h]
  rfl

/-- Lines that have their expected widths, blank lines apart. -/
def Indented (lines : List Text) (widths : List Int) : Prop :=
  List.Forall₂ (fun line width => line.isBlank ∨ measuredWidth line = width) lines widths

theorem widthFindings_of_indented {n : Nat} {widths : List Int} (h : Indented lines widths) :
    widthFindings n lines widths = [] := by
  induction h generalizing n with
  | nil => rfl
  | cons hline _ ih =>
    rw [widthFindings, ih, List.append_nil]
    rcases hline with hb | hw
    · simp [hb]
    · simp [hw]

/-- If all lines are as expected, changing the width of one gives one report. -/
theorem widthFindings_set {n i : Nat} {widths : List Int} {line line' : Text}
    (hnil : widthFindings n lines widths = []) (hlen : widths.length = lines.length) (hi : lines[i]? = some line)
    (hline : line.isBlank = false) (hline' : line'.isBlank = false) (hne : measuredWidth line' ≠ measuredWidth line) :
    widthFindings n (lines.set i line') widths =
      [{ line := (n + i : Nat), message := widthMessage (measuredWidth line) (measuredWidth line') }] := by
  induction lines generalizing n i widths with
  | nil => cases hi
  | cons first rest ih =>
    obtain ⟨width, widths, rfl⟩ : ∃ w ws, widths = w :: ws := List.exists_cons_of_length_eq_add_one hlen
    rw [widthFindings, List.append_eq_nil_iff] at hnil
    cases i with
    | zero =>
      obtain rfl : first = line := by simpa using hi
      obtain rfl : measuredWidth first = width := by simpa [hline] using hnil.1
      rw [List.set_cons_zero, widthFindings, hnil.2]
      simp [hline', hne]
    | succ i =>
      rw [List.set_cons_succ, widthFindings, hnil.1, ih hnil.2 (Nat.succ.inj hlen) hi, Nat.add_assoc, Nat.add_comm 1]
      rfl

/-- Nothing is left but the reports about braces. -/
theorem reports_of_widthReports (h : widthReports unit name lines = []) :
    reports unit name lines = braceReports unit name lines := by
  rw [widthReports, List.filter_eq_nil_iff] at h
  rw [braceReports, eq_comm, List.filter_eq_self]
  intro d hd
  simpa using h d hd

/-- Nothing is left but the reports about widths. -/
theorem reports_of_braceReports (h : braceReports unit name lines = []) :
    reports unit name lines = widthReports unit name lines := by
  rw [braceReports, List.filter_eq_nil_iff] at h
  rw [widthReports, eq_comm, List.filter_eq_self]
  intro d hd
  simpa using h d hd

theorem reports_of_indented (h : lines'.map Text.trimLeft = lines.map Text.trimLeft)
    (hw : Indented lines' (fileWidths unit lines)) : reports unit name lines' = braceReports unit name lines := by
  have hnil : widthReports unit name lines' = [] := by
    rw [widthReports_eq, fileWidths_congr h, widthFindings_of_indented hw]
    rfl
  rw [reports_of_widthReports hnil, braceReports_congr h]

theorem trimLeft_set {i : Nat} {line line' : Text} (hi : lines[i]? = some line)
    (h : line'.trimLeft = line.trimLeft) : (lines.set i line').map Text.trimLeft = lines.map Text.trimLeft := by
  obtain ⟨hlt, rfl⟩ := List.getElem?_eq_some_iff.mp hi
  have hlt' : i < (lines.map Text.trimLeft).length := by simpa using hlt
  rw [List.map_set, h, ← List.getElem_map Text.trimLeft (h := hlt'), List.set_getElem_self]

/-- Another indentation of one line of a clean file gives one report. -/
theorem reports_set {i : Nat} {line line' : Text} (hclean : reports unit name lines = []) (hi : lines[i]? = some line)
    (htrim : line'.trimLeft = line.trimLeft) (hline : line.isBlank = false)
    (hne : measuredWidth line' ≠ measuredWidth line) :
    reports unit name (lines.set i line') =
      [(indentationLevel unit).diagnose name
        { line := (i + 1 : Nat), message := widthMessage (measuredWidth line) (measuredWidth line') }] := by
  have hset := trimLeft_set hi htrim
  have hwidths : widthReports unit name lines = [] := by rw [widthReports, hclean]; rfl
  have hbraces : braceReports unit name lines = [] := by rw [braceReports, hclean]; rfl
  have hnil : widthFindings 1 lines (fileWidths unit lines) = [] := by
    rw [widthReports_eq] at hwidths
    exact List.map_eq_nil_iff.mp hwidths
  have hone := widthFindings_set hnil length_fileWidths hi hline ((isBlank_congr htrim).trans hline) hne
  rw [reports_of_braceReports ((braceReports_congr hset).trans hbraces), widthReports_eq, fileWidths_congr hset, hone,
    Nat.add_comm 1]
  rfl

/-! ## Indenting a file -/

/-- The lines with spaces at their fronts, as many as expected. -/
def reindent (widths : List Int) (lines : List Text) : List Text :=
  List.zipWith (fun width line => Text.spaces width.toNat ++ line.trimLeft) widths lines

theorem trimLeft_reindent {widths : List Int} (hlen : widths.length = lines.length) :
    (reindent widths lines).map Text.trimLeft = lines.map Text.trimLeft := by
  induction lines generalizing widths with
  | nil => simp [reindent]
  | cons line rest ih =>
    obtain ⟨width, widths, rfl⟩ : ∃ w ws, widths = w :: ws := List.exists_cons_of_length_eq_add_one hlen
    have ih := ih (Nat.succ.inj hlen)
    rw [reindent] at ih ⊢
    rw [List.zipWith_cons_cons, List.map_cons, List.map_cons, ih, Text.trimLeft_spaces, Text.trimLeft_trimLeft]

/-- The expected widths are numbers of the machine. -/
theorem word_of_mem_fileWidths {width : Int} (h : width ∈ fileWidths unit lines) : word width = width := by
  obtain ⟨v, _, rfl⟩ := List.mem_map.mp h
  exact Int.bmod_bmod

theorem indented_reindent {widths : List Int} (hlen : widths.length = lines.length)
    (hword : ∀ width ∈ widths, word width = width) (hpos : ∀ width ∈ widths, 0 ≤ width) :
    Indented (reindent widths lines) widths := by
  induction lines generalizing widths with
  | nil =>
    obtain rfl : widths = [] := List.eq_nil_of_length_eq_zero hlen
    exact List.Forall₂.nil
  | cons line rest ih =>
    obtain ⟨width, widths, rfl⟩ : ∃ w ws, widths = w :: ws := List.exists_cons_of_length_eq_add_one hlen
    obtain ⟨hw, hword⟩ := List.forall_mem_cons.mp hword
    obtain ⟨hp, hpos⟩ := List.forall_mem_cons.mp hpos
    refine List.Forall₂.cons (Or.inr ?_) (ih (Nat.succ.inj hlen) hword hpos)
    rw [measuredWidth, Text.leadingWidth_spaces, Text.leadingWidth_trimLeft, Nat.add_zero, Int.toNat_of_nonneg hp, hw]

/-! ## One bad indent does not cascade -/

/-- **One list of expected widths** serves all files that differ from `lines` in their indentation only: the reports
about widths compare with it, line by line, and the reports about braces are the same. Hence another indentation of one
line of a clean file gives one report, on that line, and lines that are indented as expected leave the reports about
braces. -/
theorem exists_expected_widths (unit : Int) (name : Text) (lines : List Text) :
    ∃ widths : List Int, widths.length = lines.length ∧
      (∀ lines', lines'.map Text.trimLeft = lines.map Text.trimLeft →
        widthReports unit name lines' =
          (widthFindings 1 lines' widths).map ((indentationLevel unit).diagnose name) ∧
        braceReports unit name lines' = braceReports unit name lines) ∧
      (reports unit name lines = [] → ∀ i line line', lines[i]? = some line → line'.trimLeft = line.trimLeft →
        line.isBlank = false → measuredWidth line' ≠ measuredWidth line →
        reports unit name (lines.set i line') =
          [(indentationLevel unit).diagnose name
            { line := (i + 1 : Nat), message := widthMessage (measuredWidth line) (measuredWidth line') }]) ∧
      (∀ lines', lines'.map Text.trimLeft = lines.map Text.trimLeft → Indented lines' widths →
        reports unit name lines' = braceReports unit name lines) ∧
      ((∀ width ∈ widths, 0 ≤ width) → reports unit name (reindent widths lines) = braceReports unit name lines) := by
  refine ⟨fileWidths unit lines, length_fileWidths, ?_, ?_, fun lines' h hw => reports_of_indented h hw, ?_⟩
  · intro lines' h
    exact ⟨by rw [widthReports_eq, fileWidths_congr h], braceReports_congr h⟩
  · intro hclean i line line' hi htrim hline hne
    exact reports_set hclean hi htrim hline hne
  · intro hpos
    exact reports_of_indented (trimLeft_reindent length_fileWidths)
      (indented_reindent length_fileWidths (fun _ => word_of_mem_fileWidths) hpos)

/-- A clean file, and the one report after a line of it was moved to the left. -/
theorem reports_moved_line :
    reports 4 "a.c" ["\x7b", "    f();", "\x7d"] = [] ∧
      reports 4 "a.c" ["\x7b", "  f();", "\x7d"] =
        [{ pos := { file := "a.c", line := 2 }, message := "Wrong indentation level. Expected 4 whitespaces got 2",
           rule := "indentation-level", severity := .error }] := by
  have hclean : reports 4 "a.c" ["\x7b", "    f();", "\x7d"] = [] := by decide
  obtain ⟨_, _, _, hone, _⟩ := exists_expected_widths 4 "a.c" ["\x7b", "    f();", "\x7d"]
  have h := hone hclean 1 "    f();" "  f();" rfl (by decide) (by decide) (by decide)
  exact ⟨hclean, h.trans (by decide +kernel)⟩

end HouseStyle.Rule
