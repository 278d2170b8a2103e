import HouseStyle.Proofs.Json.RoundTrip
import HouseStyle.Report
import HouseStyle.Server.Message
import HouseStyle.Word

/-!
# Reports are read as they are written

A report in JSON is read as a list of diagnostics by the names of their members: a member that is missing has the
plainest value of its type, and a member of another type, a number outside the signed words or a severity without a
known name makes the whole report unreadable (`read?`).

**Nothing is lost in a report** (`read?_json`): it is read as the diagnostics that it was written from, with an unset
severity turned into an error. The writer leaves out column 0 and an empty list of notes, which are the plainest values
that the reader puts back.
-/

namespace HouseStyle

namespace Diagnostic

/-- What a report can hold of diagnostics: texts that are well formed, words for line and column, and a severity with a
name of its own. -/
structure Reportable (d : Diagnostic) : Prop where
  file : d.pos.file.isWellFormed
  line : -(wordBound : Int) ≤ d.pos.line ∧ d.pos.line < wordBound
  col : -(wordBound : Int) ≤ d.pos.col ∧ d.pos.col < wordBound
  message : d.message.isWellFormed
  rule : d.rule.isWellFormed
  severity : d.severity ≠ .unknown
  notes : ∀ note ∈ d.notes, note.isWellFormed

/-- The diagnostic as a report tells it: an unset severity counts as an error. -/
def reported (d : Diagnostic) : Diagnostic :=
  { d with severity := if d.severity = .unset then .error else d.severity }

end Diagnostic

namespace Report

open Server.Message (object? text? integer? list?)

/-! ## Reading -/

/-- A signed word. -/
def word? : Json → Option Int := integer? (-wordBound) (wordBound - 1)

/-- A place. -/
def position? (j : Json) : Option Position := do
  let j ← object? j
  return ⟨← text? (j.get "file"), ← word? (j.get "line"), ← word? (j.get "col")⟩

/-- The severity of a diagnostic, which is unset only if the member is missing. -/
def severity? (j : Json) : Option Severity :=
  match j.get? "severity" with
  | none => some .unset
  | some v => (text? v).bind Severity.ofName?

/-- A diagnostic. -/
def diagnostic? (j : Json) : Option Diagnostic := do
  let j ← object? j
  return {
    pos := ← position? (j.get "pos")
    message := ← text? (j.get "message")
    rule := ← text? (j.get "analyzer")
    severity := ← severity? j
    notes := ← list? text? (j.get "notes") }

/-- Reads a report in JSON. -/
def read? (t : Text) : Option (List Diagnostic) := (Json.parse? t).bind (list? diagnostic?)

/-! ## Members -/

variable {d : Diagnostic}

theorem word?_int {n : Int} (h : -(wordBound : Int) ≤ n ∧ n < wordBound) : word? (.int n) = some n := by
  rw [word?, Json.int, integer?, if_pos]
  simp only [Bool.and_eq_true, decide_eq_true_eq]
  exact ⟨⟨trivial, h.1⟩, by omega⟩

/-- A list whose items are read back one by one is read back. -/
theorem list?_map {α β : Type} {read : Json → Option β} {write : α → Json} {f : α → β} {as : List α}
    (h : ∀ a ∈ as, read (write a) = some (f a)) : list? read (.array (as.map write)) = some (as.map f) := by
  rw [list?]
  induction as with
  | nil => rfl
  | cons a as ih =>
    obtain ⟨ha, has⟩ := List.forall_mem_cons.mp h
    rw [List.map_cons, List.mapM_cons, ha, ih has]
    rfl

/-- The members of a place: the column is written unless it is 0, which is read for a missing one. -/
theorem get_positionJson (p : Position) :
    (positionJson p).get "file" = .string p.file ∧ (positionJson p).get "line" = .int p.line ∧
      ((positionJson p).get "col" = .int p.col ∨ p.col = 0 ∧ (positionJson p).get "col" = .null) := by
  rw [positionJson]
  split
  · next hcol => exact ⟨rfl, rfl, .inr ⟨hcol, rfl⟩⟩
  · exact ⟨rfl, rfl, .inl rfl⟩

theorem position?_positionJson {p : Position} (hline : -(wordBound : Int) ≤ p.line ∧ p.line < wordBound)
    (hcol : -(wordBound : Int) ≤ p.col ∧ p.col < wordBound) : position? (positionJson p) = some p := by
  obtain ⟨hfile, hline', hcol'⟩ := get_positionJson p
  have hread : word? ((positionJson p).get "col") = some p.col := by
    rcases hcol' with hcol' | ⟨hzero, hnull⟩
    · rw [hcol', word?_int hcol]
    · rw [hnull, hzero]
      rfl
  have hobject : object? (positionJson p) = some (positionJson p) := rfl
  simp only [position?, hobject, Option.bind_eq_bind, Option.bind_some, hfile, text?, hline', word?_int hline, hread]
  rfl

theorem ofName?_reportName {s : Severity} (h : s ≠ .unknown) :
    Severity.ofName? s.reportName = some (if s = .unset then .error else s) := by
  cases s with
  | unknown => exact absurd rfl h
  | unset | error | warning | info => decide

/-- The members of a diagnostic: notes are written if there are any. -/
theorem get_diagnosticJson (d : Diagnostic) :
    (diagnosticJson d).get "pos" = positionJson d.pos ∧ (diagnosticJson d).get "message" = .string d.message ∧
      (diagnosticJson d).get "analyzer" = .string d.rule ∧
      (diagnosticJson d).get? "severity" = some (.string d.severity.reportName) ∧
      ((diagnosticJson d).get "notes" = .array (d.notes.map .string) ∨
        d.notes = [] ∧ (diagnosticJson d).get "notes" = .null) := by
  rw [diagnosticJson]
  split
  · next hnotes => exact ⟨rfl, rfl, rfl, rfl, .inr ⟨List.isEmpty_iff.mp hnotes, rfl⟩⟩
  · exact ⟨rfl, rfl, rfl, rfl, .inl rfl⟩

theorem diagnostic?_diagnosticJson (h : d.Reportable) : diagnostic? (diagnosticJson d) = some d.reported := by
  obtain ⟨hpos, hmessage, hrule, hseverity, hnotes⟩ := get_diagnosticJson d
  have hread : list? text? ((diagnosticJson d).get "notes") = some d.notes := by
    rcases hnotes with hnotes | ⟨hempty, hnull⟩
    · have hnote : ∀ note ∈ d.notes, text? (.string note) = some (id note) := fun _ _ => rfl
      rw [hnotes, list?_map hnote, List.map_id]
    · rw [hnull, hempty]
      rfl
  have hsev : severity? (diagnosticJson d) = some (if d.severity = .unset then .error else d.severity) := by
    rw [severity?, hseverity]
    exact ofName?_reportName h.severity
  have hobject : object? (diagnosticJson d) = some (diagnosticJson d) := rfl
  simp only [diagnostic?, hobject, Option.bind_eq_bind, Option.bind_some, hpos,
    position?_positionJson h.line h.col, hmessage, hrule, text?, hsev, hread]
  rfl

/-! ## Whole reports -/

theorem plain_object {members : List (Text × Json)} (h : ∀ m ∈ members, m.1.isWellFormed ∧ m.2.Plain) :
    (Json.object members).Plain :=
  .object (fun m hm => (h m hm).1) fun m hm => (h m hm).2

theorem plain_positionJson {p : Position} (hfile : p.file.isWellFormed) : (positionJson p).Plain := by
  apply plain_object
  intro m hm
  simp only [List.cons_append, List.nil_append, List.mem_cons] at hm
  rcases hm with rfl | rfl | hm
  · exact ⟨rfl, .string hfile⟩
  · exact ⟨rfl, .number _⟩
  · split at hm
    · cases hm
    · obtain rfl := List.mem_singleton.mp hm
      exact ⟨rfl, .number _⟩

theorem plain_diagnosticJson (h : d.Reportable) : (diagnosticJson d).Plain := by
  have hnotes : (Json.array (d.notes.map .string)).Plain := by
    apply Json.Plain.array
    intro j hj
    obtain ⟨note, hnote, rfl⟩ := List.mem_map.mp hj
    exact .string (h.notes note hnote)
  have hseverity : d.severity.reportName.isWellFormed := by cases d.severity <;> decide
  apply plain_object
  intro m hm
  simp only [List.cons_append, List.nil_append, List.mem_cons] at hm
  rcases hm with rfl | rfl | rfl | rfl | hm
  · exact ⟨rfl, plain_positionJson h.file⟩
  · exact ⟨rfl, .string h.message⟩
  · exact ⟨rfl, .string h.rule⟩
  · exact ⟨rfl, .string hseverity⟩
  · split at hm
    · cases hm
    · obtain rfl := List.mem_singleton.mp hm
      exact ⟨rfl, hnotes⟩

/-- **A report is read as the diagnostics that it was written from**, in their order and with all that they say; only an
unset severity has become an error. -/
theorem read?_json (ds : List Diagnostic) (h : ∀ d ∈ ds, d.Reportable) :
    read? (json ds) = some (ds.map Diagnostic.reported) := by
  have hplain : (Json.array (ds.map diagnosticJson)).Plain := by
    apply Json.Plain.array
    intro j hj
    obtain ⟨d, hd, rfl⟩ := List.mem_map.mp hj
    exact plain_diagnosticJson (h d hd)
  rw [read?, json, Json.parse?_pretty hplain, Option.bind_some]
  exact list?_map fun d hd => diagnostic?_diagnosticJson (h d hd)

/-- A message with quotes, markup, a control character, a separator and a character outside the basic plane, at the
lowest line that there is, with an empty note among others. -/
theorem read?_json_awkward :
    ∃ d e : Diagnostic, d.severity = .unset ∧ d.pos.line = -9223372036854775808 ∧ e.notes = [] ∧
      d.message = Text.ofString "\"</a>&\\ \t\x01\u2028𝄞" ∧
      read? (json [d, e]) = some [{ d with severity := .error }, e] := by
  refine ⟨⟨⟨"a.c", -9223372036854775808, 7⟩, "\"</a>&\\ \t\x01\u2028𝄞", "enum", .unset, ["é", ""]⟩,
    ⟨⟨"", 0, 0⟩, "", "", .info, []⟩, rfl, rfl, rfl, rfl, ?_⟩
  refine read?_json _ (List.forall_mem_cons.mpr ⟨?_, List.forall_mem_singleton.mpr ?_⟩)
  · exact ⟨rfl, by decide, by decide, by decide, rfl, by decide, by decide⟩
  · exact ⟨rfl, by decide, by decide, rfl, rfl, by decide, by decide⟩

end Report

end HouseStyle
