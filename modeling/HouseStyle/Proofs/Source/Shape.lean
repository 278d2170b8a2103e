import HouseStyle.Proofs.Text.Trim
import HouseStyle.Source.Block

/-!
# The shapes of lines

* **Blindness** (`Shape.ofLines_trimLeft`): the shapes of a list of lines are those of the lines without the white space
  at their fronts.
* **One role per line** (`Shape.ofLine_exclusive`): a line is at most one of an opening brace, a closing brace, a label,
  the control line of a body without braces, and the end of a case. Its first byte after white space decides which.
* **The line ahead** (`Shape.isOpeningBrace_of_governs`): the body of a control line is no opening brace.
-/

namespace HouseStyle

/-! ## Blindness -/

namespace Line

theorem beginsWith_trimLeft (line word : Text) : beginsWith line.trimLeft word = beginsWith line word := by
  rw [beginsWith, Text.trimLeft_trimLeft, beginsWith]

theorem trim_trimLeft (line : Text) : line.trimLeft.trim = line.trim := by
  rw [Text.trim, Text.trimLeft_trimLeft, Text.trim]

theorem isOpeningBrace_trimLeft (line : Text) : isOpeningBrace line.trimLeft = isOpeningBrace line := by
  rw [isOpeningBrace, trim_trimLeft, isOpeningBrace]

theorem isClosingBrace_trimLeft (line : Text) : isClosingBrace line.trimLeft = isClosingBrace line := by
  simp only [isClosingBrace, trim_trimLeft]

theorem isLabel_trimLeft (line : Text) : isLabel line.trimLeft = isLabel line := by
  simp only [isLabel, isCase, isDefault, beginsWith_trimLeft]

theorem controlKeyword?_trimLeft (line : Text) : controlKeyword? line.trimLeft = controlKeyword? line := by
  have h : beginsWith line.trimLeft = beginsWith line := funext (beginsWith_trimLeft line)
  rw [controlKeyword?, h, controlKeyword?]

theorem governedBy?_trimLeft (line : Text) (next : Option Text) :
    governedBy? line.trimLeft (next.map Text.trimLeft) = governedBy? line next := by
  cases next with
  | none => rfl
  | some next => simp only [governedBy?, Option.map_some, Text.trimLeft_trimLeft, controlKeyword?_trimLeft]

theorem endsCase_trimLeft (line : Text) (next : Option Text) :
    endsCase line.trimLeft (next.map Text.trimLeft) = endsCase line next := by
  cases next with
  | none => simp only [endsCase, beginsWith_trimLeft, Option.map_none]
  | some next => simp only [endsCase, beginsWith_trimLeft, Option.map_some, Option.any_some]

end Line

namespace Shape

theorem ofLine_trimLeft (line : Text) (next : Option Text) :
    ofLine line.trimLeft (next.map Text.trimLeft) = ofLine line next := by
  simp only [ofLine, Line.isOpeningBrace_trimLeft, Line.isClosingBrace_trimLeft, Line.isLabel_trimLeft,
    Line.governedBy?_trimLeft, Line.endsCase_trimLeft]

/-- **Blindness.** White space at the front of lines is not part of their shapes. -/
theorem ofLines_trimLeft : ∀ lines : List Text, ofLines (lines.map Text.trimLeft) = ofLines lines
  | [] => rfl
  | line :: rest => by
    rw [List.map_cons, ofLines, ofLines, List.head?_map, ofLine_trimLeft, ofLines_trimLeft rest]

theorem length_ofLines : ∀ lines : List Text, (ofLines lines).length = lines.length
  | [] => rfl
  | _ :: rest => by rw [ofLines, List.length_cons, List.length_cons, length_ofLines rest]

/-- The shape of a line is that of the line before the next. -/
theorem ofLines_getElem? : ∀ (lines : List Text) (i : Nat),
    (ofLines lines)[i]? = lines[i]?.map fun line => ofLine line lines[i + 1]?
  | [], _ => rfl
  | line :: rest, 0 => by simp [ofLines, List.head?_eq_getElem?]
  | line :: rest, i + 1 => by
    rw [ofLines, List.getElem?_cons_succ, List.getElem?_cons_succ, List.getElem?_cons_succ]
    exact ofLines_getElem? rest i

end Shape

/-! ## The first byte of a line -/

namespace Line

/-- The first byte of a line after white space. -/
def lead (line : Text) : Option UInt8 := line.trimLeft.head?

theorem lead_of_beginsWith {line word : Text} {b : UInt8} (hw : word.head? = some b) (h : beginsWith line word) :
    lead line = some b := by
  cases word with
  | nil => cases hw
  | cons c word =>
    obtain rfl : c = b := by simpa using hw
    rw [beginsWith, startsWithWord] at h
    split at h
    · cases h
    · next he => rw [lead, Text.afterPrefix?_eq_some.mp he]; rfl
    · next he => rw [lead, Text.afterPrefix?_eq_some.mp he]; rfl

/-- What trimming leaves begins as the line does after white space. -/
theorem lead_of_trim {line : Text} {b : UInt8} (h : line.trim.head? = some b) : lead line = some b := by
  obtain ⟨rest, hrest⟩ := Text.trim_isPrefix line
  rw [lead, ← hrest, List.head?_append, h]
  rfl

theorem lead_of_isOpeningBrace {line : Text} (h : isOpeningBrace line) : lead line = some (Text.byte '{') := by
  rw [isOpeningBrace, beq_iff_eq] at h
  apply lead_of_trim
  rw [h]
  rfl

theorem startsWith_of_isOpeningBrace {line : Text} (h : isOpeningBrace line) : line.trimLeft.startsWith "\x7b" := by
  have hlead := lead_of_isOpeningBrace h
  rw [lead] at hlead
  obtain ⟨rest, hrest⟩ := List.head?_eq_some_iff.mp hlead
  rw [hrest]
  rfl

theorem lead_of_isClosingBrace {line : Text} (h : isClosingBrace line) : lead line = some (Text.byte '}') := by
  simp only [isClosingBrace, Bool.or_eq_true, Bool.and_eq_true, beq_iff_eq] at h
  apply lead_of_trim
  rcases h with h | ⟨h, _⟩
  · rw [h]
    rfl
  · obtain ⟨rest, hrest⟩ := List.isPrefixOf_iff_prefix.mp h
    rw [← hrest]
    rfl

theorem lead_of_isLabel {line : Text} (h : isLabel line) :
    ∃ b ∈ [Text.byte 'c', Text.byte 'd'], lead line = some b := by
  rw [isLabel, Bool.or_eq_true] at h
  rcases h with h | h
  · exact ⟨_, by decide, lead_of_beginsWith (b := Text.byte 'c') rfl h⟩
  · exact ⟨_, by decide, lead_of_beginsWith (b := Text.byte 'd') rfl h⟩

/-- The first bytes of the control keywords. -/
def controlLeads : List UInt8 := controlKeywords.filterMap List.head?

theorem lead_of_controlKeyword? {line word : Text} (h : controlKeyword? line = some word) :
    ∃ b ∈ controlLeads, lead line = some b := by
  have hmem : word ∈ controlKeywords := List.mem_of_find?_eq_some h
  have hne : ∀ w ∈ controlKeywords, w ≠ [] := by decide
  obtain ⟨b, w, rfl⟩ := List.exists_cons_of_ne_nil (hne word hmem)
  refine ⟨b, List.mem_filterMap.mpr ⟨_, hmem, rfl⟩, ?_⟩
  exact lead_of_beginsWith rfl (List.find?_some h)

theorem lead_of_governedBy? {line : Text} {next : Option Text} (h : (governedBy? line next).isSome) :
    ∃ b ∈ controlLeads, lead line = some b := by
  obtain ⟨word, hword⟩ := Option.isSome_iff_exists.mp h
  cases next with
  | none => cases hword
  | some next =>
    rw [governedBy?] at hword
    split at hword
    · cases hword
    · exact lead_of_controlKeyword? hword

theorem lead_of_endsCase {line : Text} {next : Option Text} (h : endsCase line next) :
    ∃ b ∈ [Text.byte 'b', Text.byte 'r'], lead line = some b := by
  rw [endsCase, Bool.or_eq_true, Bool.and_eq_true] at h
  rcases h with h | ⟨h, _⟩
  · exact ⟨_, by decide, lead_of_beginsWith (b := Text.byte 'b') rfl h⟩
  · exact ⟨_, by decide, lead_of_beginsWith (b := Text.byte 'r') rfl h⟩

/-- A blank line has no first byte. -/
theorem lead_of_isBlank {line : Text} (h : line.isBlank) : lead line = none := by
  rw [lead, Text.isBlank_iff.mp h]
  rfl

end Line

/-! ## One role per line -/

namespace Shape

/-- A line with one of the five properties has none of the others. -/
structure Exclusive (s : Shape) : Prop where
  of_opens : s.opens → s.closes = false ∧ s.labels = false ∧ s.governs = false ∧ s.terminates = false
  of_closes : s.closes → s.opens = false ∧ s.labels = false ∧ s.governs = false ∧ s.terminates = false
  of_labels : s.labels → s.opens = false ∧ s.closes = false ∧ s.governs = false ∧ s.terminates = false
  of_governs : s.governs → s.opens = false ∧ s.closes = false ∧ s.labels = false ∧ s.terminates = false
  of_terminates : s.terminates → s.opens = false ∧ s.closes = false ∧ s.labels = false ∧ s.governs = false

/-- The properties of a shape with the first bytes of the lines that have them. -/
def leads (s : Shape) : List (Bool × List UInt8) :=
  [(s.opens, [Text.byte '{']), (s.closes, [Text.byte '}']), (s.labels, [Text.byte 'c', Text.byte 'd']),
   (s.governs, Line.controlLeads), (s.terminates, [Text.byte 'b', Text.byte 'r'])]

theorem lead_of_mem_leads {line : Text} {next : Option Text} {p : Bool × List UInt8}
    (hp : p ∈ (ofLine line next).leads) (h : p.1 = true) : ∃ b ∈ p.2, Line.lead line = some b := by
  simp only [leads, ofLine, List.mem_cons, List.not_mem_nil, or_false] at hp
  rcases hp with rfl | rfl | rfl | rfl | rfl
  · exact ⟨_, List.mem_singleton_self _, Line.lead_of_isOpeningBrace h⟩
  · exact ⟨_, List.mem_singleton_self _, Line.lead_of_isClosingBrace h⟩
  · exact Line.lead_of_isLabel h
  · exact Line.lead_of_governedBy? h
  · exact Line.lead_of_endsCase h

/-- No byte is the first of lines with two of the properties. -/
theorem leads_disjoint (s : Shape) : s.leads.Pairwise fun p q => ∀ b ∈ p.2, b ∉ q.2 := by
  have h : (s.leads.map (·.2)).Pairwise fun bs cs => ∀ b ∈ bs, b ∉ cs := by
    simp only [leads, List.map_cons, List.map_nil]
    decide +kernel
  exact List.pairwise_map.mp h

/-- No two properties of a line hold. -/
theorem pairwise_ofLine (line : Text) (next : Option Text) :
    ((ofLine line next).leads.map (·.1)).Pairwise fun a b => a = true → b = false := by
  rw [List.pairwise_map]
  refine (leads_disjoint _).imp_of_mem ?_
  intro p q hp hq hpq htrue
  by_contra hne
  obtain ⟨b, hb, hlb⟩ := lead_of_mem_leads hp htrue
  obtain ⟨c, hc, hlc⟩ := lead_of_mem_leads hq (by simpa using hne)
  obtain rfl : b = c := Option.some.inj (hlb.symm.trans hlc)
  exact hpq b hb hc

/-- **One role per line.** -/
theorem ofLine_exclusive (line : Text) (next : Option Text) : (ofLine line next).Exclusive := by
  have h := pairwise_ofLine line next
  generalize ofLine line next = s at h
  obtain ⟨opens, closes, labels, governs, terminates⟩ := s
  constructor <;> intro htrue <;> simp_all [leads]

theorem mem_ofLines_exclusive {lines : List Text} {s : Shape} (hs : s ∈ ofLines lines) : s.Exclusive := by
  induction lines with
  | nil => cases hs
  | cons line rest ih =>
    rcases List.mem_cons.mp hs with rfl | hs
    · exact ofLine_exclusive _ _
    · exact ih hs

/-- The body of a control line is no opening brace. -/
theorem isOpeningBrace_of_governs {line next : Text} (h : (ofLine line (some next)).governs) :
    Line.isOpeningBrace next = false := by
  by_contra hne
  have hopen : Line.isOpeningBrace next := by simpa using hne
  have hstart := Line.startsWith_of_isOpeningBrace hopen
  simp [ofLine, Line.governedBy?, hstart] at h

end Shape

end HouseStyle
