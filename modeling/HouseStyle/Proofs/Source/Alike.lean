import Mathlib.Data.List.Find
import HouseStyle.Proofs.Source.Shape
import HouseStyle.Proofs.Text.Ink
import HouseStyle.Proofs.Text.Pieces

/-!
# Lines that differ in white space only

The role of a line in the block structure depends on the codes of its ink and of its first word
(`Line.beginsWith_eq`), and on nothing else of its text. Lines that agree on both are `Line.Alike`, and
**files whose lines are alike have the same shapes** (`Shape.ofLines_alike`).
-/

namespace HouseStyle

namespace Text

/-- The codes of some characters up to the first white space. -/
def front (gs : List Glyph) : List Nat := (gs.takeWhile (!·.isBlank)).map (·.code)

/-- The codes of the first word of a text. -/
def firstWord (t : Text) : List Nat := front t.trimLeft.glyphs

/-- Whether the code is that of a character that can continue an identifier. -/
def isIdentCode (c : Nat) : Bool := c < 0x80 && isIdent (UInt8.ofNat c)

/-- The codes begin with those of `word` as a whole token. -/
def startsWithCodes : (codes : List Nat) → (word : Text) → Bool
  | [], [] => true
  | c :: _, [] => !isIdentCode c
  | [], _ :: _ => false
  | c :: cs, b :: word => c == b.toNat && startsWithCodes cs word

variable {t : Text} {b : UInt8} {g : Glyph} {gs : List Glyph}

theorem front_blank (h : g.isBlank) : front (g :: gs) = [] := by simp [front, h]

theorem front_ink (h : g.isBlank = false) : front (g :: gs) = g.code :: front gs := by simp [front, h]

theorem isInk_of_isIdent (h : isIdent b) : isInk b := by
  simp only [isIdent, isLetter, isDigit, Bool.or_eq_true, Bool.and_eq_true, beq_iff_eq, decide_eq_true_eq,
    UInt8.le_iff_toNat_le, ← UInt8.toNat_inj] at h
  have hbytes : (byte '_').toNat = 95 ∧ (byte 'a').toNat = 97 ∧ (byte 'z').toNat = 122 ∧ (byte 'A').toNat = 65 ∧
      (byte 'Z').toNat = 90 ∧ (byte '0').toNat = 48 ∧ (byte '9').toNat = 57 := by decide
  rw [isInk_iff, UInt8.lt_iff_toNat_lt, Bool.eq_false_iff]
  simp only [Glyph.isBlankCode, Glyph.blankCodes, List.any_cons, List.any_nil, Bool.or_false, ne_eq, Bool.or_eq_true,
    Bool.and_eq_true, decide_eq_true_eq, UInt8.reduceToNat]
  omega

/-- The first byte of a text continues an identifier exactly if its first code does. -/
theorem isIdentCode_first (b : UInt8) (rest : Text) : isIdentCode (Glyph.first b rest).code = isIdent b := by
  by_cases hb : b < 0x80
  · have hlt : b.toNat < 0x80 := hb
    rw [Glyph.first_of_ascii hb, isIdentCode, UInt8.ofNat_toNat]
    simp [hlt]
  · have hcode : 0x80 ≤ (Glyph.first b rest).code := Glyph.code_first_of_not_ascii hb
    have hident : isIdent b = false := by
      by_contra h
      exact hb (isInk_iff.mp (isInk_of_isIdent (by simpa using h))).1
    rw [hident, isIdentCode, decide_eq_false (Nat.not_lt.mpr hcode), Bool.false_and]

/-- What begins with white space does not begin with a character of an identifier. -/
theorem isIdent_of_isBlank {rest : Text} (h : (Glyph.first b rest).isBlank) : isIdent b = false := by
  by_contra hident
  obtain ⟨hb, hink⟩ := isInk_iff.mp (isInk_of_isIdent (by simpa using hident))
  rw [Glyph.first_of_ascii hb, Glyph.isBlank, hink] at h
  cases h

/-- **Whether a text begins with a word is decided by its codes up to the first white space.** -/
theorem startsWithWord_eq : ∀ {word : Text}, (∀ b ∈ word, isInk b) → ∀ t : Text,
    Line.startsWithWord t word = startsWithCodes (front t.glyphs) word
  | [], _, [] => rfl
  | [], _, b :: rest => by
    have hstart : Line.startsWithWord (b :: rest) [] = !isIdent b := rfl
    rw [hstart, glyphs_cons]
    cases hblank : (Glyph.first b rest).isBlank with
    | true => rw [front_blank hblank, startsWithCodes, isIdent_of_isBlank hblank, Bool.not_false]
    | false => rw [front_ink hblank, startsWithCodes, isIdentCode_first]
  | _ :: _, _, [] => rfl
  | c :: word, hword, b :: rest => by
    rw [List.forall_mem_cons] at hword
    obtain ⟨hascii, hink⟩ := isInk_iff.mp hword.1
    by_cases hbc : b = c
    · subst hbc
      have hstart : Line.startsWithWord (b :: rest) (b :: word) = Line.startsWithWord rest word := by
        rw [Line.startsWithWord, afterPrefix?, if_pos rfl, Line.startsWithWord]
      have hblank : Glyph.isBlank ⟨b.toNat, [b]⟩ = false := hink
      rw [hstart, startsWithWord_eq hword.2 rest, glyphs_ascii hascii, front_ink hblank, startsWithCodes]
      simp
    · have hstart : Line.startsWithWord (b :: rest) (c :: word) = false := by
        rw [Line.startsWithWord, afterPrefix?, if_neg hbc]
      have hcode : (Glyph.first b rest).code ≠ c.toNat := by
        intro h
        have hhead := head?_codes (t := b :: rest) hascii
        rw [codes, glyphs_cons, List.map_cons, List.head?_cons, h] at hhead
        exact hbc (Option.some.inj (hhead.mp rfl))
      rw [hstart, glyphs_cons]
      cases hblank : (Glyph.first b rest).isBlank with
      | true => rw [front_blank hblank, startsWithCodes]
      | false => simp [front_ink hblank, startsWithCodes, hcode]

/-! ## First and last bytes of a trimmed text -/

theorem trimLeft_startsWith (hb : b < 0x80) : t.trimLeft.startsWith [b] ↔ t.inkCodes.head? = some b.toNat := by
  rw [startsWith_singleton, ← head?_codes hb, head?_inkCodes]

theorem trim_startsWith (hb : b < 0x80) : t.trim.startsWith [b] ↔ t.inkCodes.head? = some b.toNat := by
  have hink : t.trim.inkCodes = t.inkCodes := by
    rw [inkCodes, inkGlyphs_trim, inkCodes]
  rw [← hink, ← trimLeft_startsWith hb, trimLeft_trim]

theorem trim_endsWith (hb : b < 0x80) : t.trim.endsWith [b] ↔ t.inkCodes.getLast? = some b.toNat := by
  rw [endsWith_singleton, ← getLast?_codes hb, getLast?_inkCodes]

end Text

namespace Line

/-- Two lines have the same ink and the same first word, as codes. -/
structure Alike (line line' : Text) : Prop where
  ink : line'.inkCodes = line.inkCodes
  word : line'.firstWord = line.firstWord

theorem beginsWith_eq {line word : Text} (hword : ∀ b ∈ word, Text.isInk b) :
    beginsWith line word = Text.startsWithCodes line.firstWord word :=
  Text.startsWithWord_eq hword line.trimLeft

namespace Alike

variable {line line' next next' : Text} (h : Alike line line')
include h

theorem isBlank : line'.isBlank = line.isBlank := by
  rw [Bool.eq_iff_iff, Text.isBlank_iff_inkCodes, Text.isBlank_iff_inkCodes, h.ink]

theorem beginsWith {word : Text} (hword : ∀ b ∈ word, Text.isInk b) : beginsWith line' word = beginsWith line word := by
  rw [beginsWith_eq hword, beginsWith_eq hword, h.word]

theorem isOpeningBrace : isOpeningBrace line' = isOpeningBrace line := by
  have hbrace : Text.ofString "\x7b" = [Text.byte '{'] := rfl
  rw [Line.isOpeningBrace, Line.isOpeningBrace, hbrace, Bool.eq_iff_iff, beq_iff_eq, beq_iff_eq,
    Text.trim_eq_singleton (by decide), Text.trim_eq_singleton (by decide), h.ink]

theorem isClosingBrace : isClosingBrace line' = isClosingBrace line := by
  have hbrace : Text.ofString "\x7d" = [Text.byte '}'] := rfl
  have hsemicolon : Text.ofString ";" = [Text.byte ';'] := rfl
  simp only [Line.isClosingBrace, hbrace, hsemicolon]
  rw [Bool.eq_iff_iff]
  simp only [Bool.or_eq_true, Bool.and_eq_true, beq_iff_eq]
  rw [Text.trim_eq_singleton (by decide), Text.trim_eq_singleton (by decide), Text.trim_startsWith (by decide),
    Text.trim_startsWith (by decide), Text.trim_endsWith (by decide), Text.trim_endsWith (by decide), h.ink]

theorem startsWithBrace : line'.trimLeft.startsWith "\x7b" = line.trimLeft.startsWith "\x7b" := by
  have hbrace : Text.ofString "\x7b" = [Text.byte '{'] := rfl
  rw [hbrace, Bool.eq_iff_iff, Text.trimLeft_startsWith (by decide), Text.trimLeft_startsWith (by decide), h.ink]

theorem isLabel : isLabel line' = isLabel line := by
  simp only [Line.isLabel, isCase, isDefault]
  rw [h.beginsWith (by decide +kernel), h.beginsWith (by decide +kernel)]

theorem controlKeyword? : controlKeyword? line' = controlKeyword? line := by
  have hink : ∀ word ∈ controlKeywords, ∀ b ∈ word, Text.isInk b := by decide +kernel
  refine List.find?_congr ?_
  intro word hword
  exact h.beginsWith (hink word hword)

theorem governedBy? (hnext : Alike next next') : governedBy? line' (some next') = governedBy? line (some next) := by
  simp only [Line.governedBy?, hnext.startsWithBrace, h.controlKeyword?]

theorem endsCase {next next' : Option Text} (hnext : Option.Rel Alike next next') :
    endsCase line' next' = endsCase line next := by
  have hbreak : next'.any (Line.beginsWith · "break") = next.any (Line.beginsWith · "break") := by
    cases hnext with
    | none => rfl
    | some hnext => exact hnext.beginsWith (by decide +kernel)
  rw [Line.endsCase, Line.endsCase, hbreak, h.beginsWith (by decide +kernel), h.beginsWith (by decide +kernel)]

end Alike

end Line

namespace Shape

theorem ofLine_alike {line line' : Text} {next next' : Option Text} (h : Line.Alike line line')
    (hnext : Option.Rel Line.Alike next next') : ofLine line' next' = ofLine line next := by
  have hgoverned : Line.governedBy? line' next' = Line.governedBy? line next := by
    cases hnext with
    | none => rfl
    | some hnext => exact h.governedBy? hnext
  simp only [ofLine, h.isOpeningBrace, h.isClosingBrace, h.isLabel, hgoverned, h.endsCase hnext]

/-- **Files whose lines are alike have the same shapes.** -/
theorem ofLines_alike {lines lines' : List Text} (h : List.Forall₂ Line.Alike lines lines') :
    ofLines lines' = ofLines lines := by
  induction h with
  | nil => rfl
  | @cons line line' rest rest' hline hrest ih =>
    have hnext : Option.Rel Line.Alike rest.head? rest'.head? := by
      cases hrest with
      | nil => exact Option.Rel.none
      | cons hnext _ => exact Option.Rel.some hnext
    rw [ofLines, ofLines, ih, ofLine_alike hline hnext]

end Shape

end HouseStyle
