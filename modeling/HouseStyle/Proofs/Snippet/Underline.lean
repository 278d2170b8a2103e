import HouseStyle.Proofs.Text.Search
import HouseStyle.Snippet

/-!
# What is underlined

The row of carets under a quoted line is laid out from two parts of the line: what stands before the underlined part, and
that part itself. Both are cut out by byte positions that come from a diagnostic, and these may be anything.

* Whatever the positions, the range begins at the first byte or later, ends with the last byte at most, and holds a byte
  unless the line is empty (`underline_le`), so that both cuts are within the line.
* Without positions the range is **the trimmed line, where it stands** (`underline_content`).

Both are put together in `underline_within`.
-/

namespace HouseStyle

/-- The bytes of a text from position `lo` up to position `hi`, if these delimit a part of the text. -/
def Text.slice? (t : Text) (lo hi : Nat) : Option Text :=
  if lo ≤ hi ∧ hi ≤ t.length then some ((t.take hi).drop lo) else none

theorem Text.slice?_eq_some {t : Text} {lo hi : Nat} (hlo : lo ≤ hi) (hhi : hi ≤ t.length) :
    t.slice? lo hi = some ((t.take hi).drop lo) := if_pos ⟨hlo, hhi⟩

namespace Snippet

variable {source : Text} {col endCol : Int} {standIn : Nat}

/-! ## Where a range begins and ends -/

/-- Where a range begins if no position is given. -/
def front (source : Text) : Nat := if source.trim.isEmpty then 1 else (source.indexOf? source.trim).getD 0 + 1

/-- Where a range ends if no position is given. -/
def back (source : Text) : Nat :=
  if source.trim.isEmpty then source.length else front source + source.trim.length - 1

/-- A position that is that of a byte of the line, or the one that stands in for it. -/
def resolve (source : Text) (c : Int) (standIn : Nat) : Nat := if 0 < c ∧ c ≤ source.length then c.toNat else standIn

theorem underline_nil (col endCol : Int) : underline [] col endCol = (1, 0) := rfl

theorem underline_of_ne_nil (h : source ≠ []) (col endCol : Int) : underline source col endCol =
    (resolve source col (front source),
      max (resolve source col (front source)) (resolve source endCol (back source))) := by
  simp only [underline, front, back, resolve, List.isEmpty_eq_false_iff.mpr h, Bool.and_eq_true, decide_eq_true_eq,
    Bool.false_eq_true, if_false]

theorem le_resolve (h : 1 ≤ standIn) (source : Text) (c : Int) : 1 ≤ resolve source c standIn := by
  unfold resolve
  split <;> omega

theorem resolve_le (h : standIn ≤ source.length) (c : Int) : resolve source c standIn ≤ source.length := by
  unfold resolve
  split <;> omega

/-- The trimmed line is found within the line. -/
theorem exists_indexOf?_trim (source : Text) :
    ∃ i, source.indexOf? source.trim = some i ∧ i + source.trim.length ≤ source.length := by
  obtain ⟨before, after, hcut⟩ := Text.exists_cut? (Text.trim_isInfix source)
  have hlen := congrArg List.length (Text.eq_append_of_cut? hcut)
  simp only [List.length_append] at hlen
  refine ⟨before.length, by rw [Text.indexOf?, hcut]; rfl, ?_⟩
  omega

theorem front_bounds (h : source ≠ []) : 1 ≤ front source ∧ front source ≤ source.length := by
  obtain ⟨i, hi, hle⟩ := exists_indexOf?_trim source
  have hpos := List.length_pos_iff.mpr h
  unfold front
  split
  · omega
  · next hempty =>
    have hcontent := List.length_pos_iff.mpr (mt List.isEmpty_iff.mpr hempty)
    rw [hi, Option.getD_some]
    omega

theorem back_le (source : Text) : back source ≤ source.length := by
  obtain ⟨i, hi, hle⟩ := exists_indexOf?_trim source
  unfold back front
  split
  · exact Nat.le_refl _
  · rw [hi, Option.getD_some]
    omega

/-! ## The range -/

/-- **Every range is within its line.** -/
theorem underline_le (source : Text) (col endCol : Int) : ∃ start stop, underline source col endCol = (start, stop) ∧
    1 ≤ start ∧ start ≤ stop + 1 ∧ stop ≤ source.length ∧ (source ≠ [] → start ≤ stop) := by
  by_cases h : source = []
  · subst h
    exact ⟨1, 0, underline_nil col endCol, by simp⟩
  · obtain ⟨hfront, hfront'⟩ := front_bounds h
    have hstart := le_resolve hfront source col
    have hstart' := resolve_le hfront' col
    have hstop := resolve_le (back_le source) endCol
    refine ⟨_, _, underline_of_ne_nil h col endCol, ?_⟩
    omega

/-- **A range without positions is the trimmed line**, right after the white space at the front of the line. -/
theorem underline_content (hwell : source.isWellFormed) (hink : source.isBlank = false) :
    underline source 0 0 = (source.margin.length + 1, source.margin.length + source.trim.length) := by
  have hempty : source.trim.isEmpty = false := hink
  have hpos := List.length_pos_iff.mpr (List.isEmpty_eq_false_iff.mp hempty)
  have hne : source ≠ [] := by
    rintro rfl
    cases hink
  have hfront : front source = source.margin.length + 1 := by
    rw [front, hempty, Text.indexOf?_trim hwell hink]
    rfl
  have hback : back source = source.margin.length + source.trim.length := by
    rw [back, hempty, hfront, if_neg (by simp)]
    omega
  have hzero (standIn : Nat) : resolve source 0 standIn = standIn := if_neg (by omega)
  rw [underline_of_ne_nil hne, hzero, hzero, hfront, hback, Nat.max_eq_right (by omega)]

theorem slice?_trim (source : Text) :
    source.slice? source.margin.length (source.margin.length + source.trim.length) = some source.trim := by
  obtain ⟨blanks, hblanks⟩ := Text.exists_eq_margin_append source
  have hlen := congrArg List.length hblanks
  simp only [List.length_append] at hlen
  rw [Text.slice?_eq_some (by omega) (by omega)]
  generalize source.margin = margin, source.trim = content at hblanks
  rw [hblanks, List.take_length_add_append, List.take_left, List.drop_left]

/-- **Underlining cuts within the line and marks the right text.** Whatever the positions, the range begins at the first
byte or later, ends with the last byte at most and holds a byte unless the line is empty, so what stands before it and
what it holds are parts of the line. Without positions it holds the trimmed line, right after the white space at the
front, if the line is well-formed and has a character that is no white space. -/
theorem underline_within (source : Text) :
    (∀ col endCol : Int, ∃ start stop, underline source col endCol = (start, stop) ∧
      1 ≤ start ∧ start ≤ stop + 1 ∧ stop ≤ source.length ∧ (source ≠ [] → start ≤ stop) ∧
      source.slice? 0 (start - 1) = some (source.take (start - 1)) ∧
      source.slice? (start - 1) stop = some ((source.take stop).drop (start - 1))) ∧
    (source.isWellFormed → (∃ g ∈ source.glyphs, g.isBlank = false) →
      underline source 0 0 = (source.margin.length + 1, source.margin.length + source.trim.length) ∧
      source.slice? source.margin.length (source.margin.length + source.trim.length) = some source.trim) := by
  constructor
  · intro col endCol
    obtain ⟨start, stop, hrange, hstart, hle, hstop, hne⟩ := underline_le source col endCol
    refine ⟨start, stop, hrange, hstart, hle, hstop, hne, ?_, ?_⟩
    · rw [Text.slice?_eq_some (Nat.zero_le _) (by omega), List.drop_zero]
    · rw [Text.slice?_eq_some (by omega) hstop]
  · rintro hwell ⟨g, hg, hinked⟩
    have hink : source.isBlank = false := by
      by_contra hblank
      rw [Bool.not_eq_false, Text.isBlank_iff_forall] at hblank
      rw [hblank g hg] at hinked
      cases hinked
    exact ⟨underline_content hwell hink, slice?_trim source⟩

/-- A dash after a wide space, with which it shares its first two bytes. -/
theorem underline_within_wide_space :
    let source : Text := "\t\u2003\u2014x "
    let dash : Glyph := ⟨0x2014, [0xE2, 0x80, 0x94]⟩
    source.isWellFormed ∧ dash ∈ source.glyphs ∧ dash.isBlank = false ∧
      underline source 0 0 = (5, 8) ∧ source.slice? 4 8 = some (Text.ofString "\u2014x") := by
  intro source dash
  have hwell : source.isWellFormed := by decide +kernel
  have hmem : dash ∈ source.glyphs := by decide +kernel
  have hinked : dash.isBlank = false := by decide +kernel
  obtain ⟨hunder, hslice⟩ := (underline_within source).2 hwell ⟨dash, hmem, hinked⟩
  exact ⟨hwell, hmem, hinked, hunder, hslice⟩

end Snippet

end HouseStyle
