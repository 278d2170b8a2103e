import Mathlib.Data.List.DropRight
import HouseStyle.Text.Blank

/-!
# Trimming

Trimming works on the characters of a text, and every cut it makes lies between two characters, so the characters of
a trimmed text are characters of the text (`glyphs_ofGlyphs_suffix`).

* Trimming the front leaves no white space there (`leadingWidth_trimLeft`, `trimLeft_trimLeft`).
* A run of spaces in front of a text counts in full for the width and not at all for the trimmed text
  (`leadingWidth_spaces`, `trimLeft_spaces`).
* A text holds only white space exactly if trimming its front leaves nothing (`isBlank_iff`).
-/

namespace HouseStyle.Text

/-! ## Characters -/

/-- The bytes of two lists of characters in a row. -/
theorem ofGlyphs_append (gs hs : List Glyph) : ofGlyphs (gs ++ hs) = ofGlyphs gs ++ ofGlyphs hs := by
  simp [ofGlyphs]

/-- An ASCII byte is a character of its own. -/
theorem glyphs_ascii {b : UInt8} (hb : b < 0x80) (rest : Text) :
    glyphs (b :: rest) = ⟨b.toNat, [b]⟩ :: glyphs rest := by
  have hf : Glyph.first b rest = ⟨b.toNat, [b]⟩ := by simp [Glyph.first, hb]
  rw [glyphs_cons, hf]
  rfl

/-- Every character takes at least one byte. -/
theorem bytes_ne_nil {t : Text} {g : Glyph} (hg : g ∈ t.glyphs) : g.bytes ≠ [] := by
  induction h : t.length using Nat.strongRecOn generalizing t with
  | _ n ih =>
    cases t with
    | nil => cases hg
    | cons b rest =>
      rw [glyphs_cons] at hg
      rcases List.mem_cons.mp hg with rfl | hg
      · intro hnil
        have := first_bytes b rest
        rw [hnil] at this
        have hlen := congrArg List.length this
        simp at hlen
      · refine ih _ ?_ hg rfl
        simp only [← h, List.length_cons, List.length_drop]
        omega

/-- Characters that take no bytes are no characters. -/
theorem ofGlyphs_eq_nil {t : Text} {gs : List Glyph} (hs : ∀ g ∈ gs, g ∈ t.glyphs) (h : ofGlyphs gs = []) :
    gs = [] := by
  cases gs with
  | nil => rfl
  | cons g gs =>
    simp only [ofGlyphs, List.flatMap_cons, List.append_eq_nil_iff] at h
    exact absurd h.1 (bytes_ne_nil (hs g List.mem_cons_self))

/-- What is left after some characters of a text has the characters that are left. -/
theorem glyphs_ofGlyphs_suffix {gs : List Glyph} : ∀ {t : Text} (fs : List Glyph), t.glyphs = fs ++ gs →
    (ofGlyphs gs).glyphs = gs
  | t, [], h => by
    have ht : ofGlyphs gs = t := by
      rw [← ofGlyphs_glyphs t, h]
      rfl
    rw [ht]
    exact h
  | [], f :: fs, h => by cases h
  | b :: rest, f :: fs, h => by
    rw [glyphs_cons, List.cons_append, List.cons.injEq] at h
    exact glyphs_ofGlyphs_suffix fs h.2

/-! ## The front -/

/-- The characters of a text without white space at its front. -/
theorem glyphs_trimLeft (t : Text) : t.trimLeft.glyphs = t.glyphs.dropWhile (·.isBlank) :=
  glyphs_ofGlyphs_suffix (t.glyphs.takeWhile (·.isBlank)) List.takeWhile_append_dropWhile.symm

theorem trimLeft_trimLeft (t : Text) : t.trimLeft.trimLeft = t.trimLeft := by
  conv_lhs => rw [trimLeft, glyphs_trimLeft, List.dropWhile_idempotent]
  rfl

theorem leadingWidth_trimLeft (t : Text) : t.trimLeft.leadingWidth = 0 := by
  rw [leadingWidth, glyphs_trimLeft, List.length_eq_zero_iff, List.takeWhile_eq_nil_iff]
  intro hl
  exact List.dropWhile_get_zero_not _ _ hl

/-- A text without white space at its front is its own trimmed form. -/
theorem trimLeft_eq_self {t : Text} (h : t.leadingWidth = 0) : t.trimLeft = t := by
  have htake : t.glyphs.takeWhile (·.isBlank) = [] := List.eq_nil_of_length_eq_zero h
  have hdrop : t.glyphs.dropWhile (·.isBlank) = t.glyphs := by
    conv_rhs => rw [← List.takeWhile_append_dropWhile (p := (·.isBlank)) (l := t.glyphs), htake]
    rfl
  rw [trimLeft, hdrop, ofGlyphs_glyphs]

/-! ## The end -/

/-- Trimming the end leaves a beginning of the text. -/
theorem trimRight_isPrefix (t : Text) : t.trimRight <+: t := by
  obtain ⟨gs, hgs⟩ := List.rdropWhile_prefix (·.isBlank) t.glyphs
  refine ⟨ofGlyphs gs, ?_⟩
  conv_rhs => rw [← ofGlyphs_glyphs t, ← hgs, ofGlyphs_append]
  rfl

/-- Trimming leaves a beginning of the text without white space at its front. -/
theorem trim_isPrefix (t : Text) : t.trim <+: t.trimLeft := trimRight_isPrefix _

/-- If trimming the end leaves nothing, all was white space. -/
theorem blank_of_trimRight {t : Text} (h : t.trimRight = []) : ∀ g ∈ t.glyphs, g.isBlank := by
  have hsub := List.rdropWhile_prefix (·.isBlank) t.glyphs
  have hnil : t.glyphs.rdropWhile (·.isBlank) = [] := ofGlyphs_eq_nil (t := t) (fun _ hg => hsub.subset hg) h
  exact List.rdropWhile_eq_nil_iff.mp hnil

/-- A text holds only white space exactly if trimming its front leaves nothing. -/
theorem isBlank_iff {t : Text} : t.isBlank ↔ t.trimLeft = [] := by
  rw [isBlank, List.isEmpty_iff]
  constructor
  · intro h
    have hall := blank_of_trimRight h
    rw [glyphs_trimLeft] at hall
    have hnil : t.glyphs.dropWhile (·.isBlank) = [] := by
      rw [← List.dropWhile_idempotent, List.dropWhile_eq_nil_iff]
      exact hall
    rw [trimLeft, hnil]
    rfl
  · intro h
    rw [trim, h]
    rfl

/-! ## Spaces in front -/

/-- Every space in front of a text is a character of its own. -/
theorem glyphs_spaces (n : Nat) (t : Text) :
    (spaces n ++ t).glyphs = List.replicate n ⟨32, [byte ' ']⟩ ++ t.glyphs := by
  induction n with
  | zero => rfl
  | succ n ih =>
    have hb : byte ' ' < 0x80 := by decide
    simp only [spaces, List.replicate_succ, List.cons_append] at ih ⊢
    rw [glyphs_ascii hb, ih]
    rfl

theorem trimLeft_spaces (n : Nat) (t : Text) : (spaces n ++ t).trimLeft = t.trimLeft := by
  rw [trimLeft, glyphs_spaces, List.dropWhile_append_of_pos, ← trimLeft]
  intro g hg
  rw [List.eq_of_mem_replicate hg]
  rfl

theorem leadingWidth_spaces (n : Nat) (t : Text) : (spaces n ++ t).leadingWidth = n + t.leadingWidth := by
  rw [leadingWidth, glyphs_spaces, List.takeWhile_append_of_pos, List.length_append, List.length_replicate,
    ← leadingWidth]
  intro g hg
  rw [List.eq_of_mem_replicate hg]
  rfl

end HouseStyle.Text
