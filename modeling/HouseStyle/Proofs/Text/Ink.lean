import Mathlib.Algebra.Order.BigOperators.Group.List
import Mathlib.Algebra.Order.Group.Nat
import HouseStyle.Proofs.Text.Codes

/-!
# Ink

The ink of a text is what is left of it without its white space: its characters (`inkGlyphs`), their codes (`inkCodes`)
and their bytes (`ink`).

* Trimming keeps the ink (`inkGlyphs_trim`), and the first and the last code of the ink are those of the trimmed text
  (`head?_inkCodes`, `getLast?_inkCodes`). A text holds only white space exactly if it has no ink
  (`isBlank_iff_inkCodes`), and a trimmed text is a single ASCII character exactly if its ink is
  (`trim_eq_singleton`).
* Writing a text by its codes keeps its ink exactly if it is well-formed (`ink_wellFormed_iff`).
-/

namespace HouseStyle.Text

/-- The characters of a text that are not white space. -/
def inkGlyphs (t : Text) : List Glyph := t.glyphs.filter (!·.isBlank)

/-- Their codes. -/
def inkCodes (t : Text) : List Nat := t.inkGlyphs.map (·.code)

/-- The text without its white space. A stray byte is kept as it is. -/
def ink (t : Text) : Text := ofGlyphs t.inkGlyphs

variable {t : Text} {b : UInt8}

/-! ## Trimming -/

theorem length_inkGlyphs (t : Text) : t.inkGlyphs.length = t.inkCount := List.countP_eq_length_filter.symm

theorem inkGlyphs_trimRight (t : Text) : t.trimRight.inkGlyphs = t.inkGlyphs := by
  have hblank : (t.glyphs.rtakeWhile (·.isBlank)).filter (!·.isBlank) = [] := by
    rw [List.filter_eq_nil_iff]
    intro g hg
    simpa using List.mem_rtakeWhile_imp hg
  rw [inkGlyphs, glyphs_trimRight, inkGlyphs]
  conv_rhs => rw [← List.rdropWhile_append_rtakeWhile (p := (·.isBlank)) (l := t.glyphs), List.filter_append, hblank]
  rw [List.append_nil]

theorem inkGlyphs_trimLeft (t : Text) : t.trimLeft.inkGlyphs = t.inkGlyphs := by
  have hblank : (t.glyphs.takeWhile (·.isBlank)).filter (!·.isBlank) = [] := by
    rw [List.filter_eq_nil_iff]
    intro g hg
    simpa using List.mem_takeWhile_imp hg
  rw [inkGlyphs, glyphs_trimLeft, inkGlyphs]
  conv_rhs => rw [← List.takeWhile_append_dropWhile (p := (·.isBlank)) (l := t.glyphs), List.filter_append, hblank]
  rw [List.nil_append]

/-- **Trimming keeps the ink.** -/
theorem inkGlyphs_trim (t : Text) : t.trim.inkGlyphs = t.inkGlyphs := by
  rw [trim, inkGlyphs_trimRight, inkGlyphs_trimLeft]

theorem inkGlyphs_append_cr (t : Text) : (t ++ "\r").inkGlyphs = t.inkGlyphs := by
  have hcut : (t ++ Text.ofString "\r").glyphs = t.glyphs ++ glyphs (Text.ofString "\r") :=
    glyphs_append (by decide) [] t
  have hblank : (glyphs (Text.ofString "\r")).filter (!·.isBlank) = [] := by decide
  rw [inkGlyphs, hcut, List.filter_append, hblank, List.append_nil, inkGlyphs]

/-- The first character of a text without white space at its front is ink. -/
theorem isBlank_of_trimLeft {g : Glyph} {gs : List Glyph} (h : t.trimLeft.glyphs = g :: gs) : g.isBlank = false := by
  rw [glyphs_trimLeft] at h
  have hhead := List.head?_dropWhile_not (·.isBlank) t.glyphs
  rw [h, List.head?_cons] at hhead
  simpa using hhead

theorem trimLeft_trim (t : Text) : t.trim.trimLeft = t.trim := by
  rw [trim, trimLeft_trimRight, trimLeft_trimLeft]

theorem getLast?_trim (t : Text) : t.trim.glyphs.getLast?.any (·.isBlank) = false := getLast?_trimRight t.trimLeft

theorem head?_inkCodes (t : Text) : t.inkCodes.head? = t.trimLeft.codes.head? := by
  rw [inkCodes, ← inkGlyphs_trimLeft, inkGlyphs, codes]
  cases h : t.trimLeft.glyphs with
  | nil => rfl
  | cons g gs => simp [isBlank_of_trimLeft h]

theorem getLast?_inkCodes (t : Text) : t.inkCodes.getLast? = t.trim.codes.getLast? := by
  rw [inkCodes, ← inkGlyphs_trim, inkGlyphs, codes, List.getLast?_map, List.getLast?_map]
  have hlast := getLast?_trim t
  rcases List.eq_nil_or_concat' t.trim.glyphs with h | ⟨gs, g, h⟩
  · rw [h]
    rfl
  · rw [h, List.getLast?_concat, Option.any_some] at hlast
    rw [h, List.filter_append, List.filter_cons_of_pos (by simp [hlast]), List.filter_nil, List.getLast?_concat,
      List.getLast?_concat]

theorem isBlank_iff_inkCodes : t.isBlank ↔ t.inkCodes = [] := by
  rw [isBlank_iff_forall, inkCodes, List.map_eq_nil_iff, inkGlyphs, List.filter_eq_nil_iff]
  simp

/-- **A trimmed text is a single ASCII character exactly if its ink is.** -/
theorem trim_eq_singleton (hb : isInk b) : t.trim = [b] ↔ t.inkCodes = [b.toNat] := by
  obtain ⟨hascii, hink⟩ := isInk_iff.mp hb
  constructor
  · intro h
    rw [inkCodes, ← inkGlyphs_trim, h, inkGlyphs, glyphs_ascii hascii]
    simp [Glyph.isBlank, hink]
  · intro h
    have hlast := getLast?_trim t
    rw [inkCodes, ← inkGlyphs_trim, inkGlyphs] at h
    cases hglyphs : t.trim.glyphs with
    | nil =>
      rw [hglyphs] at h
      cases h
    | cons g gs =>
      have hg : g.isBlank = false := isBlank_of_trimLeft ((trimLeft_trim t).symm ▸ hglyphs)
      rw [hglyphs, List.filter_cons_of_pos (by simp [hg]), List.map_cons, List.cons.injEq, List.map_eq_nil_iff,
        List.filter_eq_nil_iff] at h
      obtain ⟨hcode, hblank⟩ := h
      -- All that follows is white space, but the last character is not.
      have hgs : gs = [] := by
        rcases List.eq_nil_or_concat' gs with hnil | ⟨front, last, rfl⟩
        · exact hnil
        · rw [hglyphs, ← List.cons_append, List.getLast?_concat, Option.any_some] at hlast
          exact absurd hlast (by simpa using hblank last (by simp))
      have hbyte := eq_of_code hascii (hglyphs ▸ List.mem_cons_self) hcode
      rw [← ofGlyphs_glyphs t.trim, hglyphs, hgs, hbyte]
      rfl

/-! ## Writing a text by its codes -/

theorem inkGlyphs_wellFormed (t : Text) : t.wellFormed.inkGlyphs = t.inkGlyphs.map Glyph.mended := by
  rw [inkGlyphs, glyphs_wellFormed, List.filter_map]
  rfl

/-- Stray bytes are ink. -/
theorem mem_inkGlyphs_of_isStray {g : Glyph} (hg : g ∈ t.glyphs) (h : g.isStray) : g ∈ t.inkGlyphs := by
  refine List.mem_filter.mpr ⟨hg, ?_⟩
  rw [Glyph.isBlank, (Glyph.isStray_iff.mp h).1]
  decide

/-- Characters do not get shorter by being mended. -/
theorem length_le_mended {g : Glyph} (hg : g ∈ t.glyphs) : g.bytes.length ≤ g.mended.bytes.length := by
  cases hs : g.isStray with
  | true =>
    obtain ⟨hafter, hbefore⟩ := Glyph.length_mended hs
    omega
  | false =>
    obtain ⟨b, rest, rfl⟩ := exists_first hg
    rw [Glyph.mended_first hs]

/-- **Writing a text by its codes keeps its ink exactly if it is well-formed.** -/
theorem ink_wellFormed_iff : t.wellFormed.ink = t.ink ↔ t.isWellFormed := by
  rw [ink, inkGlyphs_wellFormed, ink]
  constructor
  · intro h
    by_contra hstray
    rw [isWellFormed, List.all_eq_true] at hstray
    push Not at hstray
    obtain ⟨g, hg, hs⟩ := hstray
    have hs : g.isStray := by simpa using hs
    -- A stray byte makes the mended ink longer, and no other character makes it shorter.
    have hlt : (ofGlyphs t.inkGlyphs).length < (ofGlyphs (t.inkGlyphs.map Glyph.mended)).length := by
      simp only [ofGlyphs, List.flatMap_map, List.length_flatMap]
      refine List.sum_lt_sum _ _ ?_ ⟨g, mem_inkGlyphs_of_isStray hg hs, ?_⟩
      · intro g' hg'
        exact length_le_mended (List.mem_of_mem_filter hg')
      · obtain ⟨hafter, hbefore⟩ := Glyph.length_mended hs
        omega
    rw [h] at hlt
    exact absurd hlt (Nat.lt_irrefl _)
  · intro h
    have hsame : t.inkGlyphs.map Glyph.mended = t.inkGlyphs := by
      conv_rhs => rw [← List.map_id t.inkGlyphs]
      exact List.map_congr_left fun g hg => mended_of_isWellFormed h (List.mem_of_mem_filter hg)
    rw [hsame]

end HouseStyle.Text
