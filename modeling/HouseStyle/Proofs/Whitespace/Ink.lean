import HouseStyle.Proofs.Text.Ink
import HouseStyle.Proofs.Whitespace.Clean

/-!
# What fixing does to the ink of a file

Fixing is about white space, so it should keep the newlines of a file and the ink of the pieces between them.

* A line without tabs is copied, and keeps its ink byte for byte.
* **A line with a tab is written anew by its codes** (`inkGlyphs_fixLine`): its characters are mended, so that each
  stray byte becomes a replacement character.

Hence **fixing keeps the ink of a file exactly if its lines with tabs are well-formed** (`fix_keeps_ink_iff`).
-/

namespace HouseStyle

namespace Whitespace

open Text (inkGlyphs)

variable {w : Nat} {t p : Text}

/-! ## Expanding tabs -/

/-- The characters of a line with tabs expanded, where `col` characters stand before. -/
def expandGlyphs (w : Nat) : (col : Nat) → List Glyph → List Glyph
  | _, [] => []
  | col, g :: rest =>
    if g.code = 0x09 then
      let n := w - col % w
      List.replicate n ⟨32, [Text.byte ' ']⟩ ++ expandGlyphs w (col + n) rest
    else g.mended :: expandGlyphs w (col + 1) rest

theorem isBlank_of_tab {g : Glyph} (h : g.code = 0x09) : g.isBlank := by
  rw [Glyph.isBlank, h]
  decide

theorem glyphs_expandFrom : ∀ {col : Nat} {gs : List Glyph}, (∀ g ∈ gs, g ∈ t.glyphs) →
    (expandFrom w col gs).glyphs = expandGlyphs w col gs
  | _, [], _ => rfl
  | col, g :: gs, h => by
    rw [List.forall_mem_cons] at h
    rw [expandFrom, expandGlyphs]
    split
    · dsimp only
      rw [Text.glyphs_spaces, glyphs_expandFrom h.2]
    · rw [Text.glyphs_encode_append h.1, glyphs_expandFrom h.2]

/-- The characters of a line with a tab, expanded. -/
theorem glyphs_expandTabs (h : t.has '\t') : (expandTabs w t).glyphs = expandGlyphs w 0 t.glyphs := by
  rw [expandTabs, if_pos h]
  exact glyphs_expandFrom fun _ hg => hg

/-- Tabs and the spaces that stand for them are no ink. -/
theorem filter_expandGlyphs : ∀ (col : Nat) (gs : List Glyph),
    (expandGlyphs w col gs).filter (!·.isBlank) = (gs.filter (!·.isBlank)).map Glyph.mended
  | _, [] => rfl
  | col, g :: gs => by
    rw [expandGlyphs]
    split
    · next htab =>
      have hspaces : (List.replicate (w - col % w) ⟨32, [Text.byte ' ']⟩).filter (!Glyph.isBlank ·) = [] := by
        rw [List.filter_eq_nil_iff]
        intro g hg
        rw [List.eq_of_mem_replicate hg]
        decide
      dsimp only
      rw [List.filter_append, hspaces, List.nil_append, filter_expandGlyphs,
        List.filter_cons_of_neg (by simp [isBlank_of_tab htab])]
    · rw [List.filter_cons, List.filter_cons, filter_expandGlyphs, Glyph.isBlank_mended]
      cases g.isBlank <;> rfl

/-! ## Fixing a line -/

theorem inkGlyphs_expandTabs : (expandTabs w t).inkGlyphs =
    if t.has '\t' then t.inkGlyphs.map Glyph.mended else t.inkGlyphs := by
  cases h : t.has '\t' with
  | true => rw [if_pos rfl, inkGlyphs, glyphs_expandTabs h, filter_expandGlyphs, inkGlyphs]
  | false => rw [if_neg (by simp), expandTabs_eq_self h]

/-- **A fixed line has the ink of the line**, with its characters mended if the line held a tab. -/
theorem inkGlyphs_fixLine (w : Nat) (p : Text) : (fixLine w p).inkGlyphs =
    if p.has '\t' then p.inkGlyphs.map Glyph.mended else p.inkGlyphs := by
  have hbody (t : Text) : (Text.trimRight (expandTabs w t)).inkGlyphs =
      if t.has '\t' then t.inkGlyphs.map Glyph.mended else t.inkGlyphs := by
    rw [Text.inkGlyphs_trimRight, inkGlyphs_expandTabs]
  rcases Text.trimSuffix_cases p "\r" with hp | ⟨hend, _⟩
  · generalize p.trimSuffix "\r" = body at hp
    have htab : Text.has (body ++ Text.ofString "\r") '\t' = body.has '\t' := by
      have hcr : (Text.ofString "\r").contains (Text.byte '\t') = false := by decide
      rw [Text.has, List.contains_append, hcr, Bool.or_false, Text.has]
    rw [hp, fixLine_cr, Text.inkGlyphs_append_cr, hbody, Text.inkGlyphs_append_cr, htab]
  · rw [fixLine_of_not_endsWith hend, hbody]

theorem ink_fixLine (w : Nat) (p : Text) : (fixLine w p).ink = if p.has '\t' then p.wellFormed.ink else p.ink := by
  rw [Text.ink, inkGlyphs_fixLine]
  split
  · rw [Text.ink, Text.inkGlyphs_wellFormed]
  · rfl

/-! ## Fixing a file -/

/-- Fixing neither adds nor removes newlines. -/
theorem countOf_fix (content : Text) (tabWidth : Int) :
    (fix content tabWidth).countOf '\n' = content.countOf '\n' := by
  have hpieces := congrArg List.length (pieces_fix content tabWidth)
  rw [List.length_map, Text.length_pieces, Text.length_pieces] at hpieces
  omega

/-- **What fixing does to the ink of a file.** The number of newlines stays. A piece between newlines keeps its ink if it
holds no tab, and otherwise has the ink of its well-formed version. So the ink of all pieces is as before exactly if
those with tabs hold no stray bytes. -/
theorem fix_keeps_ink_iff (content : Text) (tabWidth : Int) :
    (fix content tabWidth).countOf '\n' = content.countOf '\n' ∧
    ((fix content tabWidth).pieces '\n').map Text.ink =
      (content.pieces '\n').map (fun p => if p.has '\t' then p.wellFormed.ink else p.ink) ∧
    (((fix content tabWidth).pieces '\n').map Text.ink = (content.pieces '\n').map Text.ink ↔
      ∀ p ∈ content.pieces '\n', p.has '\t' → p.isWellFormed) := by
  have hink : ((fix content tabWidth).pieces '\n').map Text.ink =
      (content.pieces '\n').map (fun p => if p.has '\t' then p.wellFormed.ink else p.ink) := by
    rw [pieces_fix, List.map_map]
    exact List.map_congr_left fun p _ => ink_fixLine _ p
  refine ⟨countOf_fix content tabWidth, hink, ?_⟩
  rw [hink, List.map_inj_left]
  refine forall₂_congr fun p _ => ?_
  split
  · next htab => simp only [htab, forall_const, Text.ink_wellFormed_iff]
  · next htab => simp only [htab, Bool.false_eq_true, false_imp_iff]

/-- A byte of an older encoding before a tab is lost. -/
theorem stray_byte_lost :
    let content : Text := [0xE9, Text.byte '\t', Text.byte 'b']
    fix content 4 = [0xEF, 0xBF, 0xBD] ++ Text.ofString "   b" ∧
      ((fix content 4).pieces '\n').map Text.ink ≠ (content.pieces '\n').map Text.ink := by
  decide +kernel

end Whitespace

end HouseStyle
