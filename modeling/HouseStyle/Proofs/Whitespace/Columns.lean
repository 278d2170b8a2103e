import HouseStyle.Proofs.Whitespace.Ink

/-!
# Expanding tabs keeps columns

The column of a character is the number of cells before it, where a tab goes on to the next tab stop and every other
character takes one cell (`advance`, `cells`). Expanding a list of characters goes through it with the column of the
current one, so that the columns are the places in what has been written:

* after some characters there are as many characters as these take cells (`length_expandGlyphs`), and
* what follows is expanded from their last column on (`expandGlyphs_append`).

Hence **every character stays in its column, and the rest are spaces** (`expandTabs_columns`).
-/

namespace HouseStyle

namespace Whitespace

variable {w col : Nat} {line : Text} {gs : List Glyph}

/-! ## Columns -/

/-- The column after a character, if `col` is its own: a tab goes on to the next multiple of the width of tabs, and every
other character takes one cell. -/
def advance (w col : Nat) (g : Glyph) : Nat := if g.code = 0x09 then (col / w + 1) * w else col + 1

/-- The cells that characters at the front of a line take. The column of a character is what those before it take. -/
def cells (w : Nat) (gs : List Glyph) : Nat := gs.foldl (advance w) 0

/-- A tab stop is the first multiple of the width after the column. -/
theorem add_sub_mod (hw : 0 < w) (col : Nat) : col + (w - col % w) = (col / w + 1) * w := by
  have hmod := Nat.mod_lt col hw
  have hdiv := Nat.div_add_mod col w
  rw [Nat.add_mul, Nat.one_mul, Nat.mul_comm (col / w)]
  omega

theorem advance_tab {g : Glyph} (hw : 0 < w) (h : g.code = 0x09) (col : Nat) :
    advance w col g = col + (w - col % w) := by
  rw [advance, if_pos h, add_sub_mod hw]

theorem advance_of_ne {g : Glyph} (h : g.code ≠ 0x09) (col : Nat) : advance w col g = col + 1 := if_neg h

/-! ## Expanded characters -/

/-- The characters written so far are as many as the cells taken so far. -/
theorem length_expandGlyphs (hw : 0 < w) (col : Nat) (gs : List Glyph) :
    col + (expandGlyphs w col gs).length = gs.foldl (advance w) col := by
  induction gs generalizing col with
  | nil => rfl
  | cons g gs ih =>
    rw [expandGlyphs, List.foldl_cons]
    split
    · next htab =>
      rw [advance_tab hw htab, ← ih, List.length_append, List.length_replicate, Nat.add_assoc]
    · next hne =>
      rw [advance_of_ne hne, ← ih, List.length_cons]
      omega

/-- What follows some characters is expanded from the column after them. -/
theorem expandGlyphs_append (hw : 0 < w) (col : Nat) (gs hs : List Glyph) :
    expandGlyphs w col (gs ++ hs) = expandGlyphs w col gs ++ expandGlyphs w (gs.foldl (advance w) col) hs := by
  induction gs generalizing col with
  | nil => rfl
  | cons g gs ih =>
    rw [List.cons_append, expandGlyphs, expandGlyphs, List.foldl_cons]
    split
    · next htab =>
      dsimp only
      rw [advance_tab hw htab, ih, List.append_assoc]
    · next hne => rw [advance_of_ne hne, ih, List.cons_append]

/-- **A character that is no tab stands in its column.** -/
theorem getElem?_expandGlyphs (hw : 0 < w) {g : Glyph} (hne : g.code ≠ 0x09) (fs gs : List Glyph) :
    (expandGlyphs w 0 (fs ++ g :: gs))[cells w fs]? = some g.mended := by
  have hlen := length_expandGlyphs hw 0 fs
  rw [Nat.zero_add, ← cells] at hlen
  rw [expandGlyphs_append hw, List.getElem?_append_right (Nat.le_of_eq hlen), hlen, Nat.sub_self, expandGlyphs,
    if_neg hne, List.getElem?_cons_zero]

/-- **Every other character is a space.** -/
theorem eq_space_or_column (hw : 0 < w) {j : Nat} {g : Glyph} (hg : (expandGlyphs w col gs)[j]? = some g) :
    g = ⟨32, [Text.byte ' ']⟩ ∨
      ∃ i g', gs[i]? = some g' ∧ g'.code ≠ 0x09 ∧ (gs.take i).foldl (advance w) col = col + j := by
  induction gs generalizing col j with
  | nil => cases hg
  | cons g' gs ih =>
    rw [expandGlyphs] at hg
    split at hg
    · next htab =>
      by_cases hj : j < w - col % w
      · rw [List.getElem?_append_left (by simpa using hj)] at hg
        exact Or.inl (List.eq_of_mem_replicate (List.mem_of_getElem? hg))
      · rw [List.getElem?_append_right (by simpa using hj), List.length_replicate] at hg
        refine (ih hg).imp_right ?_
        rintro ⟨i, g'', hi, hne, hcol⟩
        refine ⟨i + 1, g'', hi, hne, ?_⟩
        rw [List.take_succ_cons, List.foldl_cons, advance_tab hw htab, hcol]
        omega
    · next hne =>
      cases j with
      | zero => exact Or.inr ⟨0, g', rfl, hne, rfl⟩
      | succ j =>
        rw [List.getElem?_cons_succ] at hg
        refine (ih hg).imp_right ?_
        rintro ⟨i, g'', hi, hne', hcol⟩
        refine ⟨i + 1, g'', hi, hne', ?_⟩
        rw [List.take_succ_cons, List.foldl_cons, advance_of_ne hne, hcol]
        omega

/-! ## Expanded lines -/

/-- Without tabs nothing moves. -/
theorem expandGlyphs_of_ne (h : ∀ g ∈ gs, g.code ≠ 0x09) (col : Nat) : expandGlyphs w col gs = gs.map Glyph.mended := by
  induction gs generalizing col with
  | nil => rfl
  | cons g gs ih =>
    rw [List.forall_mem_cons] at h
    rw [expandGlyphs, if_neg h.1, ih h.2, List.map_cons]

/-- The characters of a well-formed line, expanded; a line without tabs is no exception. -/
theorem glyphs_expandTabs_of_isWellFormed (hwell : line.isWellFormed) :
    (expandTabs w line).glyphs = expandGlyphs w 0 line.glyphs := by
  cases htab : line.has '\t' with
  | true => exact glyphs_expandTabs htab
  | false =>
    have hne : ∀ g ∈ line.glyphs, g.code ≠ 0x09 := by
      intro g hg hcode
      have hmem := Text.mem_of_code_lt (by rw [hcode]; decide) hg
      rw [hcode] at hmem
      rw [Text.has, List.contains_eq_mem, decide_eq_false_iff_not] at htab
      exact htab hmem
    rw [expandTabs_eq_self htab, expandGlyphs_of_ne hne]
    conv_lhs => rw [← List.map_id line.glyphs]
    exact List.map_congr_left fun g hg => (Text.mended_of_isWellFormed hwell hg).symm

/-- **Expanding the tabs of a line keeps its columns.** If the line is well-formed and the width of tabs is positive, no
tab is left, there are as many characters as the line has cells, each character of the line but its tabs stands in its
column, and all others are spaces. -/
theorem expandTabs_columns (hw : 1 ≤ w) (hwell : line.isWellFormed) :
    let before := line.glyphs
    let after := (expandTabs w line).glyphs
    (expandTabs w line).has '\t' = false ∧
    after.length = cells w before ∧
    (∀ i g, before[i]? = some g → g.code ≠ 0x09 → after[cells w (before.take i)]? = some g) ∧
    ∀ j < after.length, (∀ i g, before[i]? = some g → g.code ≠ 0x09 → cells w (before.take i) ≠ j) →
      after[j]? = some ⟨0x20, [Text.byte ' ']⟩ := by
  intro before after
  have hafter : after = expandGlyphs w 0 before := glyphs_expandTabs_of_isWellFormed hwell
  refine ⟨?_, ?_, ?_, ?_⟩
  · have hnone : Text.byte '\t' ∉ expandTabs w line := tab_not_mem_expandTabs
    rw [Text.has, List.contains_eq_mem, decide_eq_false hnone]
  · have hlen := length_expandGlyphs hw 0 before
    rwa [Nat.zero_add, ← hafter] at hlen
  · intro i g hg hne
    have hcolumn := getElem?_expandGlyphs hw hne (before.take i) (before.drop (i + 1))
    rwa [← Text.eq_take_append_cons_drop hg, ← hafter,
      Text.mended_of_isWellFormed hwell (List.mem_of_getElem? hg)] at hcolumn
  · intro j hj hother
    have hget : after[j]? = some after[j] := List.getElem?_eq_getElem hj
    have hget' : (expandGlyphs w 0 before)[j]? = some after[j] := by rw [← hafter, hget]
    rw [hget, Option.some.injEq]
    refine (eq_space_or_column hw hget').resolve_right ?_
    rintro ⟨i, g, hi, hne, hcol⟩
    exact hother i g hi hne (by simpa [cells] using hcol)

/-- A tab after two characters of two bytes each, and one at a tab stop. -/
theorem expandTabs_columns_accents :
    let line : Text := "\u00e9\u00e8\tab\tcdef\tg"
    (1 ≤ 4 ∧ line.isWellFormed) ∧
      expandTabs 4 line = Text.ofString "\u00e9\u00e8  ab  cdef    g" ∧
      (expandTabs 4 line).glyphs.length = 17 ∧
      (expandTabs 4 line).glyphs[16]? = some ⟨0x67, [Text.byte 'g']⟩ := by
  intro line
  have hwell : line.isWellFormed := by decide +kernel
  obtain ⟨-, hlen, hcolumn, -⟩ := expandTabs_columns (w := 4) (by decide) hwell
  have hcells : cells 4 line.glyphs = 17 := by decide +kernel
  have hlast : line.glyphs[11]? = some ⟨0x67, [Text.byte 'g']⟩ := by decide +kernel
  have hstop : cells 4 (line.glyphs.take 11) = 16 := by decide +kernel
  refine ⟨⟨by decide, hwell⟩, by decide +kernel, hlen.trans hcells, ?_⟩
  rw [← hstop]
  exact hcolumn 11 _ hlast (by decide)

end Whitespace

end HouseStyle
