import HouseStyle.Proofs.Text.Boundary
import HouseStyle.Proofs.Text.Pieces

/-!
# Block comments

A block comment reaches from `/*` to the next `*/`, over as many lines as it takes. `Comment.outside` reads a line
character by character and keeps those that stand outside comments.

* Where no comment is open and none begins, all is outside (`outside_of_no_opener`); where one is open and does not end,
  nothing is (`outside_of_no_closer`).
* White space in front does not matter (`outside_blanks`).
* **Where no comment is open at the end**, the line ends in `*/` or in a character outside comments, unless it is blank
  (`outside_closed`).
-/

namespace HouseStyle.Comment

/-! ## Characters -/

/-- The character `/`. -/
def slash : Glyph := ⟨47, [Text.byte '/']⟩

/-- The character `*`. -/
def star : Glyph := ⟨42, [Text.byte '*']⟩

/-- The characters of a line outside block comments, and whether a comment is open after the line; `isOpen` says whether
one is open before it. -/
def outside : (isOpen : Bool) → List Glyph → List Glyph × Bool
  | isOpen, [] => ([], isOpen)
  | false, [g] => ([g], false)
  | true, [_] => ([], true)
  | false, g :: h :: rest =>
    if g = slash ∧ h = star then outside true rest
    else
      let seen := outside false (h :: rest)
      (g :: seen.1, seen.2)
  | true, g :: h :: rest => if g = star ∧ h = slash then outside false rest else outside true (h :: rest)

variable {gs blanks : List Glyph} {isOpen : Bool}

theorem outside_of_no_opener : ∀ {gs : List Glyph}, ¬[slash, star] <:+: gs → outside false gs = (gs, false)
  | [], _ => rfl
  | [_], _ => rfl
  | g :: h :: rest, hnone => by
    have hpair : ¬(g = slash ∧ h = star) := by
      rintro ⟨rfl, rfl⟩
      exact hnone ⟨[], rest, rfl⟩
    rw [outside, if_neg hpair, outside_of_no_opener fun hrest => hnone (List.infix_cons hrest)]

theorem outside_of_no_closer : ∀ {gs : List Glyph}, ¬[star, slash] <:+: gs → outside true gs = ([], true)
  | [], _ => rfl
  | [_], _ => rfl
  | g :: h :: rest, hnone => by
    have hpair : ¬(g = star ∧ h = slash) := by
      rintro ⟨rfl, rfl⟩
      exact hnone ⟨[], rest, rfl⟩
    rw [outside, if_neg hpair, outside_of_no_closer fun hrest => hnone (List.infix_cons hrest)]

theorem outside_blanks (hblanks : ∀ g ∈ blanks, g.isBlank) :
    outside false (blanks ++ gs) = (blanks ++ (outside false gs).1, (outside false gs).2) := by
  induction blanks with
  | nil => rfl
  | cons g blanks ih =>
    have ih := ih fun h hh => hblanks h (List.mem_cons_of_mem g hh)
    have hg : g ≠ slash := by
      rintro rfl
      exact absurd (hblanks slash List.mem_cons_self) (by decide)
    cases hrest : blanks ++ gs with
    | nil =>
      obtain ⟨rfl, rfl⟩ := List.append_eq_nil_iff.mp hrest
      rfl
    | cons h rest =>
      rw [hrest] at ih
      rw [List.cons_append, hrest, outside, if_neg fun hpair => hg hpair.1, ih]
      rfl

/-- The last characters but white space are `*/`. -/
def ClosesLast (gs : List Glyph) : Prop :=
  ∃ front blanks, gs = front ++ ([star, slash] ++ blanks) ∧ ∀ g ∈ blanks, g.isBlank

theorem ClosesLast.cons {g : Glyph} (h : ClosesLast gs) : ClosesLast (g :: gs) := by
  obtain ⟨front, blanks, rfl, hblanks⟩ := h
  exact ⟨g :: front, blanks, rfl, hblanks⟩

/-- **Where no comment is open at the end**, the last character that is not white space stands outside comments or ends
one. -/
theorem outside_closed (h : (outside isOpen gs).2 = false) :
    (outside isOpen gs).1.any (!·.isBlank) ∨ ClosesLast gs ∨ (isOpen = false ∧ ∀ g ∈ gs, g.isBlank) := by
  fun_induction outside isOpen gs with
  | case1 isOpen => exact .inr (.inr ⟨h, by simp⟩)
  | case2 g =>
    cases hg : g.isBlank with
    | true => exact .inr (.inr ⟨rfl, by simpa using hg⟩)
    | false => exact .inl (by simpa using hg)
  | case3 => cases h
  | case4 g g' rest hpair ih =>
    rcases ih h with hink | hlast | ⟨hopen, _⟩
    · exact .inl hink
    · exact .inr (.inl hlast.cons.cons)
    · cases hopen
  | case5 g g' rest hpair seen ih =>
    rcases ih h with hink | hlast | ⟨_, hblank⟩
    · exact .inl (by simp [seen, hink])
    · exact .inr (.inl hlast.cons)
    · cases hg : g.isBlank with
      | true => exact .inr (.inr ⟨rfl, List.forall_mem_cons.mpr ⟨hg, hblank⟩⟩)
      | false => exact .inl (by simp [hg])
  | case6 g g' rest hpair ih =>
    rcases ih h with hink | hlast | ⟨_, hblank⟩
    · exact .inl hink
    · exact .inr (.inl hlast.cons.cons)
    · exact .inr (.inl ⟨[], rest, by rw [hpair.1, hpair.2]; rfl, hblank⟩)
  | case7 g g' rest hpair ih =>
    rcases ih h with hink | hlast | ⟨hopen, _⟩
    · exact .inl hink
    · exact .inr (.inl hlast.cons)
    · cases hopen

/-! ## Lines -/

variable {line : Text}

/-- Two ASCII characters in a text are two characters in a row. -/
theorem glyphs_pair {a b : UInt8} (ha : a < 0x80) (hb : b < 0x80) (front rest : Text) :
    (front ++ ([a, b] ++ rest)).glyphs =
      front.glyphs ++ ([⟨a.toNat, [a]⟩, ⟨b.toNat, [b]⟩] ++ rest.glyphs) := by
  rw [List.cons_append, List.singleton_append, Text.glyphs_append (Glyph.isTail_of_ascii ha), Text.glyphs_ascii ha,
    Text.glyphs_ascii hb]
  rfl

theorem pair_infix_iff {a b : UInt8} (ha : a < 0x80) (hb : b < 0x80) :
    [a, b] <:+: line ↔ [⟨a.toNat, [a]⟩, ⟨b.toNat, [b]⟩] <:+: line.glyphs := by
  constructor
  · rintro ⟨front, rest, rfl⟩
    rw [List.append_assoc, glyphs_pair ha hb]
    exact ⟨Text.glyphs front, Text.glyphs rest, List.append_assoc _ _ _⟩
  · rintro ⟨front, rest, h⟩
    refine ⟨Text.ofGlyphs front, Text.ofGlyphs rest, ?_⟩
    rw [← Text.ofGlyphs_glyphs line, ← h, Text.ofGlyphs_append, Text.ofGlyphs_append]
    rfl

theorem includes_opener : line.includes "/*" ↔ [slash, star] <:+: line.glyphs :=
  Text.includes_iff.trans (pair_infix_iff (a := Text.byte '/') (b := Text.byte '*') (by decide) (by decide))

theorem includes_closer : line.includes "*/" ↔ [star, slash] <:+: line.glyphs :=
  Text.includes_iff.trans (pair_infix_iff (a := Text.byte '*') (b := Text.byte '/') (by decide) (by decide))

/-- A line that begins with a comment. -/
theorem exists_of_startsWith (h : line.trimLeft.startsWith "/*") :
    ∃ blanks rest, line.glyphs = blanks ++ ([slash, star] ++ rest) ∧ ∀ g ∈ blanks, g.isBlank := by
  obtain ⟨blanks, hline, hblank⟩ := Text.exists_append_trimLeft line
  obtain ⟨rest, hrest⟩ := List.isPrefixOf_iff_prefix.mp h
  refine ⟨blanks.glyphs, Text.glyphs rest, ?_, Text.isBlank_iff_forall.mp hblank⟩
  rw [hline, ← hrest]
  exact glyphs_pair (a := Text.byte '/') (b := Text.byte '*') (by decide) (by decide) blanks rest

theorem ClosesLast.endsWith (h : ClosesLast line.glyphs) : line.trimRight.endsWith "*/" := by
  obtain ⟨front, blanks, hglyphs, hblank⟩ := h
  have hline : line = Text.ofGlyphs front ++ Text.byte '*' :: ([] ++ Text.byte '/' :: Text.ofGlyphs blanks) := by
    rw [← Text.ofGlyphs_glyphs line, hglyphs, Text.ofGlyphs_append, Text.ofGlyphs_append]
    rfl
  have hend : (Text.ofGlyphs blanks).trimRight = [] := by
    rw [← List.append_assoc] at hglyphs
    rw [Text.trimRight, Text.glyphs_ofGlyphs_suffix _ hglyphs, ← List.rdropWhile, List.rdropWhile_eq_nil_iff.mpr hblank]
    rfl
  rw [hline, Text.trimRight_append (by decide), Text.trimRight_append (by decide), hend, Text.endsWith,
    List.isSuffixOf_iff_suffix]
  exact ⟨Text.ofGlyphs front, rfl⟩

end HouseStyle.Comment
