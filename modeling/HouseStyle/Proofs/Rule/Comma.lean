import HouseStyle.Proofs.Rule.Scan
import HouseStyle.Proofs.Text.Pieces
import HouseStyle.Rule.Spacing

/-!
# Commas

The rule about commas cuts a line at its commas and looks at the pieces. What it asks is a law about each comma of the
line and the characters around it (`IsWellSpaced`): no white space before it, and after it the end of the line or one
space and then a character that is not white space.

* The law of a line is the law of its first comma and that of what follows it (`isWellSpaced_split`).
* The first half of a comma's law is about the end of the piece before it (`endsSpaced_iff`), the second about the front
  of the piece after it (`isWellFollowed_comma`, `afterCommas_last`). White space that fills the piece between two commas
  breaks the law of the second.

Hence **the rule is silent on a line exactly if each of its commas obeys the law** (`comma_silent_iff`).
-/

namespace HouseStyle.Rule

/-! ## The law -/

/-- What follows a comma is the end of the line, or one space and then a character that is not white space. -/
def IsWellFollowed (after : Text) : Prop :=
  after = [] ∨ ∃ rest : Text, after = Text.byte ' ' :: rest ∧ rest.glyphs.head?.any (!·.isBlank)

/-- **The law of commas**: the character before a comma, if there is one, is not white space, and the comma is well
followed. -/
def IsWellSpaced (line : Text) : Prop :=
  ∀ before after : Text, line = before ++ Text.byte ',' :: after →
    before.glyphs.getLast?.any (·.isBlank) = false ∧ IsWellFollowed after

variable {p q t : Text}

theorem glyphs_comma (p t : Text) :
    (p ++ Text.byte ',' :: t).glyphs = p.glyphs ++ ⟨44, [Text.byte ',']⟩ :: t.glyphs := by
  rw [Text.glyphs_append (by decide), Text.glyphs_ascii (by decide)]
  rfl

theorem isWellSpaced_of_not_mem (h : Text.byte ',' ∉ t) : IsWellSpaced t := by
  rintro before after rfl
  simp at h

/-- A comma is not white space, so a comma after a comma has no white space before it. -/
theorem getLast?_after_comma (p t : Text) :
    (p ++ Text.byte ',' :: t).glyphs.getLast?.any (·.isBlank) = t.glyphs.getLast?.any (·.isBlank) := by
  rw [glyphs_comma]
  rcases List.eq_nil_or_concat' t.glyphs with h | ⟨front, g, h⟩
  · rw [h, List.getLast?_concat]
    rfl
  · rw [h, ← List.cons_append, ← List.append_assoc, List.getLast?_concat, List.getLast?_concat]

/-- **The law of a line** is that of its first comma and that of what follows it. -/
theorem isWellSpaced_split (h : Text.byte ',' ∉ p) : IsWellSpaced (p ++ Text.byte ',' :: t) ↔
    (p.glyphs.getLast?.any (·.isBlank) = false ∧ IsWellFollowed t) ∧ IsWellSpaced t := by
  constructor
  · intro hall
    refine ⟨hall p t rfl, ?_⟩
    rintro before after rfl
    have hlaw := hall (p ++ Text.byte ',' :: before) after (by simp)
    rwa [getLast?_after_comma] at hlaw
  · rintro ⟨hfirst, hrest⟩ before after heq
    rcases List.append_eq_append_iff.mp heq with ⟨front, rfl, hsplit⟩ | ⟨back, rfl, hsplit⟩
    · cases front with
      | nil =>
        obtain ⟨_, rfl⟩ := List.cons.inj hsplit
        rwa [List.append_nil]
      | cons b front =>
        obtain ⟨rfl, ht⟩ := List.cons.inj hsplit
        rw [getLast?_after_comma]
        exact hrest front after ht
    · cases back with
      | nil =>
        obtain ⟨_, rfl⟩ := List.cons.inj hsplit
        rwa [List.append_nil] at hfirst
      | cons b back =>
        obtain ⟨rfl, _⟩ := List.cons.inj hsplit
        simp at h

/-! ## Pieces -/

theorem endsSpaced_iff : (afterCommas.endsSpaced p).1 = false ↔ p.glyphs.getLast?.any (·.isBlank) = false := by
  rw [afterCommas.endsSpaced, bne_eq_false_iff_eq]
  constructor
  · intro h
    rw [← h]
    exact Text.getLast?_trimRight p
  · exact Text.trimRight_eq_self

/-- A piece is spaced well if it begins with one space, and no further white space follows. -/
theorem spacedBadly_iff : (afterCommas.spacedBadly p).1 = false ↔
    ∃ rest : Text, p = Text.byte ' ' :: rest ∧ rest.glyphs.head?.any (·.isBlank) = false := by
  have hwidth : ∀ rest : Text, Text.leadingWidth (Text.byte ' ' :: rest) = 1 ↔
      rest.glyphs.head?.any (·.isBlank) = false := by
    intro rest
    rw [Text.leadingWidth, Text.glyphs_ascii (by decide), List.takeWhile_cons_of_pos (by decide), List.length_cons]
    cases rest.glyphs with
    | nil => simp
    | cons g gs => cases hg : g.isBlank <;> simp [hg]
  rw [afterCommas.spacedBadly, Bool.or_eq_false_iff, Bool.not_eq_false', bne_eq_false_iff_eq]
  constructor
  · rintro ⟨hstart, hone⟩
    have hfront : p.head? = some (Text.byte ' ') := Text.startsWith_singleton.mp hstart
    obtain ⟨rest, rfl⟩ := List.head?_eq_some_iff.mp hfront
    exact ⟨rest, rfl, (hwidth rest).mp hone⟩
  · rintro ⟨rest, rfl, hhead⟩
    exact ⟨Text.startsWith_singleton.mpr rfl, (hwidth rest).mpr hhead⟩

/-- The piece between two commas. -/
theorem isWellFollowed_comma : IsWellFollowed (p ++ Text.byte ',' :: t) ↔ (afterCommas.spacedBadly p).1 = false := by
  -- If nothing else stands between the commas, the second is what follows the space.
  have hhead : ∀ rest : Text, (rest ++ Text.byte ',' :: t).glyphs.head?.any (!·.isBlank) ↔
      rest.glyphs.head?.any (·.isBlank) = false := by
    intro rest
    rw [glyphs_comma]
    cases rest.glyphs with
    | nil => exact iff_of_true rfl rfl
    | cons g gs => simp
  rw [spacedBadly_iff]
  constructor
  · rintro (hnil | ⟨rest, hafter, hrest⟩)
    · simp at hnil
    · cases p with
      | nil => exact absurd (List.cons.inj hafter).1 (by decide)
      | cons b p =>
        obtain ⟨rfl, rfl⟩ := List.cons.inj hafter
        exact ⟨p, rfl, (hhead p).mp hrest⟩
  · rintro ⟨rest, rfl, hrest⟩
    exact .inr ⟨_, rfl, (hhead rest).mpr hrest⟩

/-- The piece after the last comma. -/
theorem afterCommas_last : afterCommas [p] = [] ↔ IsWellFollowed p := by
  have hspace : ∀ rest : Text, Text.isBlank (Text.byte ' ' :: rest) ↔ ∀ g ∈ rest.glyphs, g.isBlank := by
    intro rest
    rw [Text.isBlank_iff_forall, Text.glyphs_ascii (by decide), List.forall_mem_cons]
    exact and_iff_right rfl
  rw [afterCommas]
  split_ifs with hempty hblank
  · exact iff_of_true rfl (.inl (List.isEmpty_iff.mp hempty))
  · refine iff_of_false (by simp) ?_
    rintro (rfl | ⟨rest, rfl, hhead⟩)
    · exact hempty rfl
    · rw [hspace] at hblank
      cases hrest : rest.glyphs with
      | nil => simp [hrest] at hhead
      | cons g gs => simp [hrest, hblank g (by simp [hrest])] at hhead
  · rw [messagesWhere_eq_nil, List.forall_mem_singleton, spacedBadly_iff]
    constructor
    · rintro ⟨rest, rfl, hhead⟩
      rw [hspace] at hblank
      refine .inr ⟨rest, rfl, ?_⟩
      cases hrest : rest.glyphs with
      | nil => simp [hrest] at hblank
      | cons g gs => simpa [hrest] using hhead
    · rintro (rfl | ⟨rest, rfl, hhead⟩)
      · exact absurd rfl hempty
      · refine ⟨rest, rfl, ?_⟩
        cases hrest : rest.glyphs with
        | nil => rfl
        | cons g gs => simpa [hrest] using hhead

theorem afterCommas_cons_cons (q r : Text) (rest : List Text) : afterCommas (q :: r :: rest) =
    messagesWhere [afterCommas.endsSpaced q, afterCommas.spacedBadly q] ++ afterCommas (r :: rest) := rfl

/-- What the rule finds in the pieces of a line with a comma. -/
theorem pieces_silent_iff : ∀ {rest : List Text} {p q : Text}, (∀ r ∈ p :: q :: rest, Text.byte ',' ∉ r) →
    ((afterCommas.endsSpaced p).1 = false ∧ afterCommas (q :: rest) = [] ↔
      IsWellSpaced (Text.join [Text.byte ','] (p :: q :: rest)))
  | [], p, q, hnone => by
    have hq : IsWellSpaced q := isWellSpaced_of_not_mem (hnone q (by simp))
    rw [Text.join, Text.join, List.append_assoc, List.singleton_append, isWellSpaced_split (hnone p (by simp)),
      and_iff_left hq, endsSpaced_iff, afterCommas_last]
  | r :: rest, p, q, hnone => by
    have ih := pieces_silent_iff (List.forall_mem_cons.mp hnone).2
    have hjoin : Text.join [Text.byte ','] (q :: r :: rest) =
        q ++ Text.byte ',' :: Text.join [Text.byte ','] (r :: rest) := by
      rw [Text.join, List.append_assoc, List.singleton_append]
    rw [Text.join, List.append_assoc, List.singleton_append, isWellSpaced_split (hnone p (by simp)), ← ih, hjoin,
      isWellFollowed_comma, afterCommas_cons_cons, List.append_eq_nil_iff, endsSpaced_iff, messagesWhere_eq_nil,
      List.forall_mem_cons, List.forall_mem_singleton]
    tauto

theorem commaMessages_eq_nil_iff (line : Text) : commaMessages line = [] ↔ IsWellSpaced line := by
  have hnone : ∀ r ∈ line.pieces ',', Text.byte ',' ∉ r := fun r hr => Text.not_mem_of_mem_pieces hr
  have hjoin := Text.join_pieces ',' line
  rw [commaMessages]
  split
  · next h => exact absurd h (Text.pieces_ne_nil ',' line)
  · next p h =>
    rw [h, Text.join] at hjoin
    rw [h, hjoin] at hnone
    exact iff_of_true rfl (isWellSpaced_of_not_mem (hnone line (by simp)))
  · next p rest hne h =>
    obtain ⟨q, rest, rfl⟩ := List.exists_cons_of_ne_nil hne
    rw [← hjoin, h, ← pieces_silent_iff (h ▸ hnone), List.append_eq_nil_iff, messagesWhere_eq_nil,
      List.forall_mem_singleton]

/-- **The rule is silent on a line exactly if each of its commas obeys the law**: the character before it, if there is
one, is not white space, and after it stands the end of the line, or one space and then a character that is not white
space. -/
theorem comma_silent_iff (name : Text) (before : List Text) (line : Text) (after : List Text) :
    comma.IsSilentOn ⟨name, before ++ line :: after⟩ (before.length + 1) ↔ IsWellSpaced line :=
  (isSilentOn_perLine rfl name before line after).trans (commaMessages_eq_nil_iff line)

end HouseStyle.Rule
