import Mathlib.Data.List.Basic
import Mathlib.Data.List.TakeDrop
import HouseStyle.Text.Basic

/-!
# Pieces of a text

Cutting a text at a byte and joining pieces with it are inverse to each other (`join_pieces`, `pieces_join`), so a text
may be changed by changing one of its pieces:

* a piece stands after the pieces before it, each with its separator, and before the others (`join_around`);
* what is appended to a text without separators is appended to its last piece (`pieces_append`).

A byte that does not occur in a separator divides the search for it (`cut?_append`).
-/

namespace HouseStyle.Text

variable {c : Char} {t p : Text} {ps : List Text}

theorem pieces_eq_splitOn (c : Char) : ∀ t : Text, pieces c t = t.splitOn (byte c)
  | [] => rfl
  | b :: rest => by
    rw [pieces, pieces_eq_splitOn c rest, List.splitOn_cons_eq_if_modifyHead]
    obtain ⟨p, ps, hp⟩ := List.exists_cons_of_ne_nil (List.splitOn_ne_nil (byte c) rest)
    simp only [hp, List.modifyHead_cons, beq_iff_eq]

theorem join_eq_intercalate (sep : Text) : ∀ ps : List Text, join sep ps = sep.intercalate ps
  | [] => rfl
  | [p] => by simp [join]
  | p :: q :: ps => by
    rw [join, join_eq_intercalate sep (q :: ps), List.intercalate_cons_cons]

/-- Cutting at the separator gives back the pieces that were joined. -/
theorem pieces_join (hne : ps ≠ []) (h : ∀ p ∈ ps, byte c ∉ p) : pieces c (join [byte c] ps) = ps := by
  rw [pieces_eq_splitOn, join_eq_intercalate, List.splitOn_intercalate _ h hne]

/-- The separator occurs in no piece. -/
theorem not_mem_of_mem_pieces (h : p ∈ pieces c t) : byte c ∉ p := by
  induction t generalizing p with
  | nil =>
    obtain rfl := List.mem_singleton.mp h
    exact List.not_mem_nil
  | cons b rest ih =>
    rw [pieces] at h
    split at h
    · rcases List.mem_cons.mp h with rfl | h
      · exact List.not_mem_nil
      · exact ih h
    · next hb =>
      obtain ⟨q, qs, hq⟩ := List.exists_cons_of_ne_nil (pieces_ne_nil c rest)
      rw [hq] at h ih
      rcases List.mem_cons.mp h with rfl | h
      · rw [List.mem_cons, not_or]
        exact ⟨fun h => hb h.symm, ih List.mem_cons_self⟩
      · exact ih (List.mem_cons_of_mem q h)

/-- A list around one of its members. -/
theorem eq_take_append_cons_drop {α : Type} {l : List α} {i : Nat} {a : α} (h : l[i]? = some a) :
    l = l.take i ++ a :: l.drop (i + 1) := by
  conv_lhs => rw [← List.take_append_drop i l, List.drop_eq_getElem?_toList_append, h]
  rfl

/-- There is one piece more than there are separators. -/
theorem length_pieces (c : Char) : ∀ t : Text, (pieces c t).length = t.countOf c + 1
  | [] => rfl
  | b :: rest => by
    have ih := length_pieces c rest
    rw [countOf] at ih
    rw [pieces, countOf, List.count_cons]
    split
    · next hb => simp [hb, ih]
    · next hb =>
      obtain ⟨q, qs, hq⟩ := List.exists_cons_of_ne_nil (pieces_ne_nil c rest)
      rw [hq] at ih ⊢
      simpa [hb] using ih

theorem join_cons (sep p : Text) (after : List Text) : join sep (p :: after) = p ++ after.flatMap (sep ++ ·) := by
  induction after generalizing p with
  | nil => simp [join]
  | cons q after ih =>
    rw [join, ih q]
    simp

/-- A piece stands after the pieces before it, each with its separator, and before the others. -/
theorem join_around (sep p : Text) (after : List Text) : ∀ before : List Text,
    join sep (before ++ p :: after) = before.flatMap (· ++ sep) ++ (p ++ after.flatMap (sep ++ ·))
  | [] => join_cons sep p after
  | q :: before => by
    obtain ⟨r, rs, hr⟩ : ∃ r rs, before ++ p :: after = r :: rs := List.exists_cons_of_ne_nil (by simp)
    have ih := join_around sep p after before
    rw [List.cons_append]
    rw [hr] at ih ⊢
    rw [join, ih]
    simp

/-- What is appended without separators is appended to the last piece. -/
theorem pieces_append {s : Text} (hs : byte c ∉ s) (h : pieces c t = ps ++ [p]) :
    pieces c (t ++ s) = ps ++ [p ++ s] := by
  have ht : t = join [byte c] (ps ++ [p]) := by rw [← h, join_pieces]
  have hjoin : t ++ s = join [byte c] (ps ++ [p ++ s]) := by
    rw [ht, join_around, join_around]
    simp
  have hmem : ∀ q ∈ ps ++ [p], byte c ∉ q := fun q hq => not_mem_of_mem_pieces (h ▸ hq)
  rw [hjoin, pieces_join (by simp)]
  intro q hq
  rcases List.mem_append.mp hq with hq | hq
  · exact hmem q (List.mem_append_left _ hq)
  · obtain rfl := List.mem_singleton.mp hq
    rw [List.mem_append, not_or]
    exact ⟨hmem p (List.mem_append_right _ (List.mem_singleton_self p)), hs⟩

/-- A text is its pieces but the last, each with a newline after it, and the last. -/
theorem eq_unlines (h : pieces '\n' t = ps ++ [p]) : t = unlines ps ++ p := by
  rw [← join_pieces '\n' t, h, join_around]
  simp [unlines]

theorem pieces_unlines (hps : ∀ q ∈ ps, byte '\n' ∉ q) (hp : byte '\n' ∉ p) :
    pieces '\n' (unlines ps ++ p) = ps ++ [p] := by
  have hjoin : unlines ps ++ p = join [byte '\n'] (ps ++ [p]) := by
    rw [join_around]
    simp [unlines]
  rw [hjoin, pieces_join (by simp)]
  intro q hq
  rcases List.mem_append.mp hq with hq | hq
  · exact hps q hq
  · rwa [List.mem_singleton.mp hq]

/-! ## First occurrences -/

/-- The bytes of a class at the front of a text are those before the first of another class. -/
theorem span_append {q : UInt8 → Bool} {rest : Text} (ht : ∀ b ∈ t, q b) (hrest : rest.head?.any q = false) :
    (t ++ rest).span q = (t, rest) := by
  have hstop : rest.takeWhile q = [] ∧ rest.dropWhile q = rest := by
    cases rest with
    | nil => exact ⟨rfl, rfl⟩
    | cons b tail =>
      have hb : ¬q b := by simpa using hrest
      exact ⟨List.takeWhile_cons_of_neg hb, List.dropWhile_cons_of_neg hb⟩
  rw [List.span_eq_takeWhile_dropWhile, List.takeWhile_append_of_pos ht, List.dropWhile_append_of_pos ht, hstop.1,
    hstop.2, List.append_nil]

theorem afterPrefix?_append {c : UInt8} (hc : c ∉ p) (rest : Text) :
    afterPrefix? (t ++ c :: rest) p = (afterPrefix? t p).map (· ++ c :: rest) := by
  fun_induction afterPrefix? t p with
  | case1 => simp [afterPrefix?]
  | case2 b p =>
    have hb : c ≠ b := fun h => hc (h ▸ List.mem_cons_self)
    rw [List.nil_append, afterPrefix?, if_neg hb]
    rfl
  | case3 b t p ih =>
    rw [List.cons_append, afterPrefix?, if_pos rfl]
    exact ih fun h => hc (List.mem_cons_of_mem _ h)
  | case4 b t d p h =>
    rw [List.cons_append, afterPrefix?, if_neg h]
    rfl

/-- The parts of a text that is cut make it up again. -/
theorem eq_append_of_cut? {sep before after : Text} : ∀ {t : Text}, cut? sep t = some (before, after) →
    t = before ++ (sep ++ after)
  | [], h => by
    rw [cut?] at h
    split at h
    · next hsep =>
      cases h
      rw [List.isEmpty_iff.mp hsep]
      rfl
    · cases h
  | b :: t, h => by
    rw [cut?] at h
    split at h
    · next after' hafter =>
      cases h
      rw [List.nil_append]
      exact afterPrefix?_eq_some.mp hafter
    · obtain ⟨⟨before', after'⟩, hcut, hparts⟩ := Option.map_eq_some_iff.mp h
      cases hparts
      rw [List.cons_append, ← eq_append_of_cut? hcut]

/-- A byte that the separator does not hold divides the search: the first occurrence lies before it or after it. -/
theorem cut?_append {c : UInt8} {sep : Text} (hc : c ∉ sep) (hne : sep ≠ []) (rest : Text) : ∀ t : Text,
    cut? sep (t ++ c :: rest) =
      match cut? sep t with
      | some (before, after) => some (before, after ++ c :: rest)
      | none => (cut? sep rest).map fun (before, after) => (t ++ c :: before, after)
  | [] => by
    have hnone : afterPrefix? (c :: rest) sep = none := by
      rw [← List.nil_append (c :: rest), afterPrefix?_append hc]
      cases sep with
      | nil => exact absurd rfl hne
      | cons b sep => rfl
    rw [List.nil_append, cut?, List.isEmpty_eq_false_iff.mpr hne, cut?, hnone]
    rfl
  | b :: t => by
    rw [List.cons_append, cut?, ← List.cons_append, afterPrefix?_append hc, cut?_append hc hne rest t, cut?]
    cases afterPrefix? (b :: t) sep with
    | some after => rfl
    | none =>
      cases cut? sep t with
      | some parts => rfl
      | none =>
        simp only [Option.map_none, Option.map_map]
        rfl

/-- A text is cut where its separator is first begun. -/
theorem cut?_append_sep {sep : Text} (b : UInt8) (rest : Text) : ∀ t : Text, b ∉ t →
    cut? (b :: sep) (t ++ (b :: sep ++ rest)) = some (t, rest)
  | [], _ => by
    have h : afterPrefix? (b :: sep ++ rest) (b :: sep) = some rest := afterPrefix?_eq_some.mpr rfl
    rw [List.nil_append, List.cons_append, cut?]
    rw [List.cons_append] at h
    rw [h]
  | a :: t, hb => by
    rw [List.mem_cons, not_or] at hb
    rw [List.cons_append, cut?, afterPrefix?, if_neg (fun h => hb.1 h.symm), cut?_append_sep b rest t hb.2]
    rfl

/-- To occur in a text is to stand between two parts of it. -/
theorem includes_iff {s : Text} : ∀ {t : Text}, t.includes s ↔ s <:+: t
  | [] => by
    rw [includes, startsWith, Bool.or_false, List.isPrefixOf_iff_prefix]
    constructor
    · exact List.IsPrefix.isInfix
    · intro h
      exact List.eq_nil_of_infix_nil h ▸ List.nil_prefix
  | b :: rest => by
    rw [includes, Bool.or_eq_true, includes_iff, startsWith, List.isPrefixOf_iff_prefix, List.infix_cons_iff]

/-! ## Ends of texts -/

theorem startsWith_singleton {b : UInt8} : t.startsWith [b] ↔ t.head? = some b := by
  rw [startsWith, List.isPrefixOf_iff_prefix]
  constructor
  · rintro ⟨rest, rfl⟩
    rfl
  · intro h
    obtain ⟨rest, rfl⟩ := List.head?_eq_some_iff.mp h
    exact ⟨rest, rfl⟩

theorem endsWith_singleton {b : UInt8} : t.endsWith [b] ↔ t.getLast? = some b := by
  rw [endsWith, List.isSuffixOf_iff_suffix]
  constructor
  · rintro ⟨front, rfl⟩
    exact List.getLast?_concat
  · intro h
    obtain ⟨front, rfl⟩ := List.getLast?_eq_some_iff.mp h
    exact ⟨front, rfl⟩

theorem beforeSuffix?_append (t s : Text) : (t ++ s).beforeSuffix? s = some t := by
  have hend : (t ++ s).endsWith s := List.isSuffixOf_iff_suffix.mpr (List.suffix_append t s)
  rw [beforeSuffix?, if_pos hend]
  simp

theorem beforeSuffix?_eq_none {s : Text} (h : t.endsWith s = false) : t.beforeSuffix? s = none := by
  rw [beforeSuffix?, h]
  rfl

theorem trimSuffix_append (t s : Text) : (t ++ s).trimSuffix s = t := by
  rw [trimSuffix, beforeSuffix?_append, Option.getD_some]

theorem trimSuffix_of_not_endsWith {s : Text} (h : t.endsWith s = false) : t.trimSuffix s = t := by
  rw [trimSuffix, beforeSuffix?_eq_none h, Option.getD_none]

/-- A text is what is left without an end, with the end put back if there was one. -/
theorem trimSuffix_cases (t s : Text) : t = t.trimSuffix s ++ s ∨ (t.endsWith s = false ∧ t = t.trimSuffix s) := by
  cases h : t.endsWith s with
  | false => exact Or.inr ⟨rfl, (trimSuffix_of_not_endsWith h).symm⟩
  | true =>
    obtain ⟨front, rfl⟩ := List.isSuffixOf_iff_suffix.mp h
    rw [trimSuffix_append]
    exact Or.inl rfl

end HouseStyle.Text
