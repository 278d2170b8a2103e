import HouseStyle.Proofs.Text.Pieces
import HouseStyle.Source.Lines

/-!
# Lines and pieces

The lines of a file are its pieces between newlines, but for an empty last one, each without a carriage return at its
end (`splitLines_eq`). A file may therefore be cut after any newline, and its lines are those of the two parts
(`splitLines_cut`).
-/

namespace HouseStyle

/-- The pieces that are lines: all but an empty last one. -/
def linePieces (content : Text) : List Text :=
  let pieces := content.pieces '\n'
  if pieces.getLast? = some [] then pieces.dropLast else pieces

variable {content p line last : Text} {front : List Text} {i : Nat}

theorem splitLines_eq (content : Text) : splitLines content = (linePieces content).map (·.trimSuffix "\r") := by
  rw [splitLines]
  split
  · next h =>
    obtain rfl := List.isEmpty_iff.mp h
    rfl
  · rfl

theorem linePieces_isPrefix (content : Text) : linePieces content <+: content.pieces '\n' := by
  unfold linePieces
  dsimp only
  split
  · exact List.dropLast_prefix _
  · exact List.prefix_refl _

/-- A line is a piece without the carriage return of its terminator. -/
theorem mem_splitLines (h : line ∈ splitLines content) : ∃ p ∈ content.pieces '\n', p.trimSuffix "\r" = line := by
  rw [splitLines_eq] at h
  obtain ⟨p, hp, rfl⟩ := List.mem_map.mp h
  exact ⟨p, (linePieces_isPrefix content).subset hp, rfl⟩

theorem trimSuffix_of_not_mem (h : Text.byte '\r' ∉ p) : p.trimSuffix "\r" = p := by
  apply Text.trimSuffix_of_not_endsWith
  rw [← Bool.not_eq_true]
  intro hend
  exact h (List.mem_of_getLast? (Text.endsWith_singleton.mp hend))

/-- A piece is a line with its carriage return, unless it is the empty one at the end. -/
theorem trimSuffix_mem_splitLines (h : p ∈ content.pieces '\n') (hp : p ≠ []) :
    p.trimSuffix "\r" ∈ splitLines content := by
  rw [splitLines_eq]
  refine List.mem_map_of_mem ?_
  unfold linePieces
  dsimp only
  split
  · next hlast =>
    obtain ⟨front, hfront⟩ := List.getLast?_eq_some_iff.mp hlast
    rw [hfront] at h ⊢
    rw [List.dropLast_concat]
    rcases List.mem_append.mp h with h | h
    · exact h
    · exact absurd (List.mem_singleton.mp h) hp
  · exact h

/-- The line at a place is the piece there, without the carriage return of its terminator. -/
theorem splitLines_getElem? (h : (splitLines content)[i]? = some line) :
    ∃ p, (linePieces content)[i]? = some p ∧ (content.pieces '\n')[i]? = some p ∧ p.trimSuffix "\r" = line := by
  rw [splitLines_eq, List.getElem?_map, Option.map_eq_some_iff] at h
  obtain ⟨p, hp, hline⟩ := h
  refine ⟨p, hp, ?_, hline⟩
  obtain ⟨rest, hrest⟩ := linePieces_isPrefix content
  rw [← hrest, List.getElem?_append_left (List.getElem?_eq_some_iff.mp hp).1]
  exact hp

/-- The lines, by the pieces of the file. -/
theorem splitLines_of_pieces (h : content.pieces '\n' = front ++ [last]) :
    splitLines content = front.map (·.trimSuffix "\r") ++ if last = [] then [] else [last.trimSuffix "\r"] := by
  rw [splitLines_eq, linePieces, h]
  by_cases hnil : last = [] <;> simp [hnil]

/-- Texts that end in newlines are lines, whatever follows them. -/
theorem splitLines_unlines (h : ∀ p ∈ front, Text.byte '\n' ∉ p) (t : Text) :
    splitLines (Text.unlines front ++ t) = front.map (·.trimSuffix "\r") ++ splitLines t := by
  obtain ⟨after, last, hpieces⟩ := (List.eq_nil_or_concat' (t.pieces '\n')).resolve_left (Text.pieces_ne_nil _ _)
  have hmem : ∀ q ∈ after ++ [last], Text.byte '\n' ∉ q := fun q hq => Text.not_mem_of_mem_pieces (hpieces ▸ hq)
  have hjoin : Text.unlines front ++ t = Text.unlines (front ++ after) ++ last := by
    rw [Text.eq_unlines hpieces]
    simp [Text.unlines]
  have hwhole : (Text.unlines front ++ t).pieces '\n' = (front ++ after) ++ [last] := by
    rw [hjoin, Text.pieces_unlines _ (hmem last (by simp))]
    exact List.forall_mem_append.mpr ⟨h, fun q hq => hmem q (by simp [hq])⟩
  rw [splitLines_of_pieces hwhole, splitLines_of_pieces hpieces, List.map_append, List.append_assoc]

/-- A line and its newline, before anything. -/
theorem splitLines_line (h : Text.byte '\n' ∉ p) (t : Text) :
    splitLines (p ++ Text.byte '\n' :: t) = p.trimSuffix "\r" :: splitLines t := by
  have hlines : splitLines (Text.unlines [p] ++ t) = _ := splitLines_unlines (by simpa using h) t
  simpa [Text.unlines] using hlines

/-- **A file may be cut after any newline.** -/
theorem splitLines_cut (t rest : Text) :
    splitLines (t ++ Text.byte '\n' :: rest) = splitLines (t ++ [Text.byte '\n']) ++ splitLines rest := by
  obtain ⟨front, last, hpieces⟩ := (List.eq_nil_or_concat' (t.pieces '\n')).resolve_left (Text.pieces_ne_nil _ _)
  have hmem : ∀ q ∈ front ++ [last], Text.byte '\n' ∉ q := fun q hq => Text.not_mem_of_mem_pieces (hpieces ▸ hq)
  have hjoin : ∀ s : Text, t ++ Text.byte '\n' :: s = Text.unlines (front ++ [last]) ++ s := by
    intro s
    rw [Text.eq_unlines hpieces]
    simp [Text.unlines]
  have hnil : splitLines [] = [] := rfl
  rw [hjoin rest, hjoin [], splitLines_unlines hmem, splitLines_unlines hmem, hnil, List.append_nil]

theorem splitLines_unlines_append (ts : List Text) (rest : Text) :
    splitLines (Text.unlines ts ++ rest) = splitLines (Text.unlines ts) ++ splitLines rest := by
  induction ts with
  | nil => rfl
  | cons t ts ih =>
    have hcons : ∀ s : Text, Text.unlines (t :: ts) ++ s = t ++ Text.byte '\n' :: (Text.unlines ts ++ s) := by
      intro s
      simp [Text.unlines]
    have hnil := hcons []
    rw [List.append_nil, List.append_nil] at hnil
    rw [hcons, hnil, splitLines_cut, ih, splitLines_cut t (Text.unlines ts), List.append_assoc]

/-- Changing a piece that is a line into another text that is not empty changes that line only. -/
theorem splitLines_set {content' q : Text} (hi : i < (linePieces content).length)
    (h : content'.pieces '\n' = (content.pieces '\n').set i q) (hq : q ≠ []) :
    splitLines content' = (splitLines content).set i (q.trimSuffix "\r") := by
  have hpieces : linePieces content' = (linePieces content).set i q := by
    obtain ⟨front, last, hlast⟩ := List.eq_nil_or_concat' (content.pieces '\n') |>.resolve_left (Text.pieces_ne_nil _ _)
    unfold linePieces at hi ⊢
    dsimp only at hi ⊢
    rw [h]
    rw [hlast] at hi ⊢
    rw [List.getLast?_concat] at hi ⊢
    by_cases hin : i < front.length
    · rw [List.set_append_left _ _ hin, List.getLast?_concat]
      split
      · rw [List.dropLast_concat, List.dropLast_concat]
      · rw [List.set_append_left _ _ hin]
    · -- The last piece itself is changed: it is not empty before, since it is a line, and not after.
      have hlen : i = front.length ∧ last ≠ [] := by
        split at hi
        · rw [List.dropLast_concat] at hi
          exact absurd hi hin
        · next hne =>
          rw [List.length_append, List.length_singleton] at hi
          exact ⟨by omega, fun hnil => hne (by rw [hnil])⟩
      obtain ⟨rfl, hlast'⟩ := hlen
      rw [List.set_append_right _ _ (Nat.le_refl _), Nat.sub_self, List.set_cons_zero, List.getLast?_concat,
        if_neg (by simpa using hq), if_neg (by simpa using hlast'), List.set_append_right _ _ (Nat.le_refl _),
        Nat.sub_self, List.set_cons_zero]
  rw [splitLines_eq, hpieces, List.map_set, ← splitLines_eq]

end HouseStyle
