import HouseStyle.Proofs.Block.Folding

/-!
# Blocks fold from brace to brace

A closing brace belongs to the opening brace before it with nothing but balanced lines between the two (`IsPair`), where
balanced lines are given by a grammar (`Balanced`). Plain matching finds exactly these pairs:

* **The opening brace that waits innermost before a line** is the one with balanced lines from there to the line
  (`unpairedBefore_eq_cons_iff`): balanced lines leave the waiting braces as they are (`unpairedBefore_balanced`), and
  what has been read since a waiting brace is balanced (`waits_of_unpairedBefore`).
* **Two pairs never cross** (`IsPair.not_crossing`): of two pairs, the one that closes first is within the other or
  before it.

Hence the folds of blocks are those of the pairs, and they are nested or have at most one line in common
(`braces_from_pairs`), although a fold may start on the line before its brace.
-/

namespace HouseStyle

namespace Block

variable {lines segment : List Text} {line : Text} {outer : List Nat} {i i' j j' k : Nat}

/-! ## Balanced lines -/

/-- The braces in the lines pair up among themselves: the lines are a sequence of lines that are no brace, and of blocks
of balanced lines between an opening and a closing brace. -/
inductive Balanced : List Text → Prop
  | nil : Balanced []
  | other {line rest} (hopen : Line.isOpeningBrace line = false) (hclose : Line.isClosingBrace line = false)
      (hrest : Balanced rest) : Balanced (line :: rest)
  | block {opening body closing rest} (hopen : Line.isOpeningBrace opening) (hbody : Balanced body)
      (hclose : Line.isClosingBrace closing) (hrest : Balanced rest) : Balanced (opening :: (body ++ closing :: rest))

theorem Balanced.append {first second : List Text} (h : Balanced first) (h' : Balanced second) :
    Balanced (first ++ second) := by
  induction h with
  | nil => exact h'
  | other hopen hclose _ ih => exact .other hopen hclose ih
  | block hopen hbody hclose _ _ ih =>
    rw [List.cons_append, List.append_assoc, List.cons_append]
    exact .block hopen hbody hclose ih

/-- The lines strictly between lines `j` and `i`. -/
def between (lines : List Text) (j i : Nat) : List Text := (lines.take i).drop (j + 1)

theorem between_succ (hji : j < i) (hi : lines[i]? = some line) :
    between lines j (i + 1) = between lines j i ++ [line] := by
  have hlen : i < lines.length := (List.getElem?_eq_some_iff.mp hi).1
  rw [between, List.take_add_one, hi, List.drop_append_of_le_length (by rw [List.length_take]; omega)]
  rfl

theorem between_split (hjk : j < k) (hki : k < i) (hk : lines[k]? = some line) :
    between lines j i = between lines j k ++ line :: between lines k i := by
  have hlen : k < lines.length := (List.getElem?_eq_some_iff.mp hk).1
  have hline : lines.take i = lines.take k ++ line :: between lines k i := by
    have hget : (lines.take i)[k]? = some line := by rw [List.getElem?_take_of_lt hki, hk]
    conv_lhs => rw [Text.eq_take_append_cons_drop hget, List.take_take, min_eq_left hki.le]
    rfl
  rw [between, hline, List.drop_append_of_le_length (by rw [List.length_take]; omega)]
  rfl

/-! ## Waiting braces -/

/-- The opening brace on line `j` waits for its closing brace before line `i`, and no brace after it does. -/
structure Waits (lines : List Text) (j i : Nat) : Prop where
  lt : j < i
  opening : lines[j]?.any Line.isOpeningBrace
  balanced : Balanced (between lines j i)

/-- The brace on line `i` closes the one on line `j`. -/
structure IsPair (lines : List Text) (j i : Nat) : Prop extends Waits lines j i where
  closing : lines[i]?.any Line.isClosingBrace

theorem pairUp_opening (opened : List Nat) (h : Line.isOpeningBrace line) : pairUp opened i line = i :: opened :=
  if_pos h

theorem pairUp_closing (opened : List Nat) (h : Line.isClosingBrace line) : pairUp opened i line = opened.tail := by
  cases ho : Line.isOpeningBrace line with
  | true =>
    rw [isClosingBrace_of_isOpeningBrace ho] at h
    cases h
  | false => rw [pairUp, ho, if_neg Bool.false_ne_true, if_pos h]

theorem pairUp_other (opened : List Nat) (ho : Line.isOpeningBrace line = false)
    (hc : Line.isClosingBrace line = false) : pairUp opened i line = opened := by
  rw [pairUp, ho, hc]
  rfl

/-- **Balanced lines leave the waiting braces as they are.** -/
theorem unpairedBefore_balanced (h : Balanced segment) : ∀ {k : Nat}, segment <+: lines.drop k →
    unpairedBefore lines (k + segment.length) = unpairedBefore lines k := by
  have hcons : ∀ {line rest k}, line :: rest <+: lines.drop k →
      lines[k]? = some line ∧ rest <+: lines.drop (k + 1) := by
    rintro line rest k ⟨after, hafter⟩
    rw [← List.head?_drop, ← List.tail_drop, ← hafter]
    exact ⟨rfl, List.prefix_append rest after⟩
  induction h with
  | nil => exact fun _ => rfl
  | other hopen hclose _ ih =>
    intro k hpart
    obtain ⟨hline, hrest⟩ := hcons hpart
    rw [List.length_cons, ← Nat.add_assoc, Nat.add_right_comm, ih hrest, unpairedBefore_succ hline,
      pairUp_other _ hopen hclose]
  | @block opening body closing rest hopen _ hclose _ ihbody ihrest =>
    intro k hpart
    obtain ⟨hline, hblock⟩ := hcons hpart
    have hbody : body <+: lines.drop (k + 1) := (List.prefix_append body _).trans hblock
    have hend : closing :: rest <+: lines.drop (k + 1 + body.length) := by
      obtain ⟨after, hafter⟩ := hblock
      rw [← List.drop_drop, ← hafter, List.append_assoc, List.drop_left]
      exact List.prefix_append _ _
    obtain ⟨hclosing, hrest⟩ := hcons hend
    have hlen : k + (opening :: (body ++ closing :: rest)).length = k + 1 + body.length + 1 + rest.length := by
      simp only [List.length_cons, List.length_append]
      omega
    rw [hlen, ihrest hrest, unpairedBefore_succ hclosing, pairUp_closing _ hclose, ihbody hbody,
      unpairedBefore_succ hline, pairUp_opening _ hopen]
    rfl

theorem Waits.unpairedBefore (h : Waits lines j i) (hi : i ≤ lines.length) :
    unpairedBefore lines i = j :: unpairedBefore lines j := by
  obtain ⟨line, hline, hopen⟩ := (Option.any_eq_true _ _).mp h.opening
  have hpart : between lines j i <+: lines.drop (j + 1) := by
    rw [between, List.drop_take]
    exact List.take_prefix _ _
  have hlen : j + 1 + (between lines j i).length = i := by
    have hlt := h.lt
    rw [between, List.length_drop, List.length_take]
    omega
  rw [← hlen, unpairedBefore_balanced h.balanced hpart, unpairedBefore_succ hline, pairUp_opening _ hopen]

/-! What a line does to the braces that wait before it. -/

theorem Waits.opened (hi : lines[i]? = some line) (ho : Line.isOpeningBrace line) : Waits lines i (i + 1) := by
  have hnone : between lines i (i + 1) = [] := by
    rw [between, List.drop_eq_nil_iff, List.length_take]
    omega
  refine ⟨Nat.lt_succ_self i, ?_, hnone ▸ .nil⟩
  rw [hi]
  exact ho

theorem Waits.other (h : Waits lines j i) (hi : lines[i]? = some line) (ho : Line.isOpeningBrace line = false)
    (hc : Line.isClosingBrace line = false) : Waits lines j (i + 1) := by
  refine ⟨Nat.lt_succ_of_lt h.lt, h.opening, ?_⟩
  rw [between_succ h.lt hi]
  exact h.balanced.append (.other ho hc .nil)

/-- When the innermost brace is closed, the one that waited before it is the innermost. -/
theorem Waits.closed (h : Waits lines j k) (hinner : Waits lines k i) (hi : lines[i]? = some line)
    (hc : Line.isClosingBrace line) : Waits lines j (i + 1) := by
  obtain ⟨opening, hopening, hopen⟩ := (Option.any_eq_true _ _).mp hinner.opening
  have hji := h.lt.trans hinner.lt
  refine ⟨Nat.lt_succ_of_lt hji, h.opening, ?_⟩
  rw [between_succ hji hi, between_split h.lt hinner.lt hopening, List.append_assoc, List.cons_append]
  exact h.balanced.append (.block hopen hinner.balanced hc .nil)

/-- **What has been read since the innermost waiting brace is balanced.** The induction reaches back to the braces that
wait further out, so that they are known when the innermost one is closed. -/
theorem waits_of_unpairedBefore (i : Nat) : ∀ {j : Nat} {outer : List Nat}, i ≤ lines.length →
    unpairedBefore lines i = j :: outer → Waits lines j i ∧ outer = unpairedBefore lines j := by
  induction i using Nat.strongRecOn with
  | _ i ih =>
    intro j outer hi h
    cases i with
    | zero => cases h
    | succ i =>
      have hline : lines[i]? = some lines[i] := List.getElem?_eq_getElem hi
      rw [unpairedBefore_succ hline] at h
      cases ho : Line.isOpeningBrace lines[i] with
      | true =>
        rw [pairUp_opening _ ho, List.cons.injEq] at h
        obtain ⟨rfl, rfl⟩ := h
        exact ⟨.opened hline ho, rfl⟩
      | false =>
        cases hc : Line.isClosingBrace lines[i] with
        | true =>
          rw [pairUp_closing _ hc] at h
          obtain ⟨k, hk⟩ : ∃ k, Block.unpairedBefore lines i = k :: j :: outer := by
            cases hopened : Block.unpairedBefore lines i with
            | nil =>
              rw [hopened] at h
              cases h
            | cons k opened =>
              rw [hopened, List.tail_cons] at h
              exact ⟨k, h ▸ rfl⟩
          obtain ⟨hinner, houter⟩ := ih i (Nat.lt_succ_self i) (by omega) hk
          have hlt := hinner.lt
          obtain ⟨hwaits, hrest⟩ := ih k (by omega) (by omega) houter.symm
          exact ⟨hwaits.closed hinner hline hc, hrest⟩
        | false =>
          rw [pairUp_other _ ho hc] at h
          obtain ⟨hwaits, houter⟩ := ih i (Nat.lt_succ_self i) (by omega) h
          exact ⟨hwaits.other hline ho hc, houter⟩

/-- **The innermost opening brace that plain matching leaves unpaired** is the one that waits. -/
theorem unpairedBefore_eq_cons_iff (hi : i ≤ lines.length) :
    unpairedBefore lines i = j :: outer ↔ Waits lines j i ∧ outer = unpairedBefore lines j := by
  constructor
  · exact waits_of_unpairedBefore i hi
  · rintro ⟨hwaits, rfl⟩
    exact hwaits.unpairedBefore hi

/-! ## Pairs do not cross -/

theorem mem_unpairedBefore_succ (h : j ∈ unpairedBefore lines (i + 1)) : j = i ∨ j ∈ unpairedBefore lines i := by
  cases hline : lines[i]? with
  | none =>
    rw [unpairedBefore, hline] at h
    exact .inr h
  | some line =>
    rw [unpairedBefore_succ hline, pairUp] at h
    split_ifs at h
    · exact List.mem_cons.mp h
    · exact .inr (List.mem_of_mem_tail h)
    · exact .inr h

theorem lt_of_mem_unpairedBefore : ∀ {i : Nat}, j ∈ unpairedBefore lines i → j < i
  | 0, h => by cases h
  | i + 1, h => by
    rcases mem_unpairedBefore_succ h with rfl | h
    · exact Nat.lt_succ_self j
    · exact Nat.lt_succ_of_lt (lt_of_mem_unpairedBefore h)

/-- An opening brace that is unpaired has been unpaired ever since. -/
theorem mem_unpairedBefore_of_le (hj : j < i) (hi : i ≤ i') (h : j ∈ unpairedBefore lines i') :
    j ∈ unpairedBefore lines i := by
  induction i', hi using Nat.le_induction with
  | base => exact h
  | succ i' hi ih =>
    rcases mem_unpairedBefore_succ h with rfl | h
    · omega
    · exact ih h

namespace IsPair

theorem lt_length (h : IsPair lines j i) : i < lines.length := by
  obtain ⟨_, hline, _⟩ := (Option.any_eq_true _ _).mp h.closing
  exact (List.getElem?_eq_some_iff.mp hline).1

theorem unpairedBefore (h : IsPair lines j i) : unpairedBefore lines i = j :: unpairedBefore lines j :=
  h.toWaits.unpairedBefore h.lt_length.le

/-- No line both ends a pair and begins one. -/
theorem ne (h : IsPair lines j i) (h' : IsPair lines j' i') : j' ≠ i := by
  rintro rfl
  obtain ⟨line, hline, hclose⟩ := (Option.any_eq_true _ _).mp h.closing
  obtain ⟨line', hline', hopen⟩ := (Option.any_eq_true _ _).mp h'.opening
  obtain rfl : line = line' := by
    rw [hline] at hline'
    exact Option.some.inj hline'
  rw [isClosingBrace_of_isOpeningBrace hopen] at hclose
  cases hclose

/-- **Two pairs never cross**: the one that closes first lies within the other, or before it. -/
theorem not_crossing (h : IsPair lines j i) (h' : IsPair lines j' i') (hi : i < i') : j' ≤ j ∨ i < j' := by
  by_contra hcross
  have hne := h.ne h'
  have hlate : j' ∈ Block.unpairedBefore lines i' := by
    rw [h'.unpairedBefore]
    exact List.mem_cons_self
  have hearly : j' ∈ Block.unpairedBefore lines i := mem_unpairedBefore_of_le (by omega) hi.le hlate
  rw [h.unpairedBefore] at hearly
  rcases List.mem_cons.mp hearly with rfl | hearly
  · omega
  · have hlt := lt_of_mem_unpairedBefore hearly
    omega

end IsPair

/-! ## All pairs -/

/-- Line `i` as the closing brace of a pair. -/
def pairEnding (lines : List Text) (i : Nat) : Option (Nat × Nat) :=
  if lines[i]?.any Line.isClosingBrace then (unpairedBefore lines i).head?.map (·, i) else none

/-- The pairs of a file, in the order of the closing braces. -/
def pairs (lines : List Text) : List (Nat × Nat) := (List.range lines.length).filterMap (pairEnding lines)

theorem pairEnding_eq_some {p : Nat × Nat} : pairEnding lines i = some p ↔ IsPair lines p.1 i ∧ p.2 = i := by
  obtain ⟨j, i₁⟩ := p
  rw [pairEnding]
  split
  · next hc =>
    have hi : i < lines.length := by
      obtain ⟨_, hline, _⟩ := (Option.any_eq_true _ _).mp hc
      exact (List.getElem?_eq_some_iff.mp hline).1
    simp only [Option.map_eq_some_iff, Prod.mk.injEq]
    constructor
    · rintro ⟨_, hhead, rfl, rfl⟩
      obtain ⟨outer, houter⟩ := List.head?_eq_some_iff.mp hhead
      exact ⟨⟨((unpairedBefore_eq_cons_iff hi.le).mp houter).1, hc⟩, rfl⟩
    · rintro ⟨hpair, rfl⟩
      exact ⟨j, by rw [hpair.unpairedBefore]; rfl, rfl, rfl⟩
  · next hc =>
    constructor
    · intro h
      cases h
    · rintro ⟨hpair, _⟩
      exact absurd hpair.closing hc

theorem mem_pairs : (j, i) ∈ pairs lines ↔ IsPair lines j i := by
  simp only [pairs, List.mem_filterMap, List.mem_range, pairEnding_eq_some]
  constructor
  · rintro ⟨_, _, hpair, rfl⟩
    exact hpair
  · intro hpair
    exact ⟨i, hpair.lt_length, hpair, rfl⟩

theorem pairwise_pairs (lines : List Text) : (pairs lines).Pairwise fun p q => p.2 < q.2 := by
  rw [pairs, List.pairwise_filterMap]
  refine List.pairwise_lt_range.imp ?_
  intro i i' hi p hp q hq
  rwa [(pairEnding_eq_some.mp hp).2, (pairEnding_eq_some.mp hq).2]

end Block

/-! ## Folds of pairs -/

namespace Server.Fold

open Block

variable {lines : List Text} {i i' j j' : Nat}

/-- The fold lies within another. -/
def Within (f g : Fold) : Prop := g.start ≤ f.start ∧ f.stop ≤ g.stop

/-- Where the block with its opening brace on line `j` folds from: the line before, if there is one and it is not
blank. -/
def foldsFrom (lines : List Text) (j : Nat) : Nat :=
  if 0 < j ∧ lines[j - 1]?.any (!·.isBlank) then j - 1 else j

/-- The fold of a pair of braces. -/
def ofPair (lines : List Text) (p : Nat × Nat) : Fold := ⟨foldsFrom lines p.1, p.2, .region⟩

theorem foldsFrom_bounds (lines : List Text) (j : Nat) : j ≤ foldsFrom lines j + 1 ∧ foldsFrom lines j ≤ j := by
  rw [foldsFrom]
  split <;> omega

theorem blockStart_eq (lines : List Text) (j : Nat) : blockStart j (lineBefore lines j) = foldsFrom lines j := by
  cases j with
  | zero => rfl
  | succ j =>
    rw [blockStart, foldsFrom, lineBefore, Nat.add_sub_cancel]
    simp

theorem endingAt_eq (lines : List Text) (i : Nat) : endingAt lines i = (pairEnding lines i).map (ofPair lines) := by
  rw [endingAt, pairEnding]
  split
  · rw [Option.map_map]
    simp only [blockStart_eq]
    rfl
  · rfl

theorem braces_eq_pairs (lines : List Text) : braces lines = (pairs lines).map (ofPair lines) := by
  rw [braces_eq, pairs, List.map_filterMap]
  exact List.filterMap_congr fun i _ => endingAt_eq lines i

/-- Of the folds of two pairs, the one that ends first lies within the other, or before it but for its last line. -/
theorem within_or_before (h : IsPair lines j i) (h' : IsPair lines j' i') (hi : i < i') :
    (ofPair lines (j, i)).Within (ofPair lines (j', i')) ∨ i ≤ foldsFrom lines j' := by
  have hstart := foldsFrom_bounds lines j
  have hstart' := foldsFrom_bounds lines j'
  rcases h.not_crossing h' hi with hwithin | hbefore
  · left
    rcases Nat.lt_or_eq_of_le hwithin with hlt | rfl
    · have hstarts : foldsFrom lines j' ≤ foldsFrom lines j := by omega
      exact ⟨hstarts, hi.le⟩
    · exact ⟨le_rfl, hi.le⟩
  · right
    omega

/-- **The folds of blocks are those of the pairs of braces.** There is one fold for each pair, in the order of the
closing braces, from the opening brace, or from the line before if there is one and it is not blank, to the closing
brace. Every fold is a stretch of at least two lines of the file, and of two folds the one that ends first lies within
the other, or they have at most its last line in common. -/
theorem braces_from_pairs (lines : List Text) :
    (∃ pairs : List (Nat × Nat), (∀ j i, (j, i) ∈ pairs ↔ IsPair lines j i) ∧
      pairs.Pairwise (fun p q => p.2 < q.2) ∧ braces lines = pairs.map (ofPair lines)) ∧
    (∀ f ∈ braces lines, f.start < f.stop ∧ f.stop < lines.length) ∧
    (braces lines).Pairwise fun f g => f.stop < g.stop ∧ (f.Within g ∨ f.stop ≤ g.start) := by
  refine ⟨⟨pairs lines, fun _ _ => mem_pairs, pairwise_pairs lines, braces_eq_pairs lines⟩, ?_, ?_⟩
  · intro f hf
    rw [braces_eq_pairs] at hf
    obtain ⟨⟨j, i⟩, hp, rfl⟩ := List.mem_map.mp hf
    have hpair := mem_pairs.mp hp
    have hstart : foldsFrom lines j < i := (foldsFrom_bounds lines j).2.trans_lt hpair.lt
    exact ⟨hstart, hpair.lt_length⟩
  · rw [braces_eq_pairs, List.pairwise_map]
    refine (pairwise_pairs lines).imp_of_mem ?_
    rintro ⟨j, i⟩ ⟨j', i'⟩ hp hq hi
    exact ⟨hi, within_or_before (mem_pairs.mp hp) (mem_pairs.mp hq) hi⟩

/-- A block within another, and one that follows at once: the last two have a closing brace in common. -/
example :
    let lines : List Text := ["f()", "\x7b", "\x7b", "\x7d", "\x7d", "\x7b", "\x7d"]
    braces lines = [⟨1, 3, .region⟩, ⟨0, 4, .region⟩, ⟨4, 6, .region⟩] := by
  decide +kernel

end Server.Fold

end HouseStyle
