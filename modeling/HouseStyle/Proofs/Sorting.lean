import Mathlib.Data.List.Basic

/-!
# Stable sorting

An order that two elements may share a place in (`StrictWeak`) still sorts every list, because "does not stand after" is
total and transitive (`StrictWeak.total`, `StrictWeak.trans`).

A stable sort of a list is determined by the groups of elements that the order does not tell apart (`ties`), each in the
order of the list: sorting keeps every group (`ties_mergeSort`), and two sorted lists with the same groups are equal
(`eq_of_ties`). So lists with the same groups are sorted alike (`mergeSort_congr`), and sorting and filtering commute
(`mergeSort_filter`).
-/

namespace HouseStyle

/-! ## Orders to sort by -/

section Orders

variable {α : Type} {before : α → α → Bool}

/-- A strict order in which elements may share a place: of two elements at most one stands before the other, and if one
does, any third stands after it or before the other. -/
structure StrictWeak (before : α → α → Bool) : Prop where
  asymm : ∀ {a b : α}, before a b → before b a = false
  before_or_before : ∀ {a c : α}, before a c → ∀ b : α, before a b ∨ before b c

namespace StrictWeak

theorem total (h : StrictWeak before) (a b : α) : !before b a || !before a b := by
  cases hba : before b a with
  | false => rfl
  | true => rw [h.asymm hba]; rfl

theorem trans (h : StrictWeak before) (a b c : α) (hab : !before b a) (hbc : !before c b) : !before c a := by
  rw [Bool.not_eq_true'] at hab hbc ⊢
  by_contra hca
  rcases h.before_or_before (Bool.not_eq_false _ ▸ hca) b with hcb | hba
  · simp [hcb] at hbc
  · simp [hba] at hab

/-- Sorting leaves no element in front of one that stands before it. -/
theorem pairwise_mergeSort (h : StrictWeak before) (l : List α) :
    (l.mergeSort fun a b => !before b a).Pairwise fun a b => before b a = false :=
  (List.pairwise_mergeSort h.trans h.total l).imp fun hab => by simpa using hab

end StrictWeak

end Orders

/-! ## Elements that the order does not tell apart -/

section Ties

variable {α : Type} {le : α → α → Bool} {l l' : List α} {x y : α}

/-- The elements that the order does not tell from `x`, in the order of the list. -/
def ties (le : α → α → Bool) (x : α) (l : List α) : List α := l.filter fun y => le x y && le y x

theorem mem_ties : y ∈ ties le x l ↔ y ∈ l ∧ le x y ∧ le y x := by simp [ties]

theorem ties_cons (x y : α) (l : List α) :
    ties le x (y :: l) = if le x y && le y x then y :: ties le x l else ties le x l := List.filter_cons

theorem ties_filter (p : α → Bool) (x : α) (l : List α) : ties le x (l.filter p) = (ties le x l).filter p :=
  List.filter_comm _ _ l

theorem ties_flatMap {β : Type} (f : β → List α) (x : α) (bs : List β) :
    ties le x (bs.flatMap f) = bs.flatMap fun b => ties le x (f b) := List.filter_flatMap

variable (trans : ∀ a b c : α, le a b → le b c → le a c) (total : ∀ a b : α, le a b || le b a)

section Total

include total

theorem le_self (a : α) : le a a := by simpa using total a a

theorem mem_iff_of_ties (h : ∀ x, ties le x l = ties le x l') : y ∈ l ↔ y ∈ l' := by
  have hy : y ∈ ties le y l ↔ y ∈ ties le y l' := by rw [h]
  simpa [mem_ties, le_self total] using hy

/-- The head of a sorted list comes before all its elements. -/
theorem le_of_mem_sorted (hl : (x :: l).Pairwise fun a b => le a b) (hy : y ∈ x :: l) : le x y := by
  rcases List.mem_cons.mp hy with rfl | hy
  · exact le_self total y
  · exact List.rel_of_pairwise_cons hl hy

/-- **Sorted lists are equal if they have the same groups.** -/
theorem eq_of_ties (hl : l.Pairwise fun a b => le a b) (hl' : l'.Pairwise fun a b => le a b)
    (h : ∀ x, ties le x l = ties le x l') : l = l' := by
  induction l generalizing l' with
  | nil =>
    cases l' with
    | nil => rfl
    | cons b t' => simpa using (mem_iff_of_ties total h).mpr (List.mem_cons_self (a := b))
  | cons a t ih =>
    cases l' with
    | nil => simpa using (mem_iff_of_ties total h).mp (List.mem_cons_self (a := a))
    | cons b t' =>
      -- Each head is in the other list, so that neither comes before the other.
      have hba : le b a := le_of_mem_sorted total hl' ((mem_iff_of_ties total h).mp List.mem_cons_self)
      have hab : le a b := le_of_mem_sorted total hl ((mem_iff_of_ties total h).mpr List.mem_cons_self)
      have hheads : a :: ties le a t = b :: ties le a t' := by
        simpa [ties_cons, le_self total, hab, hba] using h a
      obtain rfl : a = b := (List.cons.inj hheads).1
      have htails : ∀ x, ties le x t = ties le x t' := by
        intro x
        have hx := h x
        rw [ties_cons, ties_cons] at hx
        split at hx
        · exact (List.cons.inj hx).2
        · exact hx
      rw [ih hl.of_cons hl'.of_cons htails]

end Total

include trans total

/-- **Sorting keeps every group.** -/
theorem ties_mergeSort (x : α) (l : List α) : ties le x (l.mergeSort le) = ties le x l := by
  have hsorted : (ties le x l).Pairwise fun a b => le a b :=
    List.pairwise_of_forall_mem_list fun a ha b hb => trans a x b (mem_ties.mp ha).2.2 (mem_ties.mp hb).2.1
  have hself : ties le x (ties le x l) = ties le x l := by simp [ties, List.filter_filter]
  have hsub : (ties le x (ties le x l)).Sublist (ties le x (l.mergeSort le)) :=
    (List.sublist_mergeSort trans total hsorted List.filter_sublist).filter _
  rw [hself] at hsub
  exact (hsub.eq_of_length ((List.mergeSort_perm l le).filter _).length_eq.symm).symm

/-- Lists with the same groups are sorted alike. -/
theorem mergeSort_congr (h : ∀ x, ties le x l = ties le x l') : l.mergeSort le = l'.mergeSort le := by
  refine eq_of_ties total (List.pairwise_mergeSort trans total l) (List.pairwise_mergeSort trans total l') ?_
  intro x
  rw [ties_mergeSort trans total, ties_mergeSort trans total, h]

theorem mergeSort_filter (p : α → Bool) (l : List α) : (l.filter p).mergeSort le = (l.mergeSort le).filter p := by
  refine eq_of_ties total (List.pairwise_mergeSort trans total _)
    ((List.pairwise_mergeSort trans total l).filter p) ?_
  intro x
  rw [ties_mergeSort trans total, ties_filter, ties_filter, ties_mergeSort trans total]

end Ties

end HouseStyle
