import Mathlib.Data.List.Basic
import HouseStyle.Text.Basic

/-!
# The byte order of texts

The order by the first byte that differs is a strict linear order: no text is less than itself (`less_irrefl`), the
order can be chained (`less_trans`), and of two different texts one is the lesser (`eq_of_not_less`). Hence a text that
is less than another is less than a third, or the third is less than the other (`less_or_less`).
-/

namespace HouseStyle.Text

theorem less_irrefl : ∀ t : Text, less t t = false
  | [] => rfl
  | a :: t => by simp [less, less_irrefl t]

theorem less_trans : ∀ {t u v : Text}, less t u → less u v → less t v
  | _, [], _, h, _ => by simp [less] at h
  | _, _ :: _, [], _, h => by simp [less] at h
  | [], _ :: _, _ :: _, _, _ => rfl
  | a :: t, b :: u, c :: v, htu, huv => by
    simp only [less, Bool.or_eq_true, Bool.and_eq_true, decide_eq_true_eq, beq_iff_eq] at htu huv ⊢
    obtain hab | ⟨rfl, htu⟩ := htu <;> obtain hbc | ⟨rfl, huv⟩ := huv
    · exact .inl (UInt8.lt_trans hab hbc)
    · exact .inl hab
    · exact .inl hbc
    · exact .inr ⟨rfl, less_trans htu huv⟩

theorem eq_of_not_less : ∀ {t u : Text}, less t u = false → less u t = false → t = u
  | [], [], _, _ => rfl
  | [], _ :: _, h, _ => by simp [less] at h
  | _ :: _, [], _, h => by simp [less] at h
  | a :: t, b :: u, htu, hut => by
    simp only [less, Bool.or_eq_false_iff, decide_eq_false_iff_not, Bool.and_eq_false_imp, beq_iff_eq,
      UInt8.not_lt] at htu hut
    obtain rfl := UInt8.le_antisymm hut.1 htu.1
    rw [eq_of_not_less (htu.2 rfl) (hut.2 rfl)]

theorem less_asymm {t u : Text} (h : less t u) : less u t = false := by
  cases hut : less u t with
  | false => rfl
  | true =>
    have htt : less t t := less_trans h hut
    rw [less_irrefl] at htt
    cases htt

theorem less_or_less {t v : Text} (h : less t v) (u : Text) : less t u ∨ less u v := by
  cases htu : less t u with
  | true => exact Or.inl rfl
  | false =>
    refine Or.inr ?_
    cases hut : less u t with
    | true => exact less_trans hut h
    | false => rwa [← eq_of_not_less htu hut]

end HouseStyle.Text
