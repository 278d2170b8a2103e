import HouseStyle.Text.Basic

/-!
# Decimal digits

The digits that a number is written with are digits and nothing else (`isDigit_of_mem_ofNat`). They denote the number
(`digitsValue_ofNat`), and a zero stands first only in the number zero (`zero_not_first`).
-/

namespace HouseStyle.Text

variable {c : Char} {b : UInt8} {n : Nat}

theorem toNat_bounds_of_isDigit (hc : c.isDigit) : 48 ≤ c.toNat ∧ c.toNat ≤ 57 := by
  simp only [Char.isDigit, Bool.and_eq_true, decide_eq_true_eq, UInt32.le_iff_toNat_le] at hc
  exact hc

theorem toNat_byte_of_isDigit (hc : c.isDigit) : (byte c).toNat = c.toNat := by
  have hle := (toNat_bounds_of_isDigit hc).2
  rw [byte, UInt8.toNat_ofNat', Nat.mod_eq_of_lt (by omega)]

theorem isDigit_iff : isDigit b ↔ 48 ≤ b.toNat ∧ b.toNat ≤ 57 := by
  simp only [isDigit, Bool.and_eq_true, decide_eq_true_eq, UInt8.le_iff_toNat_le]
  exact Iff.rfl

theorem ofNat_ne_nil (n : Nat) : ofNat n ≠ [] := by simp [ofNat, Nat.toDigits_ne_nil]

theorem isDigit_of_mem_ofNat (hb : b ∈ ofNat n) : isDigit b := by
  obtain ⟨c, hc, rfl⟩ := List.mem_map.mp hb
  have hdigit := Nat.isDigit_of_mem_toDigits (by decide) (by decide) hc
  rw [isDigit_iff, toNat_byte_of_isDigit hdigit]
  exact toNat_bounds_of_isDigit hdigit

theorem exists_ofNat_eq (n : Nat) : ∃ d ds, ofNat n = d :: ds ∧ isDigit d := by
  obtain ⟨d, ds, hds⟩ := List.exists_cons_of_ne_nil (ofNat_ne_nil n)
  exact ⟨d, ds, hds, isDigit_of_mem_ofNat (hds ▸ List.mem_cons_self)⟩

/-- The digits of a number denote it. -/
theorem digitsValue_ofNat (n : Nat) : digitsValue (ofNat n) = n := by
  have hdigit : ∀ (cs : List Char) (m : Nat), (∀ c ∈ cs, c.isDigit) →
      (cs.map byte).foldl (fun n b => 10 * n + (b.toNat - 48)) m =
        cs.foldl (fun n c => 10 * n + (c.toNat - '0'.toNat)) m := by
    intro cs
    induction cs with
    | nil => intro m _; rfl
    | cons c cs ih =>
      intro m hcs
      obtain ⟨hc, hcs⟩ := List.forall_mem_cons.mp hcs
      rw [List.map_cons, List.foldl_cons, List.foldl_cons, toNat_byte_of_isDigit hc]
      exact ih _ hcs
  rw [digitsValue, ofNat, hdigit _ _ fun c hc => Nat.isDigit_of_mem_toDigits (by decide) (by decide) hc,
    ← Nat.ofDigitChars_eq_foldl, Nat.ofDigitChars_ten_toDigits]

/-- A positive number does not begin with a zero. -/
theorem head?_ofNat (hn : 0 < n) : (ofNat n).head? ≠ some (byte '0') := by
  induction n using Nat.strongRecOn with
  | _ n ih =>
    by_cases hlt : n < 10
    · rw [ofNat, Nat.toDigits_of_lt_base hlt]
      -- The digits from one to nine.
      have hall : ∀ d < 10, 0 < d → ([Nat.digitChar d].map byte).head? ≠ some (byte '0') := by decide
      exact hall n hlt hn
    · have hfront := ih (n / 10) (by omega) (by omega)
      obtain ⟨d, ds, hds, -⟩ := exists_ofNat_eq (n / 10)
      rw [ofNat, Nat.toDigits_of_base_le (by decide) (by omega), List.map_append, ← ofNat, hds]
      rwa [hds] at hfront

/-- No zero stands before other digits. -/
theorem zero_not_first (h : 1 < (ofNat n).length) : (ofNat n).head? ≠ some (byte '0') := by
  apply head?_ofNat
  rcases Nat.eq_zero_or_pos n with rfl | hn
  · exact absurd h (by decide)
  · exact hn

end HouseStyle.Text
