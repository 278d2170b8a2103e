/-!
# Words

Widths, limits and durations are signed numbers of sixty-four bits. Products and sums of them wrap around.
-/

namespace HouseStyle

/-- The count of words, two to the power of sixty-four. -/
def wordCount : Nat := 18446744073709551616

/-- The least number that is too large for a signed word. -/
def wordBound : Nat := 9223372036854775808

/-- The signed word that is congruent to `n` modulo the count of words. -/
def word (n : Int) : Int := Int.bmod n wordCount

/-- A number in the range of signed words is its own word. -/
theorem word_eq_self {n : Int} (lo : -(wordBound : Int) ≤ n) (hi : n < wordBound) : word n = n := by
  unfold word
  apply Int.bmod_eq_of_le <;> simp only [wordCount, wordBound] at * <;> omega

end HouseStyle
