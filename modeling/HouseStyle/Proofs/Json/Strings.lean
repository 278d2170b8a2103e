import Mathlib.Data.List.TakeDrop
import HouseStyle.Json.Reader
import HouseStyle.Proofs.Server.Units

/-!
# The strings of a value that is read

**No string of a value has more UTF-16 units than the text that the value is read from has bytes**
(`holds_of_parse?`). Escapes take more bytes than what they stand for, and a stray byte, which is read as a character of
three bytes, is still one unit.
-/

namespace HouseStyle.Json

open Server (units16)

/-- All strings of a value satisfy `P`. -/
inductive Holds (P : Text → Prop) : Json → Prop where
  | null : Holds P .null
  | bool (b : Bool) : Holds P (.bool b)
  | number (m e : Int) : Holds P (.number m e)
  | string {t : Text} (h : P t) : Holds P (.string t)
  | array {items : List Json} (h : ∀ j ∈ items, Holds P j) : Holds P (.array items)
  | object {members : List (Text × Json)} (h : ∀ m ∈ members, Holds P m.2) : Holds P (.object members)

variable {P : Text → Prop} {t s after : Text} {j : Json}

theorem Holds.mono {Q : Text → Prop} (h : Holds P j) (hPQ : ∀ t, P t → Q t) : Holds Q j := by
  induction h with
  | null => exact .null
  | bool b => exact .bool b
  | number m e => exact .number m e
  | string h => exact .string (hPQ _ h)
  | array _ ih => exact .array ih
  | object _ ih => exact .object ih

/-! ## Tokens -/

theorem length_skipBlanks_le (t : Text) : (skipBlanks t).length ≤ t.length := (List.dropWhile_sublist _).length_le

/-- The bytes that half a surrogate pair takes if it stays alone. -/
def pending (half : Option Nat) : Nat := if half.isSome then 3 else 0

theorem length_lone (half : Option Nat) :
    (if half.isSome then Glyph.encode Glyph.replacement else []).length = pending half := by
  unfold pending
  split <;> rfl

/-- What is read from a string has no more bytes than were read; half a surrogate pair read before counts for the
replacement character that it may become. -/
theorem readString_length {half : Option Nat} (h : readString half t = some (s, after)) :
    s.length + after.length ≤ t.length + pending half := by
  have hencode (code : Nat) : (Glyph.encode code).length ≤ 4 := (Glyph.length_encode code).2.1
  have hnone : pending none = 0 := rfl
  have hsome (code : Nat) : pending (some code) = 3 := rfl
  fun_induction readString half t generalizing s after with
  | case1 | case3 | case5 | case11 | case13 | case15 => cases h
  | case2 =>
    cases h
    simp +zetaDelta only [List.length_cons, length_lone]
    omega
  | case9 b _ _ _ h₁ h₂ h₃ h₄ tail code _ _ ih =>
    have hlen := ih h
    simp only [List.length_cons, hnone, hsome] at hlen ⊢
    omega
  | case6 b _ _ _ h₁ h₂ h₃ h₄ tail code _ high _ ih =>
    obtain ⟨⟨t, rest⟩, hread, hparts⟩ := Option.map_eq_some_iff.mp h
    obtain ⟨hs, hafter⟩ := Prod.mk.inj hparts
    have hlen := ih hread
    have hpair := hencode (0x10000 + (high - 0xD800) * 1024 + (code - 0xDC00))
    rw [← hs, ← hafter]
    simp only [List.length_append, List.length_cons, hnone, hsome] at hlen ⊢
    omega
  | case8 b _ _ _ h₁ h₂ h₃ h₄ tail code _ high _ _ lone =>
    rename_i ih
    obtain ⟨⟨t, rest⟩, hread, hparts⟩ := Option.map_eq_some_iff.mp h
    cases hparts
    have hlen := ih hread
    have hcode := hencode code
    simp +zetaDelta only [List.length_append, List.length_cons, length_lone, hnone, hsome] at hlen ⊢
    omega
  | case10 b _ _ _ h₁ h₂ h₃ h₄ tail code _ _ ih =>
    obtain ⟨⟨t, rest⟩, hread, hparts⟩ := Option.map_eq_some_iff.mp h
    cases hparts
    have hlen := ih hread
    have hcode := hencode code
    simp only [List.length_append, List.length_cons, hnone] at hlen ⊢
    omega
  | case4 | case7 | case12 | case14 =>
    rename_i ih
    obtain ⟨⟨t, rest⟩, hread, hparts⟩ := Option.map_eq_some_iff.mp h
    cases hparts
    have hlen := ih hread
    simp +zetaDelta only [List.length_append, List.length_cons, length_lone, hnone, hsome] at hlen ⊢
    omega

theorem length_span_le (p : UInt8 → Bool) (t : Text) : (t.span p).2.length ≤ t.length := by
  rw [List.span_eq_takeWhile_dropWhile]
  exact (List.dropWhile_sublist _).length_le

theorem readSign_length (plus : Bool) (t : Text) : (readSign plus t).2.length ≤ t.length := by
  unfold readSign
  repeat' split
  all_goals simp

theorem readFraction_length {fraction : Text} (h : readFraction t = some (fraction, after)) :
    after.length ≤ t.length := by
  unfold readFraction at h
  split at h
  · cases h
    exact Nat.le_refl _
  · next b rest =>
    have hspan := length_span_le Text.isDigit rest
    split at h
    · dsimp only at h
      split at h
      · cases h
      · cases h
        exact Nat.le_succ_of_le hspan
    · cases h
      exact Nat.le_refl _

theorem readExponent_length {exponent : Int} (h : readExponent t = some (exponent, after)) :
    after.length ≤ t.length := by
  unfold readExponent at h
  split at h
  · cases h
    exact Nat.le_refl _
  · next b rest =>
    have hsign := readSign_length true rest
    have hspan := length_span_le Text.isDigit (readSign true rest).2
    split at h
    · dsimp only at h
      split at h
      · cases h
      · cases h
        exact Nat.le_succ_of_le (hspan.trans hsign)
    · cases h
      exact Nat.le_refl _

/-- What is read of a value leaves a text that is no longer, and the value satisfies the property on its strings. -/
def Reads (P : Text → Prop) (n : Nat) (read : Option (Json × Text)) : Prop :=
  ∀ j after, read = some (j, after) → Holds P j ∧ after.length ≤ n

theorem readNumber_reads (t : Text) : Reads P t.length (readNumber t) := by
  intro j after h
  unfold readNumber at h
  dsimp only at h
  split at h
  · cases h
  · obtain ⟨⟨fraction, rest⟩, hfraction, h⟩ := Option.bind_eq_some_iff.mp h
    obtain ⟨⟨exponent, rest'⟩, hexponent, h⟩ := Option.bind_eq_some_iff.mp h
    cases h
    have hsign := readSign_length false t
    have hspan := length_span_le Text.isDigit (readSign false t).2
    have hlen := (readExponent_length hexponent).trans (readFraction_length hfraction)
    exact ⟨.number _ _, hlen.trans (hspan.trans hsign)⟩

theorem readLiteral_reads {word : Text} (hj : Holds P j) (t : Text) : Reads P t.length (readLiteral word j t) := by
  intro j' after h
  obtain ⟨rest, hrest, hparts⟩ := Option.map_eq_some_iff.mp h
  cases hparts
  refine ⟨hj, ?_⟩
  rw [Text.afterPrefix?_eq_some.mp hrest, List.length_append]
  omega

/-! ## Values -/

variable {n : Nat}

theorem Reads.mono {read : Option (Json × Text)} {m : Nat} (h : Reads P m read) (hle : m ≤ n) : Reads P n read :=
  fun j after hread => ⟨(h j after hread).1, (h j after hread).2.trans hle⟩

theorem reads_none : Reads P n none := fun _ _ h => by cases h

/-- A string has no more units than the text from which it is read has bytes. -/
theorem units16_string (h : readString none t = some (s, after)) (ht : t.length ≤ n) :
    units16 s.wellFormed ≤ n ∧ after.length ≤ n := by
  have hlen := readString_length h
  have hunits := (Server.units16_wellFormed_le s).trans (Server.units16_le_length s)
  rw [pending, if_neg (by simp)] at hlen
  omega

/-- What the readers of values, items and members keep: strings have `n` units at most, and at most `n` bytes are
left. -/
structure Bounded (n fuel : Nat) : Prop where
  value : ∀ t : Text, t.length ≤ n → Reads (units16 · ≤ n) n (readValue fuel t)
  items : ∀ (t : Text) (done : List Json), t.length ≤ n → (∀ j ∈ done, Holds (units16 · ≤ n) j) →
    Reads (units16 · ≤ n) n (readItems fuel t done)
  members : ∀ (t : Text) (done : List (Text × Json)), t.length ≤ n → (∀ m ∈ done, Holds (units16 · ≤ n) m.2) →
    Reads (units16 · ≤ n) n (readMembers fuel t done)

namespace Bounded

variable {fuel : Nat}

theorem value_succ (ih : Bounded n fuel) (t : Text) (ht : t.length ≤ n) :
    Reads (units16 · ≤ n) n (readValue (fuel + 1) t) := by
  have hblanks := length_skipBlanks_le t
  rw [readValue]
  split
  · exact reads_none
  next b rest hskip =>
  rw [hskip, List.length_cons] at hblanks
  have hrest := length_skipBlanks_le rest
  have hlen : (b :: rest).length ≤ n := by
    rw [List.length_cons]
    omega
  split_ifs
  · split
    · next c tail hc =>
      rw [hc] at hrest
      split
      · intro j after h
        cases h
        rw [List.length_cons] at hrest
        exact ⟨.object (by simp), by omega⟩
      · exact ih.members _ [] (by omega) (by simp)
    · exact reads_none
  · split
    · next c tail hc =>
      rw [hc] at hrest
      split
      · intro j after h
        cases h
        rw [List.length_cons] at hrest
        exact ⟨.array (by simp), by omega⟩
      · exact ih.items _ [] (by omega) (by simp)
    · exact reads_none
  · intro j after h
    obtain ⟨⟨s, after'⟩, hs, hparts⟩ := Option.map_eq_some_iff.mp h
    cases hparts
    have hstring := units16_string hs (by omega : rest.length ≤ n)
    exact ⟨.string hstring.1, hstring.2⟩
  · exact (readLiteral_reads (.bool true) _).mono hlen
  · exact (readLiteral_reads (.bool false) _).mono hlen
  · exact (readLiteral_reads .null _).mono hlen
  · exact (readNumber_reads _).mono hlen

theorem items_succ (ih : Bounded n fuel) (t : Text) (done : List Json) (ht : t.length ≤ n)
    (hdone : ∀ j ∈ done, Holds (units16 · ≤ n) j) : Reads (units16 · ≤ n) n (readItems (fuel + 1) t done) := by
  rw [readItems]
  split
  · exact reads_none
  next j after hvalue =>
  obtain ⟨hj, hafter⟩ := ih.value t ht j after hvalue
  have hblanks := length_skipBlanks_le after
  have hdone' : ∀ j' ∈ j :: done, Holds (units16 · ≤ n) j' := List.forall_mem_cons.mpr ⟨hj, hdone⟩
  split
  · next b rest hskip =>
    rw [hskip, List.length_cons] at hblanks
    split_ifs
    · exact ih.items rest _ (by omega) hdone'
    · intro j' after' h
      cases h
      exact ⟨.array fun j' hj' => hdone' j' (List.mem_reverse.mp hj'), by omega⟩
    · exact reads_none
  · exact reads_none

theorem members_succ (ih : Bounded n fuel) (t : Text) (done : List (Text × Json)) (ht : t.length ≤ n)
    (hdone : ∀ m ∈ done, Holds (units16 · ≤ n) m.2) : Reads (units16 · ≤ n) n (readMembers (fuel + 1) t done) := by
  have hblanks := length_skipBlanks_le t
  rw [readMembers]
  split
  · next q t' hskip =>
    rw [hskip, List.length_cons] at hblanks
    split_ifs
    · exact reads_none
    split
    · exact reads_none
    next name after hname =>
    have hafter := (units16_string hname (by omega : List.length t' ≤ n)).2
    have hcolon := length_skipBlanks_le after
    split
    · next colon rest hskip' =>
      rw [hskip', List.length_cons] at hcolon
      split_ifs
      · exact reads_none
      split
      · exact reads_none
      next j after' hvalue =>
      obtain ⟨hj, hafter'⟩ := ih.value rest (by omega) j after' hvalue
      have hend := length_skipBlanks_le after'
      have hdone' : ∀ m ∈ (name.wellFormed, j) :: done, Holds (units16 · ≤ n) m.2 :=
        List.forall_mem_cons.mpr ⟨hj, hdone⟩
      dsimp only
      split
      · next b rest' hskip'' =>
        rw [hskip'', List.length_cons] at hend
        split_ifs
        · exact ih.members rest' _ (by omega) hdone'
        · intro j' after'' h
          cases h
          exact ⟨.object fun m hm => hdone' m (List.mem_reverse.mp hm), by omega⟩
        · exact reads_none
      · exact reads_none
    · exact reads_none
  · exact reads_none

end Bounded

theorem bounded (n : Nat) : ∀ fuel, Bounded n fuel
  | 0 => by
    refine ⟨fun t _ => ?_, fun t done _ _ => ?_, fun t done _ _ => ?_⟩
    · rw [readValue]
      exact reads_none
    · rw [readItems]
      exact reads_none
    · rw [readMembers]
      exact reads_none
  | fuel + 1 =>
    have ih := bounded n fuel
    ⟨ih.value_succ, ih.items_succ, ih.members_succ⟩

/-- **No string of a value has more units than the text that it is read from has bytes.** -/
theorem holds_of_parse? (h : parse? t = some j) : Holds (units16 · ≤ t.length) j := by
  unfold parse? at h
  split at h
  · next j' rest hvalue =>
    split at h
    · cases h
      exact ((bounded t.length _).value t (Nat.le_refl _) j rest hvalue).1
    · cases h
  · cases h

/-! ## Members -/

/-- The members of a value hold what the value holds. -/
theorem Holds.get? {name : Text} {v : Json} (h : Holds P j) (hv : j.get? name = some v) : Holds P v := by
  cases h with
  | object hmembers =>
    obtain ⟨m, hm, rfl⟩ := Option.map_eq_some_iff.mp hv
    exact hmembers m (List.mem_reverse.mp (List.mem_of_find?_eq_some hm))
  | _ => cases hv

theorem Holds.get (h : Holds P j) (name : Text) : Holds P (j.get name) := by
  rw [Json.get]
  cases hv : j.get? name with
  | none => exact .null
  | some v => exact h.get? hv

end HouseStyle.Json
