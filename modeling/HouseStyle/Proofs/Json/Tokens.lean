import Mathlib.Data.List.DropRight
import Mathlib.Data.List.TakeDrop
import HouseStyle.Json.Reader
import HouseStyle.Proofs.Text.Codes
import HouseStyle.Proofs.Text.Digits
import HouseStyle.Proofs.Text.Pieces

/-!
# Tokens are read as they are written

Every character of a string is written as itself, as a letter after a backslash or as four hexadecimal digits, and is
read as the character in all three forms (`readString_escapeCode`). Hence **a well-formed text that is quoted is read as
the text** (`readString_quote`). An integer is read as the integer (`readNumber_ofInt`) if what follows it does not go
on with the number. Blanks before a token do not count (`skipBlanks_append`).
-/

namespace HouseStyle.Json

variable {t u s rest : Text} {b c : UInt8} {code : Nat}

/-! ## Strings -/

/-- What is read of a string with `front` before it. -/
def readAfter (front u : Text) : Option (Text × Text) := (readString none u).map fun (s, after) => (front ++ s, after)

theorem readString_simple (h : simpleEscape? b = some c) (u : Text) :
    readString none (Text.byte '\\' :: b :: u) = readAfter [c] u := by
  have hb : b ≠ Text.byte 'u' := by
    rintro rfl
    cases h
  rw [readString.eq_def]
  dsimp only
  rw [if_neg (by decide), if_neg (by decide), if_neg (by decide)]
  -- The reader looks for four hexadecimal digits first, so the case hangs on how much text follows.
  split
  · next heq =>
    obtain ⟨rfl, rfl⟩ := List.cons.inj heq
    rw [if_neg hb, h]
    rfl
  · next heq =>
    obtain ⟨rfl, rfl⟩ := List.cons.inj heq
    rw [h]
    rfl
  · next heq => cases heq

theorem hexValue?_hexDigit (n : Nat) : hexValue? (hexDigit n) = some (n % 16) := by
  have hall : ∀ d < 16, hexValue? (Text.byte (Nat.digitChar d)) = some d := by decide
  exact hall (n % 16) (Nat.mod_lt _ (by decide))

theorem hex4?_hexDigits (h : code < 0x10000) :
    hex4? (hexDigit (code / 4096)) (hexDigit (code / 256)) (hexDigit (code / 16)) (hexDigit code) = some code := by
  simp only [hex4?, hexValue?_hexDigit, Option.bind_eq_bind, Option.bind_some, Option.pure_def, Option.some.injEq]
  omega

theorem readString_unicode (h : code < 0xD800) (u : Text) :
    readString none (unicodeEscape code ++ u) = readAfter (Glyph.encode code) u := by
  have hhalf : isHighHalf code = false := by
    rw [isHighHalf, Bool.and_eq_false_iff, decide_eq_false_iff_not]
    left
    omega
  have hescape : unicodeEscape code ++ u = Text.byte '\\' :: Text.byte 'u' :: hexDigit (code / 4096) ::
      hexDigit (code / 256) :: hexDigit (code / 16) :: hexDigit code :: u := rfl
  rw [hescape, readString.eq_def]
  dsimp only
  rw [if_neg (by decide), if_neg (by decide), if_neg (by decide), if_pos rfl, hex4?_hexDigits (by omega)]
  dsimp only
  rw [hhalf]
  rfl

/-- Bytes that stand for themselves in a string. -/
def IsPlain (b : UInt8) : Prop := b ≠ Text.byte '"' ∧ b ≠ Text.byte '\\' ∧ ¬b < 0x20

theorem readString_plain (h : ∀ b ∈ s, IsPlain b) (u : Text) : readString none (s ++ u) = readAfter s u := by
  induction s with
  | nil => simp [readAfter]
  | cons b s ih =>
    obtain ⟨⟨hquote, hslash, hcontrol⟩, hs⟩ := List.forall_mem_cons.mp h
    rw [List.cons_append, readString.eq_def]
    dsimp only
    rw [if_neg hquote, if_neg hcontrol, if_pos hslash, ih hs, readAfter, readAfter, Option.map_map]
    rfl

theorem isPlain_of_mem_encode (hcode : 0x20 ≤ code ∧ code ≠ 0x22 ∧ code ≠ 0x5C) (hb : b ∈ Glyph.encode code) :
    IsPlain b := by
  refine ⟨?_, ?_, ?_⟩
  · rintro rfl
    exact hcode.2.1 (Glyph.code_of_mem_encode (by decide) hb)
  · rintro rfl
    exact hcode.2.2 (Glyph.code_of_mem_encode (by decide) hb)
  · intro hlt
    have hlow : b.toNat < 0x20 := UInt8.lt_iff_toNat_lt.mp hlt
    have heq := Glyph.code_of_mem_encode (UInt8.lt_iff_toNat_lt.mpr (hlow.trans (by decide))) hb
    omega

/-- **A character is read as it was written**, escaped or not. -/
theorem readString_escapeCode (code : Nat) (u : Text) :
    readString none (escapeCode code ++ u) = readAfter (Glyph.encode code) u := by
  unfold escapeCode
  split_ifs with h₁ h₂ h₃ h₄ h₅ h₆ h₇ h₈
  · subst h₁
    exact readString_simple (b := Text.byte '"') rfl u
  · subst h₂
    exact readString_simple (b := Text.byte '\\') rfl u
  · subst h₃
    exact readString_simple (b := Text.byte 'b') rfl u
  · subst h₄
    exact readString_simple (b := Text.byte 'f') rfl u
  · subst h₅
    exact readString_simple (b := Text.byte 'n') rfl u
  · subst h₆
    exact readString_simple (b := Text.byte 'r') rfl u
  · subst h₇
    exact readString_simple (b := Text.byte 't') rfl u
  · simp only [Bool.or_eq_true, decide_eq_true_eq] at h₈
    exact readString_unicode (by omega) u
  · simp only [Bool.or_eq_true, decide_eq_true_eq, not_or] at h₈
    exact readString_plain (fun b hb => isPlain_of_mem_encode ⟨by omega, h₁, h₂⟩ hb) u

theorem readString_codes (cs : List Nat) (rest : Text) :
    readString none (cs.flatMap escapeCode ++ Text.byte '"' :: rest) = some (Text.ofCodes cs, rest) := by
  induction cs with
  | nil =>
    rw [List.flatMap_nil, List.nil_append, readString.eq_def]
    exact if_pos rfl
  | cons c cs ih =>
    rw [List.flatMap_cons, List.append_assoc, readString_escapeCode, readAfter, ih]
    rfl

/-- **A text that is quoted is read as the text**, whatever follows. -/
theorem readString_quote (h : t.isWellFormed) (rest : Text) :
    ∃ body, quote t ++ rest = Text.byte '"' :: body ∧ readString none body = some (t, rest) := by
  refine ⟨t.codes.flatMap escapeCode ++ Text.byte '"' :: rest, ?_, ?_⟩
  · rw [quote, List.append_assoc, List.append_assoc]
    rfl
  · have hcodes : Text.ofCodes t.codes = t := Text.wellFormed_eq_self h
    rw [readString_codes, hcodes]

/-! ## Numbers -/

/-- What follows a number does not go on with it. -/
def EndsNumber (rest : Text) : Prop :=
  ∀ b tail, rest = b :: tail →
    Text.isDigit b = false ∧ b ≠ Text.byte '.' ∧ b ≠ Text.byte 'e' ∧ b ≠ Text.byte 'E'

theorem endsNumber_cons (h : (Text.isDigit b || b == Text.byte '.' || b == Text.byte 'e' || b == Text.byte 'E') = false)
    (t : Text) : EndsNumber (b :: t) := by
  rintro _ _ ⟨⟩
  simpa [and_assoc] using h

theorem EndsNumber.span (h : EndsNumber rest) (hds : ∀ b ∈ t, Text.isDigit b) :
    (t ++ rest).span Text.isDigit = (t, rest) := by
  refine Text.span_append hds ?_
  cases rest with
  | nil => rfl
  | cons b tail => exact (h b tail rfl).1

theorem EndsNumber.fraction (h : EndsNumber rest) : readFraction rest = some ([], rest) := by
  cases rest with
  | nil => rfl
  | cons b tail => rw [readFraction, if_neg (h b tail rfl).2.1]

theorem EndsNumber.exponent (h : EndsNumber rest) : readExponent rest = some (0, rest) := by
  cases rest with
  | nil => rfl
  | cons b tail =>
    obtain ⟨-, -, he, hE⟩ := h b tail rfl
    rw [readExponent, if_neg (by simp [he, hE])]

theorem readSign_ofInt (n : Int) (rest : Text) :
    readSign false (Text.ofInt n ++ rest) = (decide (n < 0), Text.ofNat n.natAbs ++ rest) := by
  cases n with
  | negSucc n =>
    rw [decide_eq_true (Int.negSucc_lt_zero n)]
    rfl
  | ofNat n =>
    obtain ⟨d, ds, hds, hdigit⟩ := Text.exists_ofNat_eq n
    have hminus : d ≠ Text.byte '-' := by
      rintro rfl
      exact absurd hdigit (by decide)
    rw [decide_eq_false (by simp)]
    change readSign false (Text.ofNat n ++ rest) = (false, Text.ofNat n ++ rest)
    rw [hds, List.cons_append, readSign, if_neg hminus]
    rfl

/-- **An integer is read as it was written.** -/
theorem readNumber_ofInt (n : Int) (h : EndsNumber rest) :
    readNumber (Text.ofInt n ++ rest) = some (.number n 0, rest) := by
  have hspan := h.span (t := Text.ofNat n.natAbs) fun b hb => Text.isDigit_of_mem_ofNat hb
  have hwhole : ((Text.ofNat n.natAbs).isEmpty || ((Text.ofNat n.natAbs).length > 1 &&
      (Text.ofNat n.natAbs).head? == some (Text.byte '0'))) = false := by
    rw [Bool.or_eq_false_iff, List.isEmpty_eq_false_iff]
    refine ⟨Text.ofNat_ne_nil _, ?_⟩
    rw [Bool.and_eq_false_imp]
    intro hlen
    exact beq_eq_false_iff_ne.mpr (Text.zero_not_first (of_decide_eq_true hlen))
  have hvalue : (if decide (n < 0) then -(n.natAbs : Int) else n.natAbs) = n := by
    by_cases hn : n < 0
    · rw [decide_eq_true hn, if_pos rfl]
      omega
    · rw [decide_eq_false hn, if_neg Bool.false_ne_true]
      omega
  rw [readNumber, readSign_ofInt]
  dsimp only
  rw [hspan]
  dsimp only
  rw [hwhole, h.fraction]
  simp only [Bool.false_eq_true, ↓reduceIte, Option.bind_eq_bind, Option.bind_some, h.exponent, List.append_nil,
    Text.digitsValue_ofNat, hvalue]
  rfl

/-- Whether a number may begin with the byte. -/
def startsNumber (b : UInt8) : Bool := b == Text.byte '-' || Text.isDigit b

theorem exists_ofInt_eq (n : Int) : ∃ b tail, Text.ofInt n = b :: tail ∧ startsNumber b := by
  cases n with
  | negSucc n => exact ⟨_, _, rfl, rfl⟩
  | ofNat n =>
    obtain ⟨d, ds, hds, hdigit⟩ := Text.exists_ofNat_eq n
    exact ⟨d, ds, hds, by rw [startsNumber, hdigit, Bool.or_true]⟩

theorem ne_of_startsNumber (h : startsNumber b) (hc : startsNumber c = false) : b ≠ c := by
  rintro rfl
  exact absurd h (by simp [hc])

/-! ## Blanks -/

theorem skipBlanks_append (hs : skipBlanks s = []) (t : Text) : skipBlanks (s ++ t) = skipBlanks t :=
  List.dropWhile_append_of_pos (List.dropWhile_eq_nil_iff.mp hs)

theorem skipBlanks_newline (depth : Nat) : skipBlanks (newline depth) = [] := by
  rw [newline, skipBlanks_append (by decide), skipBlanks, Text.spaces, List.dropWhile_replicate,
    if_pos (by decide)]

theorem endsNumber_newline (depth : Nat) (t : Text) : EndsNumber (newline depth ++ t) := endsNumber_cons (by decide) _

theorem skipBlanks_skipBlanks (t : Text) : skipBlanks (skipBlanks t) = skipBlanks t :=
  List.dropWhile_idempotent _ t

theorem skipBlanks_cons (h : skipBlanks [b] = [b]) (t : Text) : skipBlanks (b :: t) = b :: t := by
  rw [skipBlanks, List.dropWhile_cons] at h ⊢
  split at h
  · cases h
  · next hblank => rw [if_neg hblank]

/-- Whether a value may begin with the byte: it is no blank and closes nothing. -/
def begins (b : UInt8) : Bool := skipBlanks [b] == [b] && b != Text.byte ']' && b != Text.byte '}'

theorem skipBlanks_of_begins (h : begins b) (t : Text) : skipBlanks (b :: t) = b :: t := by
  simp only [begins, Bool.and_eq_true, beq_iff_eq] at h
  exact skipBlanks_cons h.1.1 t

theorem ne_of_begins (h : begins b) (hc : begins c = false) : b ≠ c := by
  rintro rfl
  exact absurd h (by simp [hc])

theorem begins_of_startsNumber (h : startsNumber b) : begins b := by
  rw [startsNumber, Bool.or_eq_true, beq_iff_eq, Text.isDigit_iff] at h
  rcases h with rfl | ⟨hlo, hhi⟩
  · decide
  · have hdigits : ∀ d < 10, begins (UInt8.ofNat (48 + d)) := by decide
    have hb := hdigits (b.toNat - 48) (by omega)
    rwa [Nat.add_sub_cancel' hlo, UInt8.ofNat_toNat] at hb

end HouseStyle.Json
