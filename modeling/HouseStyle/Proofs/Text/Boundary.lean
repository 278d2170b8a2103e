import HouseStyle.Proofs.Text.Trim

/-!
# Cuts between characters

Reading a text into characters is local: a character is decided by its own bytes, and no sequence reaches over a byte
that continues none.

* What is encoded is read as one character (`bytes_first_encode`).
* A text may be cut before such a byte, and the characters of the parts are those of the whole (`glyphs_append`).
* A text may be cut after any of its characters (`glyphs_ofGlyphs_prefix`), so trimming its end leaves the characters
  up to the last that is not white space (`glyphs_trimRight`).
* Trimming takes away white space only (`mem_trim`), and it does not matter which end is trimmed first
  (`trimLeft_trimRight`).
* Trimming a text in two parts touches only the part at that end, unless the part is blank
  (`trimLeft_append`, `trimLeft_append_blank`, `trimRight_append`). Ink at the end stays (`getLast?_trimLeft`).
-/

namespace HouseStyle

namespace Glyph

variable {b c d e : UInt8} {rest rest' tail : Text}

theorem isTail_iff : isTail c ↔ 0x80 ≤ c.toNat ∧ c.toNat ≤ 0xBF := by
  simp only [isTail, Bool.and_eq_true, decide_eq_true_eq, UInt8.le_iff_toNat_le, UInt8.reduceToNat]

theorem isSecond_iff : isSecond b c ↔ (0x80 ≤ c.toNat ∧ c.toNat ≤ 0xBF) ∧ (b.toNat = 0xE0 → 0xA0 ≤ c.toNat) ∧
    (b.toNat = 0xED → c.toNat ≤ 0x9F) ∧ (b.toNat = 0xF0 → 0x90 ≤ c.toNat) ∧ (b.toNat = 0xF4 → c.toNat ≤ 0x8F) := by
  unfold isSecond
  simp only [UInt8.le_iff_toNat_le, ← UInt8.toNat_inj, UInt8.reduceToNat]
  split_ifs <;> simp only [isTail_iff, Bool.and_eq_true, decide_eq_true_eq] <;> omega

theorem isTail_of_isSecond (h : isSecond b c) : isTail c := isTail_iff.mpr (isSecond_iff.mp h).1

/-- A byte that continues no sequence, and what follows it, is not part of the character before. -/
theorem first_append (b : UInt8) (rest : Text) (hc : isTail c = false) (tail : Text) :
    first b (rest ++ c :: tail) = first b rest := by
  have hs : isSecond b c = false := by
    by_contra hs
    rw [isTail_of_isSecond (by simpa using hs)] at hc
    cases hc
  unfold first
  -- A character reads three bytes at most after its first, so `c` matters only after two bytes or fewer.
  match rest with
  | [] =>
    cases tail with
    | nil => simp [hs]
    | cons d tail => cases tail <;> simp [hs]
  | [d] => cases tail <;> simp [hc]
  | [d, e] => simp [hc]
  | d :: e :: f :: rest => rfl

/-- A character is decided by its own bytes: a shorter text that still holds them has the same first character. -/
theorem first_of_isPrefix (h : rest' <+: rest) (hlen : (first b rest).bytes.length ≤ rest'.length + 1) :
    first b rest' = first b rest := by
  obtain ⟨tail, rfl⟩ := h
  cases tail with
  | nil => rw [List.append_nil]
  | cons c tail =>
    unfold first at hlen ⊢
    match rest' with
    | [] =>
      cases tail with
      | nil => grind [stray]
      | cons d tail => cases tail <;> grind [stray]
    | [d] => cases tail <;> grind [stray]
    | [d, e] => grind [stray]
    | d :: e :: f :: rest => rfl

theorem isTail_of_ascii (hb : b < 0x80) : isTail b = false := by
  simp only [UInt8.lt_iff_toNat_lt, UInt8.reduceToNat] at hb
  rw [Bool.eq_false_iff, Ne, isTail_iff]
  omega

theorem first_of_ascii (hb : b < 0x80) (rest : Text) : first b rest = ⟨b.toNat, [b]⟩ := by simp [first, hb]

/-- The shapes that the first character of the text `b :: rest` can have. -/
inductive IsFirst (b : UInt8) : (rest : Text) → Glyph → Prop where
  | ascii (rest : Text) (hb : b < 0x80) : IsFirst b rest ⟨b.toNat, [b]⟩
  | stray (rest : Text) (hb : ¬b < 0x80) : IsFirst b rest (stray b)
  | two {c : UInt8} (tail : Text) (hb : 0xC2 ≤ b.toNat ∧ b.toNat < 0xE0) (hc : isSecond b c) :
    IsFirst b (c :: tail) ⟨b.toNat % 32 * 64 + payload c, [b, c]⟩
  | three {c d : UInt8} (tail : Text) (hb : 0xE0 ≤ b.toNat ∧ b.toNat < 0xF0) (hc : isSecond b c) (hd : isTail d) :
    IsFirst b (c :: d :: tail) ⟨b.toNat % 16 * 4096 + payload c * 64 + payload d, [b, c, d]⟩
  | four {c d e : UInt8} (tail : Text) (hb : 0xF0 ≤ b.toNat ∧ b.toNat < 0xF5) (hc : isSecond b c) (hd : isTail d)
      (he : isTail e) :
    IsFirst b (c :: d :: e :: tail)
      ⟨b.toNat % 8 * 262144 + payload c * 4096 + payload d * 64 + payload e, [b, c, d, e]⟩

theorem isFirst_first (b : UInt8) (rest : Text) : IsFirst b rest (first b rest) := by
  unfold first
  simp only [UInt8.lt_iff_toNat_lt, UInt8.reduceToNat]
  split_ifs with h1 h2 h3 h4 h5
  · exact .ascii rest h1
  · exact .stray rest h1
  · split
    · split_ifs with hc
      · exact .two _ ⟨by omega, h3⟩ hc
      · exact .stray _ h1
    · exact .stray _ h1
  · split
    · split_ifs with hcd
      · obtain ⟨hc, hd⟩ := (Bool.and_eq_true _ _).mp hcd
        exact .three _ ⟨by omega, h4⟩ hc hd
      · exact .stray _ h1
    · exact .stray _ h1
  · split
    · split_ifs with hcde
      · obtain ⟨hcd, he⟩ := (Bool.and_eq_true _ _).mp hcde
        obtain ⟨hc, hd⟩ := (Bool.and_eq_true _ _).mp hcd
        exact .four _ ⟨by omega, h5⟩ hc hd he
      · exact .stray _ h1
    · exact .stray _ h1
  · exact .stray rest h1

/-- A sequence of several bytes has no ASCII code: the lead bytes of longer forms of these codes are not allowed. -/
theorem code_first_of_not_ascii (hb : ¬b < 0x80) : 0x80 ≤ (first b rest).code := by
  have hfirst := isFirst_first b rest
  generalize first b rest = g at hfirst ⊢
  cases hfirst with
  | ascii _ h => exact absurd h hb
  | stray => exact (by decide : 0x80 ≤ replacement)
  | two tail hb => dsimp only; omega
  | three tail hb hc =>
    have hbounds := isSecond_iff.mp hc
    simp only [payload]
    omega
  | four tail hb hc =>
    have hbounds := isSecond_iff.mp hc
    simp only [payload]
    omega

/-- A code above the sixteen-bit ones takes four bytes. -/
theorem code_first_lt (h : (first b rest).bytes.length ≤ 3) : (first b rest).code < 0x10000 := by
  have hb := b.toNat_lt
  have hfirst := isFirst_first b rest
  generalize first b rest = g at h hfirst ⊢
  cases hfirst with
  | ascii => dsimp only; omega
  | stray => exact (by decide : replacement < 0x10000)
  | two tail hb hc => simp only [payload]; omega
  | three tail hb hc => simp only [payload]; omega
  | four tail hb hc => simp at h

/-- The first character takes no bytes that the text does not have. -/
theorem length_first_le (b : UInt8) (rest : Text) : (first b rest).bytes.length - 1 ≤ rest.length := by
  have h := congrArg List.length (Text.first_bytes b rest)
  simp only [List.length_cons, List.length_append, List.length_drop] at h
  omega

/-! ## Encoded characters -/

/-- Of the bytes that encode a code, only an ASCII code itself is an ASCII byte. -/
theorem code_of_mem_encode {code : Nat} (hc : c < 0x80) (h : c ∈ encode code) : code = c.toNat := by
  simp only [UInt8.lt_iff_toNat_lt, UInt8.reduceToNat] at hc
  unfold encode at h
  dsimp only at h
  split_ifs at h <;> simp only [List.mem_cons, List.not_mem_nil, or_false, ← UInt8.toNat_inj, UInt8.toNat_ofNat',
    UInt8.reduceToNat] at h <;> omega

theorem length_encode (code : Nat) :
    1 ≤ (encode code).length ∧ (encode code).length ≤ 4 ∧ (code < 0x10000 → (encode code).length ≤ 3) := by
  unfold encode
  dsimp only
  split_ifs <;> simp only [List.length_cons, List.length_nil] <;> omega

theorem bytes_first_two (hb : 0xC2 ≤ b.toNat ∧ b.toNat < 0xE0) (hc : isSecond b c) (t : Text) :
    (first b (c :: t)).bytes = [b, c] := by
  unfold first
  simp only [UInt8.lt_iff_toNat_lt, UInt8.reduceToNat]
  rw [if_neg (by omega), if_neg (by omega), if_pos (by omega)]
  simp only [hc, ↓reduceIte]

theorem bytes_first_three (hb : 0xE0 ≤ b.toNat ∧ b.toNat < 0xF0) (hc : isSecond b c) (hd : isTail d) (t : Text) :
    (first b (c :: d :: t)).bytes = [b, c, d] := by
  unfold first
  simp only [UInt8.lt_iff_toNat_lt, UInt8.reduceToNat]
  rw [if_neg (by omega), if_neg (by omega), if_neg (by omega), if_pos (by omega)]
  simp only [hc, hd, Bool.and_self, ↓reduceIte]

theorem bytes_first_four (hb : 0xF0 ≤ b.toNat ∧ b.toNat < 0xF5) (hc : isSecond b c) (hd : isTail d) (he : isTail e)
    (t : Text) : (first b (c :: d :: e :: t)).bytes = [b, c, d, e] := by
  unfold first
  simp only [UInt8.lt_iff_toNat_lt, UInt8.reduceToNat]
  rw [if_neg (by omega), if_neg (by omega), if_neg (by omega), if_neg (by omega), if_pos (by omega)]
  simp only [hc, hd, he, Bool.and_self, ↓reduceIte]

/-- What is encoded is read as one character. -/
theorem bytes_first_encode {code : Nat} (h : encode code = b :: tail) (t : Text) :
    (first b (tail ++ t)).bytes = b :: tail := by
  unfold encode at h
  dsimp only at h
  split_ifs at h with h1 h2 h3 h4 h5 <;> cases h
  · rw [first_of_ascii]
    rw [UInt8.lt_iff_toNat_lt, UInt8.toNat_ofNat']
    exact Nat.lt_of_le_of_lt (Nat.mod_le _ _) h1
  · refine bytes_first_two ?_ (isSecond_iff.mpr ?_) t <;> simp only [UInt8.toNat_ofNat'] <;> omega
  · exact bytes_first_three (by decide) (by decide) (by decide) t
  · simp only [Bool.and_eq_true, decide_eq_true_eq] at h3
    refine bytes_first_three ?_ (isSecond_iff.mpr ?_) (isTail_iff.mpr ?_) t <;> simp only [UInt8.toNat_ofNat'] <;> omega
  · refine bytes_first_four ?_ (isSecond_iff.mpr ?_) (isTail_iff.mpr ?_) (isTail_iff.mpr ?_) t <;>
      simp only [UInt8.toNat_ofNat'] <;> omega
  · exact bytes_first_three (by decide) (by decide) (by decide) t

end Glyph

namespace Text

/-! ## Cuts -/

variable {c : UInt8}

/-- **A text may be cut before a byte that continues no sequence.** -/
theorem glyphs_append (hc : Glyph.isTail c = false) (tail : Text) :
    ∀ t : Text, (t ++ c :: tail).glyphs = t.glyphs ++ glyphs (c :: tail)
  | [] => rfl
  | b :: rest => by
    have hlen := Glyph.length_first_le b rest
    rw [List.cons_append, glyphs_cons, glyphs_cons b rest, Glyph.first_append b rest hc tail,
      List.drop_append_of_le_length hlen, glyphs_append hc tail]
    rfl
termination_by t => t.length
decreasing_by simp only [List.length_cons, List.length_drop]; omega

/-- **A text may be cut after any of its characters.** -/
theorem glyphs_ofGlyphs_prefix {gs : List Glyph} : ∀ {t : Text} (fs : List Glyph), t.glyphs = fs ++ gs →
    (ofGlyphs fs).glyphs = fs
  | _, [], _ => rfl
  | [], f :: fs, h => by cases h
  | b :: rest, f :: fs, h => by
    rw [glyphs_cons, List.cons_append, List.cons.injEq] at h
    obtain ⟨rfl, h⟩ := h
    have ih := glyphs_ofGlyphs_prefix fs h
    have hbytes := first_bytes b rest
    -- What is kept is the first character and a beginning of what follows it.
    have hkept : ofGlyphs fs <+: rest.drop ((Glyph.first b rest).bytes.length - 1) := by
      refine ⟨ofGlyphs gs, ?_⟩
      rw [← ofGlyphs_append, ← h, ofGlyphs_glyphs]
    cases hf : (Glyph.first b rest).bytes with
    | nil =>
      have hlen := congrArg List.length hbytes
      simp [hf] at hlen
    | cons b' front =>
      rw [hf] at hbytes hkept
      simp only [List.length_cons, Nat.add_one_sub_one, List.cons_append, List.cons.injEq] at hbytes hkept
      obtain ⟨rfl, hrest⟩ := hbytes
      have hprefix : front ++ ofGlyphs fs <+: rest := by
        conv_rhs => rw [hrest]
        exact (List.prefix_append_right_inj front).mpr hkept
      have hfirst : Glyph.first b (front ++ ofGlyphs fs) = Glyph.first b rest := by
        refine Glyph.first_of_isPrefix hprefix ?_
        rw [hf, List.length_cons, List.length_append]
        omega
      rw [ofGlyphs, List.flatMap_cons, ← ofGlyphs, hf, List.cons_append, glyphs_cons, hfirst, hf]
      simp only [List.length_cons, Nat.add_one_sub_one, List.drop_left]
      rw [ih]

/-- An ASCII byte of a text is a character of it. -/
theorem mem_glyphs_of_ascii {t : Text} (hc : c < 0x80) (h : c ∈ t) : ⟨c.toNat, [c]⟩ ∈ t.glyphs := by
  obtain ⟨front, tail, rfl⟩ := List.append_of_mem h
  rw [glyphs_append (Glyph.isTail_of_ascii hc), glyphs_ascii hc]
  simp

/-- An ASCII code among the characters of a text is a byte of it. -/
theorem mem_of_code_lt {g : Glyph} (hcode : g.code < 0x80) : ∀ {t : Text}, g ∈ t.glyphs → UInt8.ofNat g.code ∈ t
  | [], hg => by cases hg
  | b :: rest, hg => by
    rw [glyphs_cons] at hg
    rcases List.mem_cons.mp hg with rfl | hg
    · have hb : b < 0x80 := by
        by_contra hb
        exact absurd hcode (Nat.not_lt.mpr (Glyph.code_first_of_not_ascii hb))
      rw [Glyph.first_of_ascii hb, UInt8.ofNat_toNat]
      exact List.mem_cons_self
    · exact List.mem_cons_of_mem b (List.mem_of_mem_drop (mem_of_code_lt hcode hg))
termination_by t => t.length
decreasing_by simp only [List.length_cons, List.length_drop]; omega

/-! ## Blank texts -/

theorem isBlank_iff_forall {t : Text} : t.isBlank ↔ ∀ g ∈ t.glyphs, g.isBlank := by
  rw [isBlank_iff]
  constructor
  · intro h
    have hglyphs := glyphs_trimLeft t
    rw [h, glyphs_nil, eq_comm, List.dropWhile_eq_nil_iff] at hglyphs
    exact hglyphs
  · intro h
    rw [trimLeft, List.dropWhile_eq_nil_iff.mpr h]
    rfl

/-- Whether the byte is an ASCII character that is not white space. -/
def isInk (b : UInt8) : Bool := b < 0x80 && !Glyph.isBlankCode b.toNat

theorem isInk_iff : isInk c ↔ c < 0x80 ∧ Glyph.isBlankCode c.toNat = false := by simp [isInk]

theorem not_mem_of_isBlank {t : Text} (ht : t.isBlank) (hc : isInk c) : c ∉ t := by
  intro h
  rw [isInk_iff] at hc
  have hblank := isBlank_iff_forall.mp ht _ (mem_glyphs_of_ascii hc.1 h)
  rw [Glyph.isBlank, hc.2] at hblank
  cases hblank

/-! ## Trimming the end -/

/-- Trimming the end leaves the characters up to the last that is not white space. -/
theorem glyphs_trimRight (t : Text) : t.trimRight.glyphs = t.glyphs.rdropWhile (·.isBlank) :=
  glyphs_ofGlyphs_prefix _ List.rdropWhile_append_rtakeWhile.symm

/-- What trimming the end takes away is white space. -/
theorem exists_trimRight_append (t : Text) : ∃ blanks, t = t.trimRight ++ blanks ∧ isBlank blanks := by
  have hsplit := List.rdropWhile_append_rtakeWhile (p := (·.isBlank)) (l := t.glyphs)
  refine ⟨ofGlyphs (t.glyphs.rtakeWhile (·.isBlank)), ?_, ?_⟩
  · conv_lhs => rw [← ofGlyphs_glyphs t, ← hsplit, ofGlyphs_append]
    rfl
  · rw [isBlank_iff_forall, glyphs_ofGlyphs_suffix _ hsplit.symm]
    intro g hg
    exact List.mem_rtakeWhile_imp hg

/-- A text that does not end in white space is its own trimmed form. -/
theorem trimRight_eq_self {t : Text} (h : t.glyphs.getLast?.any (·.isBlank) = false) : t.trimRight = t := by
  have hself : t.glyphs.rdropWhile (·.isBlank) = t.glyphs := by
    rw [List.rdropWhile_eq_self_iff]
    intro hne
    rw [List.getLast?_eq_some_getLast hne, Option.any_some] at h
    simp [h]
  conv_rhs => rw [← ofGlyphs_glyphs t, ← hself]
  rfl

/-- A trimmed text does not end in white space. -/
theorem getLast?_trimRight (t : Text) : t.trimRight.glyphs.getLast?.any (·.isBlank) = false := by
  rw [glyphs_trimRight]
  by_cases hne : t.glyphs.rdropWhile (·.isBlank) = []
  · rw [hne]
    rfl
  · have hlast := List.rdropWhile_last_not (·.isBlank) t.glyphs hne
    rw [List.getLast?_eq_some_getLast hne, Option.any_some]
    simpa using hlast

theorem trimRight_trimRight (t : Text) : t.trimRight.trimRight = t.trimRight := trimRight_eq_self (getLast?_trimRight t)

theorem trimLeft_cons (hc : isInk c) (t : Text) : trimLeft (c :: t) = c :: t := by
  rw [isInk_iff] at hc
  rw [trimLeft, glyphs_ascii hc.1, List.dropWhile_cons_of_neg (by simp [Glyph.isBlank, hc.2]), ← glyphs_ascii hc.1,
    ofGlyphs_glyphs]

/-- It does not matter which end of a list is cut first. -/
theorem dropWhile_rdropWhile (p : Glyph → Bool) (gs : List Glyph) :
    (gs.rdropWhile p).dropWhile p = (gs.dropWhile p).rdropWhile p := by
  induction gs using List.reverseRecOn with
  | nil => rfl
  | append_singleton gs g ih =>
    rw [List.rdropWhile_concat, List.dropWhile_append]
    by_cases hg : p g
    · rw [if_pos hg, ih]
      split
      · next h => rw [List.isEmpty_iff.mp h, List.dropWhile_cons_of_pos hg, List.dropWhile_nil]
      · rw [List.rdropWhile_concat_pos _ _ _ hg]
    · rw [if_neg hg, List.dropWhile_append]
      split
      · rw [List.dropWhile_cons_of_neg hg, List.rdropWhile_singleton, if_neg hg]
      · rw [List.rdropWhile_concat_neg _ _ _ hg]

theorem trimLeft_trimRight (t : Text) : t.trimRight.trimLeft = t.trimLeft.trimRight := by
  rw [trimLeft, glyphs_trimRight, dropWhile_rdropWhile, ← glyphs_trimLeft]
  rfl

/-- Trimming both ends does not see whether the end has been trimmed before. -/
theorem trim_trimRight (t : Text) : t.trimRight.trim = t.trim := by
  rw [trim, trimLeft_trimRight, trimRight_trimRight, trim]

/-! ## What is trimmed away -/

/-- What trimming the front takes away is white space. -/
theorem exists_append_trimLeft (t : Text) : ∃ blanks, t = blanks ++ t.trimLeft ∧ isBlank blanks := by
  have hsplit := List.takeWhile_append_dropWhile (p := (·.isBlank)) (l := t.glyphs)
  refine ⟨ofGlyphs (t.glyphs.takeWhile (·.isBlank)), ?_, ?_⟩
  · conv_lhs => rw [← ofGlyphs_glyphs t, ← hsplit, ofGlyphs_append]
    rfl
  · rw [isBlank_iff_forall, glyphs_ofGlyphs_prefix _ hsplit.symm]
    intro g hg
    exact List.mem_takeWhile_imp hg

/-- An ASCII character that is not white space is not trimmed away. -/
theorem mem_trim {t : Text} (hc : isInk c) (h : c ∈ t) : c ∈ t.trim := by
  obtain ⟨front, hfront, hblank⟩ := exists_append_trimLeft t
  obtain ⟨back, hback, hblank'⟩ := exists_trimRight_append t.trimLeft
  rw [hfront, hback, List.mem_append, List.mem_append] at h
  rcases h with h | h | h
  · exact absurd h (not_mem_of_isBlank hblank hc)
  · exact h
  · exact absurd h (not_mem_of_isBlank hblank' hc)

/-! ## Texts in two parts -/

variable {s : Text}

theorem trimLeft_append (hc : Glyph.isTail c = false) (hs : s.isBlank = false) (t : Text) :
    (s ++ c :: t).trimLeft = s.trimLeft ++ c :: t := by
  have hne : (s.glyphs.dropWhile (·.isBlank)).isEmpty = false := by
    rw [Bool.eq_false_iff] at hs ⊢
    rw [Ne, List.isEmpty_iff, List.dropWhile_eq_nil_iff]
    exact fun h => hs (isBlank_iff_forall.mpr h)
  rw [trimLeft, glyphs_append hc, List.dropWhile_append, hne, if_neg (by simp), ofGlyphs_append, ofGlyphs_glyphs,
    ← trimLeft]

theorem trimLeft_append_blank (hc : Glyph.isTail c = false) (hs : s.isBlank) (t : Text) :
    (s ++ c :: t).trimLeft = trimLeft (c :: t) := by
  rw [trimLeft, glyphs_append hc, List.dropWhile_append_of_pos (isBlank_iff_forall.mp hs), ← trimLeft]

theorem trimRight_append (hc : isInk c) (t s : Text) : (s ++ c :: t).trimRight = s ++ c :: t.trimRight := by
  rw [isInk_iff] at hc
  have hg : ¬Glyph.isBlank ⟨c.toNat, [c]⟩ := by simp [Glyph.isBlank, hc.2]
  rw [trimRight, glyphs_append (Glyph.isTail_of_ascii hc.1), glyphs_ascii hc.1, List.reverse_append, List.reverse_cons,
    List.append_assoc, List.dropWhile_append, trimRight]
  split
  · next h =>
    rw [List.isEmpty_iff.mp h, List.singleton_append, List.dropWhile_cons_of_neg hg, List.reverse_cons,
      List.reverse_reverse, ofGlyphs_append, ofGlyphs_glyphs]
    rfl
  · rw [List.reverse_append, List.reverse_append, List.reverse_reverse, ofGlyphs_append, ofGlyphs_append,
      ofGlyphs_glyphs, List.append_assoc]
    rfl

/-- A text that ends in ink has nothing to trim at its end. -/
theorem trim_of_getLast? {t : Text} (hc : isInk c) (h : t.getLast? = some c) : t.trim = t.trimLeft := by
  obtain ⟨front, rfl⟩ := List.getLast?_eq_some_iff.mp h
  rw [trim, ← trimLeft_trimRight, trimRight_append hc]
  rfl

/-- Ink at the end of a text is not trimmed away with the front. -/
theorem getLast?_trimLeft {t : Text} (hc : isInk c) (h : t.getLast? = some c) : t.trimLeft.getLast? = some c := by
  obtain ⟨blanks, ht, hblank⟩ := exists_append_trimLeft t
  have hne : t.trimLeft ≠ [] := by
    intro hnil
    exact not_mem_of_isBlank (isBlank_iff.mpr hnil) hc (List.mem_of_getLast? h)
  rw [ht, List.getLast?_append_of_ne_nil _ hne] at h
  exact h

end Text

end HouseStyle
