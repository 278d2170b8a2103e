import HouseStyle.Proofs.Text.Boundary

/-!
# Codes of characters

A character that was read from a text and is written again by its code is read as the same code
(`glyphs_encode_append`), and it has the same bytes unless it was a stray byte (`encode_code_first`). Writing a text by
its codes therefore mends its characters one by one (`glyphs_wellFormed`), and changes the text only where it held stray
bytes.

An ASCII code stands for its byte: the first and the last code of a text are those of its first and last byte
(`head?_codes`, `getLast?_codes`).
-/

namespace HouseStyle

namespace Glyph

variable {b c d e : UInt8} {rest : Text} {code : Nat}

/-! ## Encoding what was read -/

theorem encode_ascii (hb : b < 0x80) : encode b.toNat = [b] := by
  simp only [UInt8.lt_iff_toNat_lt, UInt8.reduceToNat] at hb
  simp only [encode, hb, ↓reduceIte, UInt8.ofNat_toNat]

theorem encode_two (hcode : 0x80 ≤ code ∧ code < 0x800) (hb : b.toNat = 0xC0 + code / 64)
    (hc : c.toNat = 0x80 + code % 64) : encode code = [b, c] := by
  unfold encode
  rw [if_neg (by omega), if_pos hcode.2]
  simp only [List.cons.injEq, and_true, ← UInt8.toNat_inj, UInt8.toNat_ofNat']
  omega

theorem encode_three (hcode : 0x800 ≤ code ∧ code < 0x10000) (hsurrogate : code < 0xD800 ∨ 0xE000 ≤ code)
    (hb : b.toNat = 0xE0 + code / 4096) (hc : c.toNat = 0x80 + code / 64 % 64) (hd : d.toNat = 0x80 + code % 64) :
    encode code = [b, c, d] := by
  unfold encode
  rw [if_neg (by omega), if_neg (by omega), if_neg (by simp only [Bool.and_eq_true, decide_eq_true_eq]; omega),
    if_pos hcode.2]
  simp only [List.cons.injEq, and_true, ← UInt8.toNat_inj, UInt8.toNat_ofNat']
  omega

theorem encode_four (hcode : 0x10000 ≤ code ∧ code < 0x110000) (hb : b.toNat = 0xF0 + code / 262144)
    (hc : c.toNat = 0x80 + code / 4096 % 64) (hd : d.toNat = 0x80 + code / 64 % 64)
    (he : e.toNat = 0x80 + code % 64) : encode code = [b, c, d, e] := by
  unfold encode
  rw [if_neg (by omega), if_neg (by omega), if_neg (by simp only [Bool.and_eq_true, decide_eq_true_eq]; omega),
    if_neg (by omega), if_pos hcode.2]
  simp only [List.cons.injEq, and_true, ← UInt8.toNat_inj, UInt8.toNat_ofNat']
  omega

/-- **A character that is no stray byte is encoded by its own bytes.** -/
theorem encode_code_first (h : (first b rest).isStray = false) : encode (first b rest).code = (first b rest).bytes := by
  have hfirst := isFirst_first b rest
  generalize first b rest = g at h hfirst ⊢
  cases hfirst with
  | ascii _ hb => exact encode_ascii hb
  | stray => cases h
  | two tail hb hc =>
    have hc := isSecond_iff.mp hc
    apply encode_two <;> simp only [payload] <;> omega
  | three tail hb hc hd =>
    have hc := isSecond_iff.mp hc
    have hd := isTail_iff.mp hd
    apply encode_three <;> simp only [payload] <;> omega
  | four tail hb hc hd he =>
    have hc := isSecond_iff.mp hc
    have hd := isTail_iff.mp hd
    have he := isTail_iff.mp he
    apply encode_four <;> simp only [payload] <;> omega

/-- The character as it is written by its code. -/
def mended (g : Glyph) : Glyph := ⟨g.code, encode g.code⟩

theorem isBlank_mended (g : Glyph) : g.mended.isBlank = g.isBlank := rfl

theorem mended_first (h : (first b rest).isStray = false) : (first b rest).mended = first b rest := by
  rw [mended, encode_code_first h]

theorem isStray_iff {g : Glyph} : g.isStray ↔ g.code = replacement ∧ g.bytes.length = 1 := by
  rw [isStray, Bool.and_eq_true, beq_iff_eq, beq_iff_eq]

/-- A stray byte gets longer. -/
theorem length_mended {g : Glyph} (h : g.isStray) : g.mended.bytes.length = 3 ∧ g.bytes.length = 1 := by
  obtain ⟨hcode, hlen⟩ := isStray_iff.mp h
  rw [mended, hcode]
  exact ⟨rfl, hlen⟩

/-- A character that is written by its code is read again, whatever follows. -/
theorem first_mended {tail : Text} (h : (first b rest).mended.bytes = c :: tail) (t : Text) :
    first c (tail ++ t) = (first b rest).mended := by
  cases hs : (first b rest).isStray with
  | true =>
    have hcode := (isStray_iff.mp hs).1
    simp only [mended, hcode] at h ⊢
    cases h
    rfl
  | false =>
    rw [mended_first hs] at h ⊢
    have hbytes := Text.first_bytes b rest
    rw [h, List.cons_append, List.cons.injEq] at hbytes
    obtain ⟨rfl, hrest⟩ := hbytes
    have hlen := bytes_first_encode ((encode_code_first hs).trans h) t
    -- Both texts hold the bytes of the character after its first.
    have hprefix : tail <+: rest := ⟨_, hrest.symm⟩
    have hshort : first b tail = first b rest := first_of_isPrefix hprefix (by rw [h, List.length_cons])
    have hlong : first b tail = first b (tail ++ t) :=
      first_of_isPrefix (List.prefix_append tail t) (by rw [hlen, List.length_cons])
    rw [← hlong, hshort]

end Glyph

namespace Text

open Glyph

variable {t : Text} {g : Glyph}

/-! ## Writing a text by its codes -/

/-- Every character of a text is the first of some rest of it. -/
theorem exists_first : ∀ {t : Text}, g ∈ t.glyphs → ∃ b rest, g = first b rest
  | [], hg => by cases hg
  | b :: rest, hg => by
    rw [glyphs_cons] at hg
    rcases List.mem_cons.mp hg with rfl | hg
    · exact ⟨b, rest, rfl⟩
    · exact exists_first hg
termination_by t => t.length
decreasing_by simp only [List.length_cons, List.length_drop]; omega

/-- **A character of a text that is written by its code is read as the same code.** -/
theorem glyphs_encode_append (hg : g ∈ t.glyphs) (u : Text) : (encode g.code ++ u).glyphs = g.mended :: u.glyphs := by
  obtain ⟨b, rest, rfl⟩ := exists_first hg
  obtain ⟨c, tail, hbytes⟩ : ∃ c tail, (first b rest).mended.bytes = c :: tail :=
    List.exists_cons_of_length_pos (length_encode _).1
  have hfirst := first_mended hbytes u
  have henc : encode (first b rest).code = c :: tail := hbytes
  rw [henc, List.cons_append, glyphs_cons, hfirst, hbytes, List.length_cons, Nat.add_one_sub_one, List.drop_left]

theorem glyphs_ofCodes : ∀ {gs : List Glyph}, (∀ g ∈ gs, g ∈ t.glyphs) →
    (ofCodes (gs.map (·.code))).glyphs = gs.map mended
  | [], _ => rfl
  | g :: gs, h => by
    rw [List.forall_mem_cons] at h
    have ih := glyphs_ofCodes h.2
    rw [ofCodes] at ih
    rw [List.map_cons, ofCodes, List.flatMap_cons, glyphs_encode_append h.1, ih, List.map_cons]

/-- **Writing a text by its codes mends its characters** one by one. -/
theorem glyphs_wellFormed (t : Text) : t.wellFormed.glyphs = t.glyphs.map mended := glyphs_ofCodes fun _ hg => hg

theorem mended_of_isWellFormed (h : t.isWellFormed) (hg : g ∈ t.glyphs) : g.mended = g := by
  have hs := List.all_eq_true.mp h g hg
  obtain ⟨b, rest, rfl⟩ := exists_first hg
  exact mended_first (by simpa using hs)

/-- A well-formed text is its own well-formed form. -/
theorem wellFormed_eq_self (h : t.isWellFormed) : t.wellFormed = t := by
  have hbytes : ∀ g ∈ t.glyphs, Glyph.encode g.code = g.bytes := by
    intro g hg
    have hmended := mended_of_isWellFormed h hg
    exact congrArg Glyph.bytes hmended
  calc t.wellFormed = t.glyphs.flatMap fun g => Glyph.encode g.code := by
        rw [wellFormed, ofCodes, codes, List.flatMap_map]
    _ = ofGlyphs t.glyphs := by rw [ofGlyphs, List.flatMap_congr hbytes]
    _ = t := ofGlyphs_glyphs t

/-! ## ASCII codes -/

variable {b : UInt8}

/-- A character with an ASCII code is the byte of that code. -/
theorem eq_of_code (hb : b < 0x80) (hg : g ∈ t.glyphs) (hcode : g.code = b.toNat) : g = ⟨b.toNat, [b]⟩ := by
  obtain ⟨c, rest, rfl⟩ := exists_first hg
  have hc : c < 0x80 := by
    by_contra hc
    have hlarge : 0x80 ≤ (first c rest).code := code_first_of_not_ascii hc
    rw [hcode] at hlarge
    exact absurd hb (by simpa [UInt8.lt_iff_toNat_lt] using hlarge)
  rw [first_of_ascii hc] at hcode ⊢
  rw [UInt8.toNat_inj.mp hcode]

theorem codes_ascii (hb : b < 0x80) (t : Text) : codes (b :: t) = b.toNat :: t.codes := by
  rw [codes, glyphs_ascii hb, List.map_cons, ← codes]

/-- An ASCII byte is the first of a text exactly if its code is. -/
theorem head?_codes (hb : b < 0x80) : t.codes.head? = some b.toNat ↔ t.head? = some b := by
  constructor
  · intro h
    rw [codes, List.head?_map, Option.map_eq_some_iff] at h
    obtain ⟨g, hg, hcode⟩ := h
    obtain ⟨gs, hgs⟩ := List.head?_eq_some_iff.mp hg
    have hbyte := eq_of_code hb (hgs ▸ List.mem_cons_self) hcode
    rw [← ofGlyphs_glyphs t, hgs, hbyte]
    rfl
  · intro h
    obtain ⟨rest, rfl⟩ := List.head?_eq_some_iff.mp h
    rw [codes_ascii hb, List.head?_cons]

/-- An ASCII byte is the last of a text exactly if its code is. -/
theorem getLast?_codes (hb : b < 0x80) : t.codes.getLast? = some b.toNat ↔ t.getLast? = some b := by
  constructor
  · intro h
    rw [codes, List.getLast?_map, Option.map_eq_some_iff] at h
    obtain ⟨g, hg, hcode⟩ := h
    obtain ⟨gs, hgs⟩ := List.getLast?_eq_some_iff.mp hg
    have hbyte := eq_of_code hb (hgs ▸ List.mem_append_right gs (List.mem_singleton_self g)) hcode
    rw [← ofGlyphs_glyphs t, hgs, hbyte, ofGlyphs_append]
    exact List.getLast?_concat
  · intro h
    obtain ⟨front, rfl⟩ := List.getLast?_eq_some_iff.mp h
    rw [codes, glyphs_append (isTail_of_ascii hb), glyphs_ascii hb, List.map_append]
    exact List.getLast?_concat

end Text

end HouseStyle
