import HouseStyle.Text.Basic

/-!
# The characters of a text

`Text.glyphs` cuts a text into its characters, front to back. A byte that begins no well-formed UTF-8 sequence is a
character of its own with the code of the replacement character U+FFFD, so every text has characters.

**Nothing is lost** (`ofGlyphs_glyphs`): the bytes of the characters, in order, are the text.
-/

namespace HouseStyle

/-- A character of a text: its code point and the bytes it takes there. -/
structure Glyph where
  code : Nat
  bytes : Text
  deriving DecidableEq

namespace Glyph

/-- The code point that stands for a byte outside every well-formed sequence. -/
def replacement : Nat := 0xFFFD

/-- A byte that begins no well-formed sequence. -/
def stray (b : UInt8) : Glyph := ⟨replacement, [b]⟩

/-- Whether the character is a stray byte rather than a well-formed sequence. -/
def isStray (g : Glyph) : Bool := g.code == replacement && g.bytes.length == 1

/-- Whether the byte continues a sequence. -/
def isTail (b : UInt8) : Bool := 0x80 ≤ b && b ≤ 0xBF

/-- Whether `c` may follow the lead byte `b`: no overlong form, no surrogate, nothing above U+10FFFF. -/
def isSecond (b c : UInt8) : Bool :=
  if b = 0xE0 then 0xA0 ≤ c && c ≤ 0xBF
  else if b = 0xED then 0x80 ≤ c && c ≤ 0x9F
  else if b = 0xF0 then 0x90 ≤ c && c ≤ 0xBF
  else if b = 0xF4 then 0x80 ≤ c && c ≤ 0x8F
  else isTail c

/-- The six payload bits of a continuation byte. -/
def payload (b : UInt8) : Nat := b.toNat % 64

/-- The first character of the text `b :: rest`. -/
def first (b : UInt8) (rest : Text) : Glyph :=
  if b < 0x80 then ⟨b.toNat, [b]⟩
  else if b < 0xC2 then stray b
  else if b < 0xE0 then
    match rest with
    | c :: _ => if isSecond b c then ⟨b.toNat % 32 * 64 + payload c, [b, c]⟩ else stray b
    | _ => stray b
  else if b < 0xF0 then
    match rest with
    | c :: d :: _ =>
      if isSecond b c && isTail d then ⟨b.toNat % 16 * 4096 + payload c * 64 + payload d, [b, c, d]⟩ else stray b
    | _ => stray b
  else if b < 0xF5 then
    match rest with
    | c :: d :: e :: _ =>
      if isSecond b c && isTail d && isTail e then
        ⟨b.toNat % 8 * 262144 + payload c * 4096 + payload d * 64 + payload e, [b, c, d, e]⟩
      else stray b
    | _ => stray b
  else stray b

/-- The UTF-8 bytes of a code point; a number that is no code point is written as the replacement character. -/
def encode (code : Nat) : Text :=
  let lead (base shift : Nat) : UInt8 := UInt8.ofNat (base + code / shift)
  let tail (shift : Nat) : UInt8 := UInt8.ofNat (0x80 + code / shift % 64)
  if code < 0x80 then [UInt8.ofNat code]
  else if code < 0x800 then [lead 0xC0 64, tail 1]
  else if 0xD800 ≤ code && code < 0xE000 then [0xEF, 0xBF, 0xBD]
  else if code < 0x10000 then [lead 0xE0 4096, tail 64, tail 1]
  else if code < 0x110000 then [lead 0xF0 262144, tail 4096, tail 64, tail 1]
  else [0xEF, 0xBF, 0xBD]

end Glyph

namespace Text

/-- The characters of a text, of which the first `skip` bytes belong to a character already read. -/
def glyphsFrom : (skip : Nat) → Text → List Glyph
  | _, [] => []
  | skip + 1, _ :: rest => glyphsFrom skip rest
  | 0, b :: rest =>
    let g := Glyph.first b rest
    g :: glyphsFrom (g.bytes.length - 1) rest

/-- The characters of a text. -/
def glyphs (t : Text) : List Glyph := glyphsFrom 0 t

/-- The bytes of a list of characters. -/
def ofGlyphs (gs : List Glyph) : Text := gs.flatMap (·.bytes)

/-- The code points of a text. -/
def codes (t : Text) : List Nat := t.glyphs.map (·.code)

/-- The text with these code points. -/
def ofCodes (cs : List Nat) : Text := cs.flatMap Glyph.encode

/-- Whether every byte of the text belongs to a well-formed character. -/
def isWellFormed (t : Text) : Bool := t.glyphs.all (!·.isStray)

/-- The text with each stray byte replaced by the replacement character. -/
def wellFormed (t : Text) : Text := ofCodes t.codes

/-! ## Nothing is lost -/

/-- The first character takes its bytes from the front of the text. -/
theorem first_bytes (b : UInt8) (rest : Text) :
    b :: rest = (Glyph.first b rest).bytes ++ rest.drop ((Glyph.first b rest).bytes.length - 1) := by
  unfold Glyph.first
  repeat' split
  all_goals simp [Glyph.stray]

theorem glyphsFrom_eq_drop (k : Nat) (t : Text) : glyphsFrom k t = glyphs (t.drop k) := by
  induction t generalizing k with
  | nil => cases k <;> rfl
  | cons b rest ih =>
    cases k with
    | zero => rfl
    | succ k => simpa [glyphsFrom] using ih k

@[simp] theorem glyphs_nil : glyphs [] = [] := rfl

theorem glyphs_cons (b : UInt8) (rest : Text) : glyphs (b :: rest) =
    Glyph.first b rest :: glyphs (rest.drop ((Glyph.first b rest).bytes.length - 1)) := by
  rw [glyphs, glyphsFrom, glyphsFrom_eq_drop]

/-- The bytes of a text's characters, in order, are the text. -/
theorem ofGlyphs_glyphs (t : Text) : ofGlyphs t.glyphs = t := by
  induction h : t.length using Nat.strongRecOn generalizing t with
  | _ n ih =>
    cases t with
    | nil => rfl
    | cons b rest =>
      rw [glyphs_cons, ofGlyphs, List.flatMap_cons]
      have hlen : (rest.drop ((Glyph.first b rest).bytes.length - 1)).length < n := by
        simp only [List.length_drop, ← h, List.length_cons]; omega
      have := ih _ hlen _ rfl
      rw [ofGlyphs] at this
      rw [this, ← first_bytes]

end Text

end HouseStyle
