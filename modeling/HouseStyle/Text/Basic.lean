/-!
# Texts

A text is a list of bytes. Source files may hold bytes that are no valid UTF-8, so a text is not a `String`: lengths,
cuts and searches count bytes, and the characters of a text are a view of it (`HouseStyle.Text.Glyph`).

A string literal stands for its UTF-8 bytes (`Text.ofString`), so searches and messages are written with literals.
-/

namespace HouseStyle

/-- A byte string. -/
abbrev Text := List UInt8

namespace Text

/-- The UTF-8 bytes of a string. -/
def ofString (s : String) : Text := s.toUTF8.data.toList

instance : Coe String Text := ⟨ofString⟩

/-- The byte of an ASCII character. -/
def byte (c : Char) : UInt8 := UInt8.ofNat c.toNat

/-! ## Searching -/

/-- The text begins with `p`. -/
def startsWith (t p : Text) : Bool := p.isPrefixOf t

/-- The text ends with `s`. -/
def endsWith (t s : Text) : Bool := s.isSuffixOf t

/-- The ASCII character `c` occurs in the text. -/
def has (t : Text) (c : Char) : Bool := t.contains (byte c)

/-- The text `s` occurs in the text; the empty text occurs everywhere. -/
def includes (t s : Text) : Bool :=
  t.startsWith s ||
    match t with
    | [] => false
    | _ :: rest => includes rest s

/-- What follows `p`, if the text begins with `p`. -/
def afterPrefix? : (t p : Text) → Option Text
  | t, [] => some t
  | [], _ :: _ => none
  | b :: t, c :: p => if b = c then afterPrefix? t p else none

/-- What stands before `s`, if the text ends with `s`. -/
def beforeSuffix? (t s : Text) : Option Text :=
  if t.endsWith s then some (t.take (t.length - s.length)) else none

/-- The text without `p` at its front, or the text itself. -/
def trimPrefix (t p : Text) : Text := (t.afterPrefix? p).getD t

/-- The text without `s` at its end, or the text itself. -/
def trimSuffix (t s : Text) : Text := (t.beforeSuffix? s).getD t

/-- What stands before and after the first occurrence of `sep`. -/
def cut? (sep : Text) : Text → Option (Text × Text)
  | [] => if sep.isEmpty then some ([], []) else none
  | b :: rest =>
    match afterPrefix? (b :: rest) sep with
    | some after => some ([], after)
    | none => (cut? sep rest).map fun (before, after) => (b :: before, after)

/-- The number of bytes before the first occurrence of `sub`. -/
def indexOf? (t sub : Text) : Option Nat := (cut? sub t).map (·.1.length)

/-- The number of bytes before the last occurrence of the ASCII character `c`. -/
def lastIndexOf? (c : Char) : Text → Option Nat
  | [] => none
  | b :: rest =>
    match lastIndexOf? c rest with
    | some i => some (i + 1)
    | none => if b = byte c then some 0 else none

/-- How often the ASCII character `c` occurs. -/
def countOf (t : Text) (c : Char) : Nat := t.count (byte c)

/-! ## Cutting and joining -/

/-- The pieces between the occurrences of the ASCII character `c`: one more than there are occurrences. -/
def pieces (c : Char) : Text → List Text
  | [] => [[]]
  | b :: rest =>
    if b = byte c then [] :: pieces c rest
    else
      match pieces c rest with
      | [] => [[b]]
      | p :: ps => (b :: p) :: ps

/-- The texts with `sep` between neighbours. -/
def join (sep : Text) : List Text → Text
  | [] => []
  | [t] => t
  | t :: u :: rest => t ++ sep ++ join sep (u :: rest)

/-- Each text followed by a newline. -/
def unlines (ts : List Text) : Text := ts.flatMap (· ++ [byte '\n'])

/-- The text `t` written `n` times. -/
def times (n : Nat) (t : Text) : Text := (List.replicate n t).flatten

/-- A run of `n` spaces. -/
def spaces (n : Nat) : Text := List.replicate n (byte ' ')

/-- The byte order of texts: at the first difference the smaller byte comes first, and a text comes after its own
beginnings. -/
def less : Text → Text → Bool
  | _, [] => false
  | [], _ :: _ => true
  | a :: t, b :: u => a < b || (a == b && less t u)

/-! ## Numbers -/

/-- The decimal digits of a natural number. -/
def ofNat (n : Nat) : Text := (Nat.toDigits 10 n).map byte

/-- The decimal digits of an integer, after a minus sign if it is negative. -/
def ofInt : Int → Text
  | .ofNat n => ofNat n
  | .negSucc n => byte '-' :: ofNat (n + 1)

/-- Whether the byte is a decimal digit. -/
def isDigit (b : UInt8) : Bool := byte '0' ≤ b && b ≤ byte '9'

/-- The number that a run of decimal digits denotes. -/
def digitsValue (t : Text) : Nat := t.foldl (fun n b => 10 * n + (b.toNat - 48)) 0

/-- Whether the byte is an ASCII letter. -/
def isLetter (b : UInt8) : Bool :=
  (byte 'a' ≤ b && b ≤ byte 'z') || (byte 'A' ≤ b && b ≤ byte 'Z')

/-- Whether the byte can continue an identifier: a letter, a digit or an underscore. -/
def isIdent (b : UInt8) : Bool := b == byte '_' || isLetter b || isDigit b

/-- The ASCII lower-case form of a byte. -/
def lowerByte (b : UInt8) : UInt8 := if byte 'A' ≤ b && b ≤ byte 'Z' then b + 32 else b

/-- The text with its ASCII letters in lower case. -/
def lowerAscii (t : Text) : Text := t.map lowerByte

/-- The ASCII upper-case form of a byte. -/
def upperByte (b : UInt8) : UInt8 := if byte 'a' ≤ b && b ≤ byte 'z' then b - 32 else b

/-! ## Small laws -/

theorem afterPrefix?_eq_some {t p r : Text} : t.afterPrefix? p = some r ↔ t = p ++ r := by
  fun_induction afterPrefix? t p with
  | case1 => simp [eq_comm]
  | case2 => simp
  | case3 b t p ih => simpa using ih
  | case4 b t c p h => simp [h]

theorem pieces_ne_nil (c : Char) (t : Text) : pieces c t ≠ [] := by
  cases t with
  | nil => simp [pieces]
  | cons b rest =>
    rw [pieces]
    split
    · simp
    · split <;> simp

/-- Nothing is lost between the pieces but the separators. -/
theorem join_pieces (c : Char) (t : Text) : join [byte c] (pieces c t) = t := by
  induction t with
  | nil => rfl
  | cons b rest ih =>
    obtain ⟨p, ps, hp⟩ := List.exists_cons_of_ne_nil (pieces_ne_nil c rest)
    rw [pieces, hp]
    rw [hp] at ih
    by_cases h : b = byte c
    · simp [h, join, ih]
    · cases ps <;> simp_all [join]

end Text

end HouseStyle
