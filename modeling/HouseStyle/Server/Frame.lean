import HouseStyle.Text.Blank

/-!
# Frames

Messages travel one behind another, each behind a header that tells its length. A header is a list of lines that end in
a carriage return and a line feed; an empty line ends it, and only the line with the length counts.
-/

namespace HouseStyle.Server.Frame

/-- The beginning of the header line that tells the length. -/
def lengthField : Text := "Content-Length: "

/-- The least length that is too large for a header. -/
def lengthBound : Nat := 4294967296

/-- A message behind its header. -/
def encode (body : Text) : Text := lengthField ++ Text.ofNat body.length ++ "\r\n\r\n" ++ body

/-- The length that the header tells after one more of its lines; a length that is no number is an error. -/
def lengthAfter? (length : Nat) (line : Text) : Option Nat :=
  match line.afterPrefix? lengthField with
  | none => some length
  | some t =>
    let digits := t.trim
    if !digits.isEmpty && digits.all Text.isDigit && digits.digitsValue < lengthBound then some digits.digitsValue
    else none

/-- Reads a header, of which a part of the current line has been read, and gives the length it tells and what
follows. -/
def readHeader : (line : Text) → (length : Nat) → Text → Option (Nat × Text)
  | _, _, [] => none
  | line, length, b :: rest =>
    if b = Text.byte '\r' then
      match rest with
      | [] => none
      | c :: rest =>
        if c ≠ Text.byte '\n' then none
        else if line.isEmpty then some (length, rest)
        else
          match lengthAfter? length line with
          | none => none
          | some length => readHeader [] length rest
    else readHeader (line ++ [b]) length rest
termination_by _ _ t => t.length

/-- A header is not empty. -/
theorem readHeader_length {line t rest : Text} {length n : Nat} (h : readHeader line length t = some (n, rest)) :
    rest.length < t.length := by
  fun_induction readHeader line length t with
  | case4 =>
    simp only [Option.some.injEq, Prod.mk.injEq] at h
    simp only [← h.2, List.length_cons]
    omega
  | case6 _ _ _ _ _ _ _ _ ih | case7 _ _ _ _ _ ih =>
    have := ih h
    simp only [List.length_cons]
    omega
  | _ => simp at h

/-- The messages of a stream, up to the first header that cannot be read. -/
def decode (t : Text) : List Text :=
  match h : readHeader [] 0 t with
  | none => []
  | some (0, _) => []
  | some (n + 1, rest) => rest.take (n + 1) :: decode (rest.drop (n + 1))
termination_by t.length
decreasing_by
  have := readHeader_length h
  simp only [List.length_drop]
  omega

end HouseStyle.Server.Frame
