import HouseStyle.Text.Blank

/-!
# Records of comma-separated fields

A record is a line of fields with commas between them. A field in double quotes may hold commas and line ends, and a
quote inside it is written twice. A carriage return before a line end is not part of the text.
-/

namespace HouseStyle.Csv

/-- What is wrong with a quote. -/
inductive Flaw where
  | bareQuote
  | strayQuote
  deriving DecidableEq

/-- Why a text is no record: it holds none, or a quote is wrong. A place is a line and a column, counted from one; the
record starts on the line `start`. -/
inductive Error where
  | noRecord
  | quote (start line col : Nat) (flaw : Flaw)

/-- The words for a flaw. -/
def Flaw.reason : Flaw → Text
  | .bareQuote => "bare \" in non-quoted field"
  | .strayQuote => "extraneous or missing \" in quoted-field"

/-- What is said about a text that is no record. -/
def Error.message : Error → Text
  | .noRecord => "EOF"
  | .quote start line col flaw =>
    let opening : Text := if start = line then [] else "record on line " ++ Text.ofNat start ++ "; "
    opening ++ "parse error on line " ++ Text.ofNat line ++ ", column " ++ Text.ofNat col ++ ": " ++ flaw.reason

/-- The text with line ends of one byte, and without a carriage return at its end. -/
def normalize : Text → Text
  | [] => []
  | b :: rest =>
    if b = Text.byte '\r' && (rest.isEmpty || rest.head? == some (Text.byte '\n')) then normalize rest
    else b :: normalize rest

/-- How the reader stands to the field it reads. -/
inductive Mode where
  | start
  | plain
  | quoted
  /-- Behind a quote that ends the field, unless another one follows. -/
  | closed

/-- Reads a record that starts on the line `start`; the reader is at a line and column, has read a part of the current
field, and all of the fields `done`. -/
def readFields (start : Nat) : Mode → (line col : Nat) → (field : Text) → (done : List Text) → Text →
    Except Error (List Text)
  | .quoted, line, col, _, _, [] => .error (.quote start line col .strayQuote)
  | _, _, _, field, done, [] => .ok (done ++ [field])
  | .quoted, line, col, field, done, b :: rest =>
    if b = Text.byte '"' then readFields start .closed line (col + 1) field done rest
    else if b = Text.byte '\n' && !rest.isEmpty then readFields start .quoted (line + 1) 1 (field ++ [b]) done rest
    else readFields start .quoted line (col + 1) (field ++ [b]) done rest
  | .closed, line, col, field, done, b :: rest =>
    if b = Text.byte '"' then readFields start .quoted line (col + 1) (field ++ [b]) done rest
    else if b = Text.byte ',' then readFields start .start line (col + 1) [] (done ++ [field]) rest
    else if b = Text.byte '\n' then .ok (done ++ [field])
    else .error (.quote start line (col - 1) .strayQuote)
  | .start, line, col, field, done, b :: rest =>
    if b = Text.byte '"' then readFields start .quoted line (col + 1) field done rest
    else if b = Text.byte ',' then readFields start .start line (col + 1) [] (done ++ [field]) rest
    else if b = Text.byte '\n' then .ok (done ++ [field])
    else readFields start .plain line (col + 1) (field ++ [b]) done rest
  | .plain, line, col, field, done, b :: rest =>
    if b = Text.byte '"' then .error (.quote start line col .bareQuote)
    else if b = Text.byte ',' then readFields start .start line (col + 1) [] (done ++ [field]) rest
    else if b = Text.byte '\n' then .ok (done ++ [field])
    else readFields start .plain line (col + 1) (field ++ [b]) done rest

/-- The fields of the first record of a text, which has none of its lines empty in front of it. The empty text is the
record without fields. -/
def read (t : Text) : Except Error (List Text) :=
  if t.isEmpty then .ok []
  else
    let t := normalize t
    let record := t.dropWhile (· == Text.byte '\n')
    if record.isEmpty then .error .noRecord
    else
      let line := t.length - record.length + 1
      readFields line .start line 1 [] [] record

/-- Whether a field is written in quotes. -/
def needsQuotes (field : Text) : Bool :=
  field == Text.ofString "\\." || field.has '\n' || field.has '\r' || field.has '"' || field.has ',' ||
    (field.glyphs.head?.map (·.isBlank)).getD false

/-- A field as it is written. -/
def writeField (field : Text) : Text :=
  if needsQuotes field then
    "\"" ++ (field.flatMap fun b => if b = Text.byte '"' then [b, b] else [b]) ++ "\""
  else field

/-- The record with these fields. -/
def write (fields : List Text) : Text := Text.join "," (fields.map writeField)

end HouseStyle.Csv
