import HouseStyle.Text.Csv
import HouseStyle.Text.Number

/-!
# Flags of a command line

A flag has a name of several letters, written after two hyphens, and perhaps a single letter, written after one. Flags
and arguments may stand in any order, and `--` ends the flags. A value follows its flag as the next argument or after an
equals sign; a switch needs none. Letters of switches may be run together.
-/

namespace HouseStyle.Command

/-- What the value of a flag is. -/
inductive FlagKind where
  | switch
  /-- A number that grows by one each time the flag is given. -/
  | count
  | number
  | word
  /-- Words with commas between them; a flag given again adds to them. -/
  | words
  /-- Words of which each is given by a flag of its own. -/
  | repeated
  deriving DecidableEq

/-- The name of a kind of value in usage texts. -/
def FlagKind.label : FlagKind → Text
  | .switch => []
  | .count => "count"
  | .number => "int"
  | .word => "string"
  | .words => "strings"
  | .repeated => "stringArray"

/-- The value that a flag has if it is given alone; a flag without one takes the next argument. -/
def FlagKind.alone? : FlagKind → Option Text
  | .switch => some "true"
  | .count => some "+1"
  | _ => none

/-- The value of a flag. -/
inductive FlagValue where
  | switch (on : Bool)
  | number (n : Int)
  | word (t : Text)
  | words (ts : List Text)

/-- A flag. Its default is shown in usage texts if there is one. -/
structure Flag where
  name : Text
  letter : Option Char := none
  kind : FlagKind
  usage : Text
  default : Option FlagValue := none

/-- The flags given on a command line, with their values, and the arguments beside them. -/
structure Parsed where
  values : List (Text × FlagValue) := []
  args : List Text := []

namespace Parsed

/-- The value of a flag, if it is given. -/
def value? (p : Parsed) (name : Text) : Option FlagValue := (p.values.find? (·.1 == name)).map (·.2)

/-- Gives a value to a flag. -/
def put (p : Parsed) (name : Text) (v : FlagValue) : Parsed :=
  { p with values := p.values.filter (·.1 != name) ++ [(name, v)] }

/-- Whether a switch is on. -/
def isOn (p : Parsed) (name : Text) : Bool :=
  match p.value? name with
  | some (.switch on) => on
  | _ => false

/-- The number that a flag gives. -/
def number? (p : Parsed) (name : Text) : Option Int :=
  match p.value? name with
  | some (.number n) => some n
  | _ => none

/-- The word that a flag gives. -/
def word? (p : Parsed) (name : Text) : Option Text :=
  match p.value? name with
  | some (.word t) => some t
  | _ => none

/-- The words that a flag gives. -/
def words? (p : Parsed) (name : Text) : Option (List Text) :=
  match p.value? name with
  | some (.words ts) => some ts
  | _ => none

end Parsed

/-! ## Values -/

/-- Reads a truth value. -/
def readSwitch? (t : Text) : Option Bool :=
  let oneOf (names : List Text) : Bool := names.contains t
  if oneOf ["1", "t", "T", "true", "TRUE", "True"] then some true
  else if oneOf ["0", "f", "F", "false", "FALSE", "False"] then some false
  else none

/-- Reads an integer, or says why there is none. -/
def readNumber (t : Text) : Except Text FlagValue :=
  match Number.parseInt t with
  | .ok n => .ok (.number n)
  | .error e => .error (Number.errorMessage t e)

/-- The value of a flag that is given with the text `t` and had the value `old` before, or why it has none. -/
def FlagKind.read (kind : FlagKind) (old : Option FlagValue) (t : Text) : Except Text FlagValue :=
  match kind with
  | .switch =>
    match readSwitch? t with
    | some on => .ok (.switch on)
    | none => .error ("strconv.ParseBool: parsing " ++ t.quoted ++ ": invalid syntax")
  | .count =>
    if t == Text.ofString "+1" then
      match old with
      | some (.number n) => .ok (.number (n + 1))
      | _ => .ok (.number 1)
    else readNumber t
  | .number => readNumber t
  | .word => .ok (.word t)
  | .words =>
    match Csv.read t, old with
    | .error e, _ => .error e.message
    | .ok ts, some (.words before) => .ok (.words (before ++ ts))
    | .ok ts, _ => .ok (.words ts)
  | .repeated =>
    match old with
    | some (.words before) => .ok (.words (before ++ [t]))
    | _ => .ok (.words [t])

/-! ## Errors -/

/-- Why flags cannot be read. -/
inductive FlagError where
  | malformed (arg : Text)
  | unknown (name : Text)
  | unknownLetter (letter : UInt8) (letters : Text)
  | valueMissing (arg : Text)
  | letterValueMissing (letter : UInt8) (letters : Text)
  | invalid (value : Text) (flag : Flag) (reason : Text)

/-- The spellings of a flag. -/
def Flag.spelling (f : Flag) : Text :=
  match f.letter with
  | some c => "-" ++ Text.byte c :: (", --" ++ f.name : Text)
  | none => "--" ++ f.name

/-- A byte in single quotes, shown as the character of the same number. -/
def quotedByte (b : UInt8) : Text :=
  let code := b.toNat
  let inside : Text :=
    if code = 0x27 then "\\'"
    else if code = 0x22 then [b]
    else Text.escapeGlyph ⟨code, Glyph.encode code⟩
  "'" ++ inside ++ "'"

/-- What is said about flags that cannot be read. -/
def FlagError.message : FlagError → Text
  | .malformed arg => "bad flag syntax: " ++ arg
  | .unknown name => "unknown flag: --" ++ name
  | .unknownLetter letter letters => "unknown shorthand flag: " ++ quotedByte letter ++ " in -" ++ letters
  | .valueMissing arg => "flag needs an argument: " ++ arg
  | .letterValueMissing letter letters => "flag needs an argument: " ++ quotedByte letter ++ " in -" ++ letters
  | .invalid value flag reason =>
    "invalid argument " ++ value.quoted ++ " for " ++ flag.spelling.quoted ++ " flag: " ++ reason

/-! ## Reading -/

/-- The flag with this name. -/
def Flag.named? (flags : List Flag) (name : Text) : Option Flag := flags.find? (·.name == name)

/-- The flag with this letter. -/
def Flag.lettered? (flags : List Flag) (letter : UInt8) : Option Flag :=
  flags.find? fun f => f.letter.map Text.byte == some letter

/-- Gives a flag the value of a text. -/
def Parsed.give (p : Parsed) (f : Flag) (t : Text) : Except FlagError Parsed :=
  match f.kind.read (p.value? f.name) t with
  | .ok v => .ok (p.put f.name v)
  | .error reason => .error (.invalid t f reason)

/-- Reads letters that are run together behind a hyphen. The next argument is the value of a last letter that needs one;
the result says whether it was taken. Letters that begin with `test.` are skipped. -/
def readLetters (flags : List Flag) (next : Option Text) : Parsed → Text → Except FlagError (Parsed × Bool)
  | p, [] => .ok (p, false)
  | p, letter :: rest =>
    let letters : Text := letter :: rest
    if letters.startsWith "test." then .ok (p, false)
    else
      match Flag.lettered? flags letter with
      | none => .error (.unknownLetter letter letters)
      | some f =>
        if rest.length > 1 && rest.head? == some (Text.byte '=') then (p.give f (rest.drop 1)).map (·, false)
        else
          match f.kind.alone? with
          | some t =>
            match p.give f t with
            | .ok p => readLetters flags next p rest
            | .error e => .error e
          | none =>
            if !rest.isEmpty then (p.give f rest).map (·, false)
            else
              match next with
              | some t => (p.give f t).map (·, true)
              | none => .error (.letterValueMissing letter letters)

/-- Reads a flag that is given by its name. The next argument is its value if it needs one and has none of its own; the
result says whether it was taken. -/
def readNamed (flags : List Flag) (next : Option Text) (p : Parsed) (arg : Text) : Except FlagError (Parsed × Bool) :=
  let body := arg.drop 2
  if body.isEmpty || body.head? == some (Text.byte '-') || body.head? == some (Text.byte '=') then
    .error (.malformed arg)
  else
    let (name, value?) := match Text.cut? "=" body with
      | some (name, value) => (name, some value)
      | none => (body, none)
    match Flag.named? flags name with
    | none => .error (.unknown name)
    | some f =>
      match value?.or f.kind.alone?, next with
      | some t, _ => (p.give f t).map (·, false)
      | none, some t => (p.give f t).map (·, true)
      | none, none => .error (.valueMissing arg)

/-- Reads the flags among arguments; those that are none are kept in order. -/
def readFlags (flags : List Flag) (p : Parsed) : List Text → Except FlagError Parsed
  | [] => .ok p
  | arg :: rest =>
    if arg == Text.ofString "--" then .ok { p with args := p.args ++ rest }
    else if arg.length < 2 || !arg.startsWith "-" then readFlags flags { p with args := p.args ++ [arg] } rest
    else
      let taken := if arg.startsWith "--" then readNamed flags rest.head? p arg
        else readLetters flags rest.head? p (arg.drop 1)
      match taken with
      | .error e => .error e
      | .ok (p, true) => readFlags flags p rest.tail
      | .ok (p, false) => readFlags flags p rest
termination_by args => args.length

/-! ## Usage -/

/-- A default as usage texts show it. -/
def FlagValue.display : FlagValue → Text
  | .switch on => if on then "true" else "false"
  | .number n => Text.ofInt n
  | .word t => t.quoted
  | .words ts => "[" ++ Csv.write ts ++ "]"

/-- The left column of a flag in a usage text. -/
def Flag.heading (f : Flag) : Text :=
  let name : Text := match f.letter with
    | some c => "  -" ++ Text.byte c :: (", --" ++ f.name : Text)
    | none => "      --" ++ f.name
  if f.kind.label.isEmpty then name else name ++ " " ++ f.kind.label

/-- The right column of a flag in a usage text. -/
def Flag.explanation (f : Flag) : Text :=
  f.usage ++ (f.default.elim [] fun v => " (default " ++ v.display ++ ")" : Text)

/-- The flags in a table of two columns, in byte order of their names. -/
def Flag.table (flags : List Flag) : List Text :=
  let sorted := flags.mergeSort fun a b => !Text.less b.name a.name
  let width := (sorted.map (·.heading.length)).foldl max 0
  sorted.map fun f => f.heading ++ Text.spaces (width - f.heading.length + 3) ++ f.explanation

end HouseStyle.Command
