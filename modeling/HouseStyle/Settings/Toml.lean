import HouseStyle.Json.Reader
import HouseStyle.Settings.Value

/-!
# Settings in TOML

A reader for TOML documents: keys bare, quoted and dotted, tables, arrays of tables, inline tables, arrays, numbers,
truth values, dates (as texts) and the four kinds of strings.

Every step takes a byte at least, so the length of the document bounds the recursion.
-/

namespace HouseStyle.Value.Toml

/-! ## Blanks -/

/-- Whether the byte is a space or a tab. -/
def isGap (b : UInt8) : Bool := b == Text.byte ' ' || b == Text.byte '\t'

/-- The text without spaces and tabs at its front. -/
def skipGaps (t : Text) : Text := t.dropWhile isGap

/-- The text after its first line. -/
def nextLine (t : Text) : Text := (t.dropWhile (· != Text.byte '\n')).drop 1

/-- Drops gaps, line breaks and comments. -/
def skipIdle : (fuel : Nat) → Text → Text
  | 0, t => t
  | fuel + 1, t =>
    match t.dropWhile fun b => isGap b || b == Text.byte '\n' || b == Text.byte '\r' with
    | b :: rest => if b == Text.byte '#' then skipIdle fuel (rest.dropWhile (· != Text.byte '\n')) else b :: rest
    | [] => []

/-- Drops gaps, line breaks and comments at the front of a text. -/
def skipAll (t : Text) : Text := skipIdle (t.length + 1) t

/-- What follows the rest of a line, if that holds nothing but a comment. -/
def endLine? (t : Text) : Option Text :=
  match skipGaps t with
  | [] => some []
  | b :: rest =>
    if b == Text.byte '#' || b == Text.byte '\n' then some (nextLine (b :: rest))
    else if b == Text.byte '\r' && rest.head? == some (Text.byte '\n') then some (rest.drop 1)
    else none

/-! ## Strings -/

/-- The number that `n` hexadecimal digits at the front denote, and the rest. -/
def readHex? (n : Nat) (t : Text) : Option (Nat × Text) := do
  let digits ← (t.take n).mapM Json.hexValue?
  if digits.length = n then return (digits.foldl (fun v d => 16 * v + d) 0, t.drop n) else none

/-- The text of an escape, and the rest. -/
def readEscape? (b : UInt8) (rest : Text) : Option (Text × Text) :=
  let plain : List (Char × Nat) :=
    [('b', 8), ('t', 9), ('n', 10), ('f', 12), ('r', 13), ('e', 27), ('"', 34), ('\\', 92)]
  match plain.find? fun (c, _) => b == Text.byte c with
  | some (_, code) => some ([UInt8.ofNat code], rest)
  | none =>
    let digits := if b == Text.byte 'u' then 4 else if b == Text.byte 'U' then 8 else 0
    if digits = 0 then none else (readHex? digits rest).map fun (code, after) => (Glyph.encode code, after)

/-- Reads the rest of a string up to its closing quotes; `done` holds what was read in reverse. Only strings of three
quotes may hold line breaks, and only strings in double quotes have escapes. -/
def readString? (close : Text) (escapes long : Bool) : (fuel : Nat) → (done : Text) → Text → Option (Text × Text)
  | 0, _, _ => none
  | _, _, [] => none
  | fuel + 1, done, b :: rest =>
    match Text.afterPrefix? (b :: rest) close with
    | some after =>
      if long && after.head? == close.head? then readString? close escapes long fuel (b :: done) rest
      else some (done.reverse, after)
    | none =>
      if escapes && b == Text.byte '\\' then
        match rest with
        | [] => none
        | c :: after =>
          if long && (isGap c || c == Text.byte '\n' || c == Text.byte '\r') then
            readString? close escapes long fuel done
              (after.dropWhile fun d => isGap d || d == Text.byte '\n' || d == Text.byte '\r')
          else
            (readEscape? c after).bind fun (t, after) =>
              readString? close escapes long fuel (t.reverse ++ done) after
      else if !long && (b == Text.byte '\n' || b == Text.byte '\r') then none
      else readString? close escapes long fuel (b :: done) rest

/-- Reads a string, if one begins here; `multi` allows the strings of three quotes. -/
def readQuoted? (multi : Bool) (t : Text) : Option (Option (Text × Text)) :=
  let dropBreak (t : Text) : Text := (t.trimPrefix "\r").trimPrefix "\n"
  let read (close : Text) (escapes long : Bool) (rest : Text) : Option (Text × Text) :=
    readString? close escapes long (rest.length + 1) [] (if long then dropBreak rest else rest)
  match t with
  | [] => none
  | b :: rest =>
    if b == Text.byte '"' || b == Text.byte '\'' then
      match t.afterPrefix? [b, b, b] with
      | some rest => some (if multi then read [b, b, b] (b == Text.byte '"') true rest else none)
      | none => some (read [b] (b == Text.byte '"') false rest)
    else none

/-! ## Plain values -/

/-- The text without underscores, if each of them stands between two digits. -/
def dropUnderscores? (t : Text) : Option Text :=
  if Text.has t '_' then
    let inner := (t.zip (t.drop 1)).all fun (a, b) =>
      (a != Text.byte '_' || (Json.hexValue? b).isSome) && (b != Text.byte '_' || (Json.hexValue? a).isSome)
    let ends := t.head? != some (Text.byte '_') && t.getLast? != some (Text.byte '_')
    if inner && ends then some (t.filter (· != Text.byte '_')) else none
  else some t

/-- Reads a number. -/
def readNumber? (t : Text) : Option Value := do
  let t ← dropUnderscores? t
  let unsigned : Text := match t with
    | b :: rest => if b == Text.byte '+' || b == Text.byte '-' then rest else t
    | [] => t
  let prefixed := unsigned.startsWith "0x" || unsigned.startsWith "0o" || unsigned.startsWith "0b"
  if prefixed then
    if unsigned.length < t.length then none else ((Number.parseInt t).toOption).map .int
  else
    let whole := unsigned.takeWhile Text.isDigit
    let rest := unsigned.drop whole.length
    if whole.isEmpty || (whole.length > 1 && whole.head? == some (Text.byte '0')) then none
    else if rest.isEmpty then ((Number.parseInt t).toOption).map .int
    else if rest.head? == some (Text.byte '.') && !(rest.drop 1).head?.any Text.isDigit then none
    else (Number.parseDecimal? t).map .fraction

/-- Whether the text has the form of a date or a time. -/
def isMoment (t : Text) : Bool :=
  let digitsAt (places : List Nat) : Bool := places.all fun i => t[i]?.any Text.isDigit
  let date := digitsAt [0, 1, 2, 3, 5, 6, 8, 9] && t[4]? == some (Text.byte '-') && t[7]? == some (Text.byte '-')
  let time := digitsAt [0, 1, 3, 4, 6, 7] && t[2]? == some (Text.byte ':') && t[5]? == some (Text.byte ':')
  date || time

/-- The value of a word without quotes. -/
def ofPlain? (t : Text) : Option Value :=
  if t = Text.ofString "true" then some (.bool true)
  else if t = Text.ofString "false" then some (.bool false)
  else if (["inf", "+inf", "-inf", "nan", "+nan", "-nan"] : List Text).contains t then some (.text t)
  else if isMoment t then some (.text t)
  else readNumber? t

/-- Whether the byte ends a word without quotes. -/
def endsPlain (b : UInt8) : Bool :=
  isGap b || b == Text.byte '\n' || b == Text.byte '\r' || b == Text.byte ',' || b == Text.byte ']' ||
    b == Text.byte '}' || b == Text.byte '#'

/-! ## Keys -/

/-- Whether the byte can stand in a bare key. -/
def isBare (b : UInt8) : Bool := Text.isIdent b || b == Text.byte '-'

/-- Reads a key, part by part. -/
def readKey? : (fuel : Nat) → Text → Option (List Text × Text)
  | 0, _ => none
  | fuel + 1, t =>
    let t := skipGaps t
    let part := match readQuoted? false t with
      | some found => found
      | none =>
        let bare := t.takeWhile isBare
        if bare.isEmpty then none else some (bare, t.drop bare.length)
    match part with
    | none => none
    | some (name, rest) =>
      match skipGaps rest with
      | b :: after =>
        if b == Text.byte '.' then (readKey? fuel after).map fun (names, rest) => (name :: names, rest)
        else some ([name], b :: after)
      | [] => some ([name], [])

/-- Puts a value at a path of names; a name that is taken is an error. -/
def put? (members : List (Text × Value)) : List Text → Value → Option (List (Text × Value))
  | [], _ => none
  | [name], v => if members.any (·.1 == name) then none else some (members ++ [(name, v)])
  | name :: rest, v =>
    match members.find? (·.1 == name) with
    | none => (put? [] rest v).map fun inner => members ++ [(name, .table inner)]
    | some (_, .table inner) =>
      (put? inner rest v).map fun inner => members.map fun (n, w) => if n == name then (n, .table inner) else (n, w)
    | some _ => none

/-! ## Values -/

mutual

/-- Reads a value. -/
def readValue? : (fuel : Nat) → Text → Option (Value × Text)
  | 0, _ => none
  | fuel + 1, t =>
    match readQuoted? true t with
    | some found => found.map fun (s, rest) => (.text s, rest)
    | none =>
      match t with
      | [] => none
      | b :: rest =>
        if b == Text.byte '[' then readArray? fuel [] rest
        else if b == Text.byte '{' then readInline? fuel [] rest
        else
          let word := t.takeWhile (!endsPlain ·)
          (ofPlain? word).map fun v => (v, t.drop word.length)

/-- Reads the items of an array up to its end; `done` holds the items so far in reverse. -/
def readArray? : (fuel : Nat) → (done : List Value) → Text → Option (Value × Text)
  | 0, _, _ => none
  | fuel + 1, done, t =>
    match skipAll t with
    | [] => none
    | b :: rest =>
      if b == Text.byte ']' then some (.list done.reverse, rest)
      else
        match readValue? fuel (b :: rest) with
        | none => none
        | some (v, after) =>
          match skipAll after with
          | c :: more =>
            if c == Text.byte ',' then readArray? fuel (v :: done) more
            else if c == Text.byte ']' then some (.list (v :: done).reverse, more)
            else none
          | [] => none

/-- Reads the members of an inline table up to its end. -/
def readInline? : (fuel : Nat) → (done : List (Text × Value)) → Text → Option (Value × Text)
  | 0, _, _ => none
  | fuel + 1, done, t =>
    match skipGaps t with
    | [] => none
    | b :: rest =>
      if b == Text.byte '}' && done.isEmpty then some (.table done, rest)
      else
        match readMember? fuel done (b :: rest) with
        | none => none
        | some (done, after) =>
          match skipGaps after with
          | c :: more =>
            if c == Text.byte ',' then readInline? fuel done more
            else if c == Text.byte '}' then some (.table done, more)
            else none
          | [] => none

/-- Reads a key with its value and puts it among the members. -/
def readMember? : (fuel : Nat) → (members : List (Text × Value)) → Text → Option (List (Text × Value) × Text)
  | 0, _, _ => none
  | fuel + 1, members, t =>
    match readKey? (t.length + 1) t with
    | some (names, b :: rest) =>
      if b == Text.byte '=' then
        match readValue? fuel (skipGaps rest) with
        | some (v, after) => (put? members names v).map (·, after)
        | none => none
      else none
    | _ => none

end

/-! ## Documents -/

/-- Reads the lines of a document. Members below a table header go below its names; those of an array of tables are
kept apart from the members of the document. -/
def readLines? : (fuel : Nat) → (header : List Text) → (members : List (Text × Value)) → Text →
    Option (List (Text × Value))
  | 0, _, _, _ => none
  | fuel + 1, header, members, t =>
    match skipAll t with
    | [] => some members
    | b :: rest =>
      if b == Text.byte '[' then
        let many := rest.head? == some (Text.byte '[')
        match readKey? (rest.length + 1) (if many then rest.drop 1 else rest) with
        | none => none
        | some (names, after) =>
          match (skipGaps after).afterPrefix? (if many then "]]" else "]") with
          | none => none
          | some after => (endLine? after).bind (readLines? fuel names members)
      else
        match readMember? (2 * rest.length + 4) [] (b :: rest) with
        | some ([(name, v)], after) =>
          match put? members (header ++ [name]) v, endLine? after with
          | some members, some after => readLines? fuel header members after
          | _, _ => none
        | _ => none

/-- The members of a TOML document. -/
def members? (t : Text) : Option (List (Text × Value)) :=
  let t := t.trimPrefix [0xEF, 0xBB, 0xBF]
  if t.isWellFormed then readLines? (t.length + 1) [] [] t else none

end HouseStyle.Value.Toml
