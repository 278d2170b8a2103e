import HouseStyle.Json.Reader
import HouseStyle.Settings.Value
import HouseStyle.Yaml.Plain

/-!
# Settings in YAML

A reader for the YAML that configuration files are written in: block mappings and sequences, flow collections, scalars
plain, quoted and in blocks, and comments. Anchors, aliases, tags and explicit keys are not among it.

The rest of a document is always a text that begins at the beginning of a line. Every step takes a byte at least, so the
length of the document bounds the recursion.
-/

namespace HouseStyle.Value.Yaml

/-! ## Lines -/

/-- Whether the byte is a space or a tab. -/
def isGap (b : UInt8) : Bool := b == Text.byte ' ' || b == Text.byte '\t'

/-- The text without spaces and tabs at its front. -/
def skipGaps (t : Text) : Text := t.dropWhile isGap

/-- The text without spaces and tabs at its end. -/
def trimGaps (t : Text) : Text := (t.reverse.dropWhile isGap).reverse

/-- The first line of a text and what follows it. -/
def cutLine (t : Text) : Text × Text :=
  let (line, rest) := t.span (· != Text.byte '\n')
  (line, rest.drop 1)

/-- Whether a line, or the rest of one, holds nothing but a comment. -/
def isIdle (line : Text) : Bool :=
  match skipGaps line with
  | [] => true
  | b :: _ => b == Text.byte '#'

/-- The text without idle lines at its front. -/
def skipIdle (t : Text) : Text := Text.join "\n" ((t.pieces '\n').dropWhile isIdle)

/-- The number of spaces at the front. -/
def indentOf (t : Text) : Nat := (t.takeWhile (· == Text.byte ' ')).length

/-- The text without a comment at its end; a comment begins at a `#` after a gap. -/
def dropComment : (afterGap : Bool) → Text → Text
  | _, [] => []
  | afterGap, b :: rest => if afterGap && b == Text.byte '#' then [] else b :: dropComment (isGap b) rest

/-- Whether the text begins with a colon that separates a key from its value. -/
def atSeparator : Text → Bool
  | b :: rest => b == Text.byte ':' && (rest.head?.all fun c => isGap c || c == Text.byte '\n')
  | [] => false

/-- What stands before and after the first colon that separates a key from its value. -/
def cutKey? : Text → Option (Text × Text)
  | [] => none
  | b :: rest =>
    if atSeparator (b :: rest) then some ([], rest) else (cutKey? rest).map fun (key, after) => (b :: key, after)

/-- Whether the byte cannot begin a plain scalar. -/
def isIndicator (b : UInt8) : Bool := Text.has "[]\x7b\x7d,&*!|>'\"%@`#" (Char.ofNat b.toNat)

/-- Whether a plain scalar can begin here. -/
def startsPlain : Text → Bool
  | [] => false
  | b :: rest =>
    if b == Text.byte '-' || b == Text.byte '?' || b == Text.byte ':' then
      rest.head?.any fun c => !isGap c && c != Text.byte '\n'
    else !isIndicator b

/-! ## Scalars -/

/-- The value of a plain scalar. -/
def ofPlain (t : Text) : Value :=
  match HouseStyle.Yaml.Plain.ofText t with
  | .null => .null
  | .bool b => .bool b
  | .int n => .int n
  | .float d => .fraction d
  | .special | .timestamp | .string => .text t

/-- The line breaks at the front of a text, with the gaps among them, and the rest. -/
def countBreaks : (breaks : Nat) → Text → Nat × Text
  | n, [] => (n, [])
  | n, b :: rest =>
    if b == Text.byte '\n' then countBreaks (n + 1) rest
    else if isGap b then
      match countBreaks n rest with
      | (m, after) => if m = n && n = 0 then (0, b :: rest) else (m, after)
    else (n, b :: rest)

/-- What line breaks inside a scalar fold into: one to a space, more to one newline less. -/
def foldBreaks (n : Nat) : Text := if n ≤ 1 then " " else List.replicate (n - 1) (Text.byte '\n')

/-- The number that `n` hexadecimal digits at the front denote, and the rest. -/
def readHex? (n : Nat) (t : Text) : Option (Nat × Text) := do
  let digits ← (t.take n).mapM Json.hexValue?
  if digits.length = n then return (digits.foldl (fun v d => 16 * v + d) 0, t.drop n) else none

/-- The text of the escape that begins with this byte, and the rest. -/
def readEscape? (b : UInt8) (rest : Text) : Option (Text × Text) :=
  let plain : List (Char × Nat) :=
    [('0', 0), ('a', 7), ('b', 8), ('t', 9), ('\t', 9), ('n', 10), ('v', 11), ('f', 12), ('r', 13), ('e', 27),
     (' ', 32), ('"', 34), ('/', 47), ('\\', 92), ('N', 0x85), ('_', 0xA0), ('L', 0x2028), ('P', 0x2029)]
  match plain.find? fun (c, _) => b == Text.byte c with
  | some (_, code) => some (Glyph.encode code, rest)
  | none =>
    let digits :=
      if b == Text.byte 'x' then 2 else if b == Text.byte 'u' then 4 else if b == Text.byte 'U' then 8 else 0
    if digits = 0 then none else (readHex? digits rest).map fun (code, after) => (Glyph.encode code, after)

/-- Reads the rest of a scalar in double quotes; `done` holds what was read in reverse. -/
def readDouble? : (fuel : Nat) → (done : Text) → Text → Option (Text × Text)
  | 0, _, _ => none
  | _, _, [] => none
  | fuel + 1, done, b :: rest =>
    if b == Text.byte '"' then some (done.reverse, rest)
    else if b == Text.byte '\\' then
      match rest with
      | [] => none
      | c :: after =>
        if c == Text.byte '\n' then readDouble? fuel done (after.dropWhile isGap)
        else (readEscape? c after).bind fun (t, after) => readDouble? fuel (t.reverse ++ done) after
    else if b == Text.byte '\n' then
      let (n, after) := countBreaks 1 rest
      readDouble? fuel ((foldBreaks n).reverse ++ done.dropWhile isGap) after
    else readDouble? fuel (b :: done) rest

/-- Reads the rest of a scalar in single quotes; `done` holds what was read in reverse. -/
def readSingle? : (fuel : Nat) → (done : Text) → Text → Option (Text × Text)
  | 0, _, _ => none
  | _, _, [] => none
  | fuel + 1, done, b :: rest =>
    if b == Text.byte '\'' then
      match rest with
      | c :: after => if c == Text.byte '\'' then readSingle? fuel (b :: done) after else some (done.reverse, rest)
      | [] => some (done.reverse, [])
    else if b == Text.byte '\n' then
      let (n, after) := countBreaks 1 rest
      readSingle? fuel ((foldBreaks n).reverse ++ done.dropWhile isGap) after
    else readSingle? fuel (b :: done) rest

/-- Reads a quoted scalar, if one begins here. -/
def readQuoted? (t : Text) : Option (Option (Text × Text)) :=
  match t with
  | b :: rest =>
    if b == Text.byte '"' then some (readDouble? (t.length + 1) [] rest)
    else if b == Text.byte '\'' then some (readSingle? (t.length + 1) [] rest)
    else none
  | [] => none

/-! ## Flow collections -/

/-- Drops gaps, line breaks and comments. -/
def skipFlow : (fuel : Nat) → Text → Text
  | 0, t => t
  | fuel + 1, t =>
    match t.dropWhile fun b => isGap b || b == Text.byte '\n' with
    | b :: rest => if b == Text.byte '#' then skipFlow fuel (cutLine rest).2 else b :: rest
    | [] => []

/-- Whether the byte ends a plain scalar inside a flow collection. -/
def endsFlow (b : UInt8) : Bool := Text.has "[]\x7b\x7d," (Char.ofNat b.toNat)

/-- Reads a plain scalar inside a flow collection; `done` holds what was read in reverse. -/
def readFlowPlain : (done : Text) → Text → Text × Text
  | done, [] => ((trimGaps done.reverse), [])
  | done, b :: rest =>
    let separator := b == Text.byte ':' && rest.head?.all fun c => isGap c || c == Text.byte '\n' || endsFlow c
    let comment := b == Text.byte '#' && done.head?.any isGap
    if endsFlow b || separator || comment then (trimGaps done.reverse, b :: rest)
    else if b == Text.byte '\n' then readFlowPlain (Text.byte ' ' :: done.dropWhile isGap) rest
    else if isGap b && done.head? == some (Text.byte ' ') then readFlowPlain done rest
    else readFlowPlain (b :: done) rest

mutual

/-- Reads a value inside a flow collection. -/
def readFlow? : (fuel : Nat) → Text → Option (Value × Text)
  | 0, _ => none
  | fuel + 1, t =>
    match readQuoted? t with
    | some found => found.map fun (s, rest) => (.text s, rest)
    | none =>
      match t with
      | [] => none
      | b :: rest =>
        if b == Text.byte '[' then readFlowItems? fuel [] rest
        else if b == Text.byte '{' then readFlowMembers? fuel [] rest
        else if startsPlain t then
          let (s, after) := readFlowPlain [] t
          some (ofPlain s, after)
        else none

/-- Reads the items of a flow sequence up to its end; `done` holds the items so far in reverse. -/
def readFlowItems? : (fuel : Nat) → (done : List Value) → Text → Option (Value × Text)
  | 0, _, _ => none
  | fuel + 1, done, t =>
    match skipFlow (t.length + 1) t with
    | [] => none
    | b :: rest =>
      if b == Text.byte ']' then some (.list done.reverse, rest)
      else
        match readFlow? fuel (b :: rest) with
        | none => none
        | some (v, after) =>
          match skipFlow (after.length + 1) after with
          | c :: more =>
            if c == Text.byte ',' then readFlowItems? fuel (v :: done) more
            else if c == Text.byte ']' then some (.list (v :: done).reverse, more)
            else none
          | [] => none

/-- Reads the members of a flow mapping up to its end; `done` holds the members so far in reverse. -/
def readFlowMembers? : (fuel : Nat) → (done : List (Text × Value)) → Text → Option (Value × Text)
  | 0, _, _ => none
  | fuel + 1, done, t =>
    match skipFlow (t.length + 1) t with
    | [] => none
    | b :: rest =>
      if b == Text.byte '}' then some (.table done.reverse, rest)
      else
        let key := match readQuoted? (b :: rest) with
          | some found => found
          | none => if startsPlain (b :: rest) then some (readFlowPlain [] (b :: rest)) else none
        match key with
        | none => none
        | some (name, after) =>
          let value := match skipFlow (after.length + 1) after with
            | c :: more =>
              if c == Text.byte ':' then
                match skipFlow (more.length + 1) more with
                | d :: tail =>
                  if d == Text.byte ',' || d == Text.byte '}' then some (Value.null, d :: tail)
                  else readFlow? fuel (d :: tail)
                | [] => none
              else some (.null, c :: more)
            | [] => none
          match value with
          | none => none
          | some (v, after) =>
            if done.any (·.1 == name) then none
            else
              match skipFlow (after.length + 1) after with
              | c :: more =>
                if c == Text.byte ',' then readFlowMembers? fuel ((name, v) :: done) more
                else if c == Text.byte '}' then some (.table ((name, v) :: done).reverse, more)
                else none
              | [] => none

end

/-! ## Block scalars -/

/-- How the line breaks at the end of a block scalar are kept. -/
inductive Chomp where
  | strip
  | clip
  | keep

/-- The header of a block scalar: whether it folds its lines, how it ends, and its indentation, if that is given. -/
def readHeader? (folded : Bool) (line : Text) : Option (Bool × Chomp × Option Nat) :=
  let (marks, rest) := line.span fun b => !isGap b
  let chomp : Chomp :=
    if Text.has marks '-' then .strip else if Text.has marks '+' then .keep else .clip
  let digits := marks.filter Text.isDigit
  let ok := marks.all (fun b => Text.isDigit b || b == Text.byte '-' || b == Text.byte '+') && digits.length ≤ 1
  if ok && isIdle rest then some (folded, chomp, if digits.isEmpty then none else some (Text.digitsValue digits))
  else none

/-- The lines joined, where a break between two lines that begin with no gap folds into a space. -/
def foldLines : List Text → Text
  | [] => []
  | [line] => line
  | a :: b :: rest =>
    if a.isEmpty then "\n" ++ foldLines (b :: rest)
    else if b.isEmpty then a ++ foldLines (b :: rest)
    else if a.head?.any isGap || b.head?.any isGap then a ++ "\n" ++ foldLines (b :: rest)
    else a ++ " " ++ foldLines (b :: rest)

/-- Reads the lines of a block scalar whose parent is indented by `parent` spaces, if it has any. -/
def readBlock (parent : Option Nat) (header : Bool × Chomp × Option Nat) (t : Text) : Text × Text :=
  let lines := t.pieces '\n'
  let least := parent.elim 0 (· + 1)
  let inked := lines.find? fun l => !(l.all (· == Text.byte ' '))
  let indent := match header.2.2 with
    | some n => parent.getD 0 + n
    | none => max least (inked.elim least indentOf)
  let inside (l : Text) : Bool := l.all (· == Text.byte ' ') || indent ≤ indentOf l
  let taken := lines.takeWhile inside
  let left := lines.drop taken.length
  let body := taken.map (·.drop indent)
  let kept := (body.reverse.dropWhile (·.isEmpty)).reverse
  let content := if header.1 then foldLines kept else Text.join "\n" kept
  let blanks := List.replicate (body.length - kept.length - (if left.isEmpty then 1 else 0)) (Text.byte '\n')
  let ending : Text := match header.2.1 with
    | .strip => []
    | .clip => if kept.isEmpty then [] else "\n"
    | .keep => if kept.isEmpty then blanks else Text.byte '\n' :: blanks
  (content ++ ending, Text.join "\n" left)

/-! ## Block collections -/

/-- The lines that continue a plain scalar: those indented by more than `parent` spaces, up to a comment. A line that
holds a key is an error. -/
def readContinuation? (parent : Option Nat) : (fuel : Nat) → (breaks : Nat) → Text → Option (Text × Text)
  | 0, _, t => some ([], t)
  | fuel + 1, breaks, t =>
    if t.isEmpty then some ([], t)
    else
      let (line, rest) := cutLine t
      if (skipGaps line).isEmpty then
        (readContinuation? parent fuel (breaks + 1) rest).map fun (more, after) =>
          if more.isEmpty then ([], t) else (more, after)
      else if isIdle line || indentOf line < parent.elim 0 (· + 1) then some ([], t)
      else
        let body := trimGaps (dropComment false (skipGaps line))
        if (cutKey? body).isSome then none
        else if (dropComment false line).length < line.length then some (foldBreaks breaks ++ body, rest)
        else
          (readContinuation? parent fuel 1 rest).map fun (more, after) => (foldBreaks breaks ++ body ++ more, after)

/-- Reads a scalar or a flow collection that begins in the middle of a line. -/
def readInline? (parent : Option Nat) (t : Text) : Option (Value × Text) :=
  let ended (v : Value) (rest : Text) : Option (Value × Text) :=
    let (line, more) := cutLine rest
    if isIdle line && (line.isEmpty || isGap (line.head?.getD 0)) then some (v, more) else none
  match readQuoted? t with
  | some found => found.bind fun (s, rest) => ended (.text s) rest
  | none =>
    match t with
    | [] => none
    | b :: rest =>
      if b == Text.byte '[' || b == Text.byte '{' then
        (readFlow? (2 * t.length + 2) t).bind fun (v, rest) => ended v rest
      else if b == Text.byte '|' || b == Text.byte '>' then
        let (line, more) := cutLine rest
        (readHeader? (b == Text.byte '>') line).map fun header =>
          let (s, after) := readBlock parent header more
          (.text s, after)
      else if startsPlain t then
        let (line, more) := cutLine t
        let body := trimGaps (dropComment false line)
        if (cutKey? body).isSome then none
        else if (dropComment false line).length < line.length then some (ofPlain body, more)
        else
          (readContinuation? parent (t.length + 1) 1 more).map fun (extra, after) =>
            (if extra.isEmpty then ofPlain body else .text (body ++ extra), after)
      else none

/-- Whether the line is an item of a block sequence. -/
def isItem (line : Text) : Bool :=
  match line with
  | b :: rest => b == Text.byte '-' && rest.head?.all isGap
  | [] => false

/-- The key at the front of a line, and what follows its colon. The inner none is a malformed key, the outer one no
key. -/
def readKey? (line : Text) : Option (Option (Text × Text)) :=
  match readQuoted? line with
  | some none => some none
  | some (some (key, rest)) => if atSeparator (skipGaps rest) then some (some (key, (skipGaps rest).drop 1)) else none
  | none =>
    match cutKey? (dropComment false line) with
    | none => none
    | some (key, after) =>
      let body := dropComment false line
      if startsPlain body then some (some (trimGaps key, line.drop (body.length - after.length)))
      else if line.head?.any (fun b => b == Text.byte '[' || b == Text.byte '{') then none
      else some none

mutual

/-- Reads a node that stands on lines of its own, indented by at least `least` spaces; without one it is null. -/
def readNode? : (fuel : Nat) → (least : Nat) → Text → Option (Value × Text)
  | 0, _, _ => none
  | fuel + 1, least, t =>
    let t := skipIdle t
    let indent := indentOf t
    if t.isEmpty || indent < least then some (.null, t)
    else
      let body := t.drop indent
      let line := (cutLine body).1
      if body.head? == some (Text.byte '\t') then none
      else if isItem line then readItems? fuel indent [] t
      else
        match readKey? line with
        | some none => none
        | some (some _) => readMembers? fuel indent [] t
        | none => readInline? (if least = 0 then none else some (least - 1)) body

/-- Reads the items of a block sequence at an indentation; `done` holds the items so far in reverse. -/
def readItems? : (fuel : Nat) → (indent : Nat) → (done : List Value) → Text → Option (Value × Text)
  | 0, _, _, _ => none
  | fuel + 1, indent, done, t =>
    let t := skipIdle t
    let here := indentOf t
    let body := t.drop here
    if t.isEmpty || here < indent then some (.list done.reverse, t)
    else if here > indent then none
    else if isItem (cutLine body).1 then
      match readNode? fuel (indent + 1) (Text.spaces (indent + 1) ++ body.drop 1) with
      | none => none
      | some (v, after) => readItems? fuel indent (v :: done) after
    else if done.isEmpty then none
    else some (.list done.reverse, t)

/-- Reads the members of a block mapping at an indentation; `done` holds the members so far in reverse. -/
def readMembers? : (fuel : Nat) → (indent : Nat) → (done : List (Text × Value)) → Text → Option (Value × Text)
  | 0, _, _, _ => none
  | fuel + 1, indent, done, t =>
    let t := skipIdle t
    let here := indentOf t
    let body := t.drop here
    if t.isEmpty || here < indent then some (.table done.reverse, t)
    else if here > indent then none
    else
      let (line, below) := cutLine body
      match readKey? line with
      | some (some (name, after)) =>
        if done.any (·.1 == name) then none
        else
          let value :=
            if isIdle after then
              let next := skipIdle below
              if indentOf next = indent && isItem (cutLine (next.drop indent)).1 then readItems? fuel indent [] next
              else readNode? fuel (indent + 1) below
            else readInline? (some indent) (skipGaps after ++ "\n" ++ below)
          match value with
          | none => none
          | some (v, rest) => readMembers? fuel indent ((name, v) :: done) rest
      | _ => none

end

/-! ## Documents -/

/-- The text with every line break written as a newline. -/
def unifyBreaks : Text → Text
  | [] => []
  | [b] => [if b == Text.byte '\r' then Text.byte '\n' else b]
  | b :: c :: rest =>
    if b == Text.byte '\r' then
      if c == Text.byte '\n' then c :: unifyBreaks rest else Text.byte '\n' :: unifyBreaks (c :: rest)
    else b :: unifyBreaks (c :: rest)

/-- Whether the code point may stand in a document. -/
def isAllowed (c : Nat) : Bool :=
  c = 0x09 || c = 0x0A || c = 0x0D || (0x20 ≤ c && c ≤ 0x7E) || c = 0x85 || (0xA0 ≤ c && c ≤ 0xFFFD) || 0x10000 ≤ c

/-- Whether the line ends or begins a document. -/
def isMarker (mark : String) (line : Text) : Bool :=
  match line.afterPrefix? mark with
  | some rest => rest.head?.all isGap
  | none => false

/-- The lines of the first document. -/
def firstDocument (t : Text) : Text :=
  let lines := (t.pieces '\n').dropWhile fun l => isIdle l || l.head? == some (Text.byte '%')
  let lines := match lines with
    | l :: rest => if isMarker "---" l then l.drop 3 :: rest else lines
    | [] => []
  Text.join "\n" (lines.takeWhile fun l => !isMarker "---" l && !isMarker "..." l)

/-- The members of a YAML document, which is a mapping or null. -/
def members? (t : Text) : Option (List (Text × Value)) :=
  let t := unifyBreaks (t.trimPrefix [0xEF, 0xBB, 0xBF])
  if !t.isWellFormed || !t.codes.all isAllowed then none
  else
    let t := firstDocument t
    match readNode? (2 * t.length + 4) 0 t with
    | some (.table members, rest) => if (skipIdle rest).isEmpty then some members else none
    | some (.null, rest) => if (skipIdle rest).isEmpty then some [] else none
    | _ => none

end HouseStyle.Value.Yaml
