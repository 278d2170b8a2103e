import HouseStyle.Path.Basic
import HouseStyle.Text.Glyph

/-!
# File name patterns

Patterns such as `*.gen.c`, `?.c` and `[a-z]*`. A star stands for any run of characters but slashes, a question mark for
one such character, a class for one of its members, and a backslash takes the next character literally.

A pattern is a sequence of *chunks*: a chunk is a run of tokens of fixed size, perhaps with a star before it. A chunk
after a star matches at the first place where it can, and the last one only at the end of the name.
-/

namespace HouseStyle.Path

/-- A token of a pattern. -/
inductive Token where
  | byte (b : UInt8)
  | any
  | oneOf (negated : Bool) (ranges : List (Nat × Nat))

/-- A run of tokens, perhaps after a star. -/
structure Chunk where
  star : Bool
  tokens : List Token

namespace Pattern

/-- Reads a member of a class, perhaps after a backslash; the class must go on after it. -/
def readMember? (t : Text) : Option (Nat × Text) :=
  match t with
  | [] => none
  | b :: rest =>
    if b = Text.byte '-' || b = Text.byte ']' then none
    else
      let t := if b = Text.byte '\\' then rest else t
      match t with
      | [] => none
      | c :: tail =>
        let g := Glyph.first c tail
        let after := t.drop g.bytes.length
        if g.isStray || after.isEmpty then none else some (g.code, after)

/-- Reads the ranges of a class up to its closing bracket; `done` holds the ranges so far in reverse. -/
def readRanges? : (fuel : Nat) → (done : List (Nat × Nat)) → Text → Option (List (Nat × Nat) × Text)
  | 0, _, _ => none
  | fuel + 1, done, t =>
    match t with
    | [] => none
    | b :: rest =>
      if b = Text.byte ']' && !done.isEmpty then some (done.reverse, rest)
      else
        match readMember? t with
        | none => none
        | some (lo, after) =>
          match after with
          | d :: tail =>
            if d = Text.byte '-' then
              match readMember? tail with
              | none => none
              | some (hi, after) => readRanges? fuel ((lo, hi) :: done) after
            else readRanges? fuel ((lo, lo) :: done) after
          | [] => none

/-- Reads a pattern into chunks. `star` and `tokens` (in reverse) are the chunk so far. -/
def readChunks? : (fuel : Nat) → (star : Bool) → (tokens : List Token) → Text → Option (List Chunk)
  | 0, _, _, _ => none
  | _ + 1, star, tokens, [] => some (if star || !tokens.isEmpty then [⟨star, tokens.reverse⟩] else [])
  | fuel + 1, star, tokens, b :: rest =>
    if b = Text.byte '*' then
      if tokens.isEmpty then readChunks? fuel true [] rest
      else (readChunks? fuel true [] rest).map (⟨star, tokens.reverse⟩ :: ·)
    else if b = Text.byte '?' then readChunks? fuel star (.any :: tokens) rest
    else if b = Text.byte '\\' then
      match rest with
      | [] => none
      | c :: tail => readChunks? fuel star (.byte c :: tokens) tail
    else if b = Text.byte '[' then
      let (negated, body) : Bool × Text := match rest with
        | c :: tail => if c = Text.byte '^' then (true, tail) else (false, rest)
        | [] => (false, rest)
      match readRanges? (body.length + 1) [] body with
      | none => none
      | some (ranges, tail) => readChunks? fuel star (.oneOf negated ranges :: tokens) tail
    else readChunks? fuel star (.byte b :: tokens) rest

/-- Reads a pattern; a malformed one is none. -/
def parse? (pattern : Text) : Option (List Chunk) := readChunks? (pattern.length + 1) false [] pattern

/-- What is left of a name after the tokens of a chunk. -/
def matchTokens? : List Token → Text → Option Text
  | [], name => some name
  | _ :: _, [] => none
  | .byte b :: tokens, c :: rest => if b = c then matchTokens? tokens rest else none
  | .any :: tokens, c :: rest =>
    if c = slash then none else matchTokens? tokens ((c :: rest).drop (Glyph.first c rest).bytes.length)
  | .oneOf negated ranges :: tokens, c :: rest =>
    let g := Glyph.first c rest
    if (ranges.any fun (lo, hi) => lo ≤ g.code && g.code ≤ hi) == negated then none
    else matchTokens? tokens ((c :: rest).drop g.bytes.length)

/-- What is left after the first place, within a component of the name, where a chunk matches. -/
def skipTo? (tokens : List Token) (last : Bool) : Text → Option Text
  | [] => none
  | c :: rest =>
    if c = slash then none
    else
      match matchTokens? tokens rest with
      | some left => if last && !left.isEmpty then skipTo? tokens last rest else some left
      | none => skipTo? tokens last rest

/-- Whether the chunks match the whole name. -/
def matchChunks : List Chunk → Text → Bool
  | [], name => name.isEmpty
  | chunk :: more, name =>
    if chunk.star && chunk.tokens.isEmpty then !name.contains slash
    else
      let last := more.isEmpty
      let here := (matchTokens? chunk.tokens name).filter fun left => !last || left.isEmpty
      let next := if here.isNone && chunk.star then skipTo? chunk.tokens last name else here
      match next with
      | some left => matchChunks more left
      | none => false

/-- Whether the pattern matches the whole name; a malformed pattern matches nothing. -/
def accepts (pattern name : Text) : Bool := (parse? pattern).any (matchChunks · name)

end Pattern

/-- Whether a pattern matches the path as a whole or one of its components. -/
def matchesAny (path : Text) (patterns : List Text) : Bool :=
  let components := parts (clean path)
  patterns.any fun p => Pattern.accepts p path || components.any (Pattern.accepts p)

/-- Whether the path has one of the extensions; the point before an extension may be left out. -/
def hasExtension (path : Text) (exts : List Text) : Bool :=
  exts.any fun e => ext path == if e.startsWith "." then e else "." ++ e

end HouseStyle.Path
