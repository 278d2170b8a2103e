import HouseStyle.Rule.Basic
import HouseStyle.Source.Line

/-!
# Declarations

The rules about names declared outside all braces: type definitions and global variables carry a prefix that tells
their kind.
-/

namespace HouseStyle.Rule

/-- The brace depth after a line: one more for a line with an opening brace, one less for one with a closing brace. -/
def depthAfter (depth : Nat) (line : Text) : Nat :=
  let depth := if line.has '{' then depth + 1 else depth
  if line.has '}' then depth - 1 else depth

/-- What a type definition names. -/
inductive TypedefKind where
  | plain
  | struct
  | enum
  | union

/-- The kind of the type definition that begins on a line. -/
def TypedefKind.ofLine (line : Text) : TypedefKind :=
  if line.includes "struct" then .struct
  else if line.includes "enum" then .enum
  else if line.includes "union" then .union
  else .plain

/-- What is wrong with the alias of a type definition of this kind. -/
def TypedefKind.aliasMessages (kind : TypedefKind) (given : Text) : List Text :=
  match kind with
  | .plain => messagesWhere [(!given.startsWith "t_" && !given.startsWith "f_",
      "Typedef '" ++ given ++ "' must start with 't_' or 'f_'")]
  | .struct => messagesWhere [(!given.startsWith "s_", "Struct typedef '" ++ given ++ "' must start with 's_'")]
  | .enum => messagesWhere [(!given.startsWith "e_", "Enum typedef '" ++ given ++ "' must start with 'e_'")]
  | .union => messagesWhere [(!given.startsWith "u_", "Union typedef '" ++ given ++ "' must start with 'u_'")]

/-- The prefixes of type names. -/
def typePrefixes : List Text := ["s_", "u_", "e_", "t_", "f_"]

/-- The type prefix that a name begins with. -/
def typePrefix? (name : Text) : Option Text := typePrefixes.find? (name.startsWith ·)

/-- What is wrong with the alias on the line that ends a type definition. -/
def typedefMessages (kind : TypedefKind) (line : Text) : List Text :=
  let words := line.words
  let given := (words.getLast?.getD []).trimSuffix ";"
  if given.length ≤ 1 then ["Anonymous typedef mustn't be used"]
  else
    let inherited :=
      match words with
      | [first, type, _] => if first == Text.ofString "typedef" then typePrefix? type else none
      | _ => none
    match inherited with
    | some kept => messagesWhere
        [(!given.startsWith kept, "Typedef '" ++ given ++ "' must start with '" ++ kept ++ "'")]
    | none => kind.aliasMessages given

/-- The alias of a type definition tells its kind. -/
def typedef : Rule where
  name := "typedef"
  doc := "Check typedef alias prefixes.\n\n" ++
    "Struct aliases start with s_, enum aliases with e_, union aliases with u_\n" ++
    "and every other alias with t_ (or f_ for function pointers). An alias of an\n" ++
    "already prefixed type keeps that prefix:\n\n" ++
    "\ttypedef s_point s_vertex;\n\n" ++
    "Anonymous typedefs, where no alias follows the closing brace, are reported."
  severity := .error
  run := LineScan.run
    { start := (0, none)
      step := fun (depth, pending) line =>
        let depth := depthAfter depth line
        if depth > 0 then ((depth, pending), [])
        else
          let pending := if line.includes "typedef" then some (TypedefKind.ofLine line) else pending
          match pending with
          | none => ((depth, none), [])
          | some kind =>
            if line.has ';' then ((depth, none), typedefMessages kind line) else ((depth, pending), []) }

/-- Where a scan stands with respect to globals: the brace depth, whether a macro goes on, and the globals so far. -/
structure GlobalState where
  depth : Nat := 0
  inMacro : Bool := false
  found : Nat := 0

/-- The line, outside all braces and macros, declares a variable. -/
def declaresGlobal (line : Text) : Bool :=
  let text := line.trimLeft
  line.has ';' && !line.has '}' && !(line.has '(' && !line.has '=') &&
    !text.startsWith "//" && !text.startsWith "**" && !Line.startsWithWord text "typedef"

/-- What is wrong with the name of the variable declared on a line. -/
def globalMessages (line : Text) : List Text :=
  let declaration := ((Text.cut? "=" line).map (·.1)).getD line
  match declaration.words.getLast? with
  | none => []
  | some last =>
    let name : Text := (last.trimSuffix ";").dropWhile (· == Text.byte '*')
    messagesWhere [(!name.startsWith "g_", "Global variable '" ++ name ++ "' must start with 'g_'")]

/-- Reads a line; inside braces and macros nothing is declared. -/
def GlobalState.next (s : GlobalState) (line : Text) : GlobalState × List Text :=
  let s := { s with depth := depthAfter s.depth line }
  if s.depth > 0 then (s, [])
  else if line.trimLeft.startsWith "#" || s.inMacro then
    ({ s with inMacro := line.trimRight.endsWith "\\" }, [])
  else if declaresGlobal line then ({ s with found := s.found + 1 }, globalMessages line)
  else (s, [])

/-- A file declares one global variable at most, and its name tells so. -/
def global : Rule where
  name := "global"
  doc := "Check file-scope variables.\n\n" ++
    "A global variable name starts with g_ and a file declares at most one.\n" ++
    "Prototypes, typedefs, preprocessor lines (including macro continuations)\n" ++
    "and comment lines are not declarations."
  severity := .warning
  run := LineScan.run
    { start := ({} : GlobalState)
      step := GlobalState.next
      finish := fun _ s =>
        if s.found > 1 then
          [{ line := 0, message := "One global variable per file maximum, found " ++ Text.ofNat s.found }]
        else [] }

end HouseStyle.Rule
