import HouseStyle.Rule.Basic

/-!
# Functions

The limits on the size of a function: the code lines of its body and its parameters.
-/

namespace HouseStyle.Rule

/-- Where a scan stands in a function body: the brace depth, the code lines so far, and whether a block comment is
open. -/
structure BodyState where
  depth : Nat := 0
  count : Nat := 0
  inComment : Bool := false

/-- Whether a line of a body, inside a block comment or not, holds code, and whether a comment is open after it. -/
def codeLine (inComment : Bool) (line : Text) : Bool × Bool :=
  let text := line.trimLeft
  let noCode := line.isBlank || text.startsWith "//" || inComment
  let opens := line.includes "/*"
  let inComment := inComment || opens
  let noCode := if opens then text.startsWith "/*" else noCode
  if line.includes "*/" && noCode then (!line.trimRight.endsWith "*/", false) else (!noCode, inComment)

/-- Reads a line; the closing brace of a body is where its size is judged. -/
def BodyState.next (max : Int) (s : BodyState) (line : Text) : BodyState × List Text :=
  let closes := line.has '}' && s.depth > 0
  let depth := if closes then s.depth - 1 else s.depth
  let messages := messagesWhere [(closes && depth == 0 && (s.count : Int) > max,
    "Function body's line count exceeded. Expected at most " ++ Text.ofInt max ++ " got " ++ Text.ofNat s.count)]
  let (isCode, inComment) := if depth ≥ 1 then codeLine s.inComment line else (false, s.inComment)
  let count := if isCode then s.count + 1 else s.count
  if line.has '{' then
    ({ depth := depth + 1, count := if depth + 1 ≤ 1 then 0 else count, inComment }, messages)
  else ({ depth, count, inComment }, messages)

/-- A function body holds `max` code lines at most. -/
def functionMaxLines (max : Int) : Rule where
  name := "function-max-lines"
  doc := "Check that function bodies hold at most max-function-lines code lines.\n\n" ++
    "Blank lines, line comments and lines entirely inside a block comment are not\n" ++
    "counted. The diagnostic is placed on the closing brace of the function."
  severity := .error
  run := LineScan.run { start := {}, step := BodyState.next max }

/-- Where a scan stands in a parameter list: the brace depth, whether a list is open, and the commas so far. -/
structure ParameterState where
  depth : Nat := 0
  inside : Bool := false
  count : Nat := 0

/-- Reads a line; the closing parenthesis of a list is where its length is judged. -/
def ParameterState.next (max : Int) (s : ParameterState) (line : Text) : ParameterState × List Text :=
  let depth := s.depth + line.countOf '{' - line.countOf '}'
  let (text, s) : Text × ParameterState :=
    match Text.cut? "(" line with
    | some (_, after) => if depth = 0 then (after, { depth, inside := true, count := 0 }) else (line, { s with depth })
    | none => (line, { s with depth })
  if !s.inside then (s, [])
  else
    match Text.cut? ")" text with
    | some (before, _) =>
      let count := s.count + before.countOf ',' + 1
      ({ s with inside := false, count }, messagesWhere [((count : Int) > max,
        "Too many function arguments. Expected at most " ++ Text.ofInt max ++ " got " ++ Text.ofNat count)])
    | none => ({ s with count := s.count + text.countOf ',' }, [])

/-- A function takes `max` parameters at most. -/
def functionMaxArguments (max : Int) : Rule where
  name := "function-max-arguments"
  doc := "Check that functions take at most max-function-args parameters.\n\n" ++
    "A parenthesis opened outside any brace starts a parameter list, which may\n" ++
    "span several lines. Parameters are counted by commas, so \"()\" and \"(void)\"\n" ++
    "both count as one."
  severity := .error
  run := LineScan.run { start := {}, step := ParameterState.next max }

end HouseStyle.Rule
