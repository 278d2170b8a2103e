import HouseStyle.Rule.Basic
import HouseStyle.Source.Line

/-!
# Statements

The rules about single statements: how keywords meet their parenthesis or semicolon, no `goto`, and static variables
that are constant.
-/

namespace HouseStyle.Rule

/-- The keywords that a parenthesis follows. -/
def parenKeywords : List Text := ["else if", "if", "for", "while", "switch", "return", "sizeof"]

/-- One space stands between a keyword and its parenthesis. -/
def controlStructures : Rule where
  name := "control-structures"
  doc := "Check that control keywords are followed by exactly one space and a parenthesis.\n\n" ++
    "Applies to if, else if, for, while, switch, return and sizeof when the line holds a parenthesis: \"if (x)\" " ++
    "is accepted, \"if(x)\" and \"if  (x)\" are reported."
  severity := .error
  run := (LineScan.perLine fun line => messagesWhere <| parenKeywords.map fun kw =>
    (Line.beginsWith line kw && line.has '(' && !line.includes (kw ++ " ("), kw ++ " must be followed by ' ('")).run

/-- The keywords that end a path of control. -/
def jumpKeywords : List Text := ["return", "break", "continue"]

/-- A jump without a value is directly followed by its semicolon. -/
def specialControlStructures : Rule where
  name := "special-control-structures"
  doc := "Check that return, break and continue without a value are directly followed by a semicolon."
  severity := .error
  run := (LineScan.perLine fun line => messagesWhere <| jumpKeywords.map fun kw =>
    (Line.beginsWith line kw && !line.has '(' && !line.includes (kw ++ ";"),
      kw ++ " must be directly followed by ';'")).run

/-- No line mentions `goto`. -/
def goto : Rule where
  name := "goto"
  doc := "Report goto statements.\n\n" ++
    "The check is a plain substring match, so identifiers containing \"goto\" are reported too."
  severity := .error
  run := (LineScan.perLine fun line => messagesWhere [(line.includes "goto", "Goto statement unauthorized")]).run

/-- A static variable is constant. -/
def staticVariable : Rule where
  name := "static-variable"
  doc := "Check that static variables are const.\n\n" ++
    "Static functions are accepted; a static declaration holding an initializer or no parameter list must read " ++
    "\"static const\"."
  severity := .error
  run := (LineScan.perLine fun line => messagesWhere
    [(line.trimLeft.startsWith "static " && (!line.has '(' || line.has '=') && !line.includes "static const",
      "Static variable must be const")]).run

end HouseStyle.Rule
