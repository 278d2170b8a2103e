import HouseStyle.Text.Basic

/-!
# The style guide

The convention in prose, as it is handed out to the authors of C files.
-/

namespace HouseStyle

/-- The lines of the style guide. -/
def guideLines : List String := [
  "# C coding style",
  "",
  "This is the convention `cstyle check` enforces. Each section names the",
  "checks that cover it; `cstyle rules <name>` describes a single check.",
  "",
  "## Layout",
  "",
  "- Indent with spaces, never tabs (`space-indentation`). Each block level",
  "  adds `indent-width` spaces, 4 by default (`indentation-level`).",
  "- Lines are shorter than `max-line-length` bytes, 80 by default",
  "  (`line-size`), and never end in whitespace (`trailing-whitespace`).",
  "- Braces sit alone on their own line (`own-line-brace`). A closing brace",
  "  may carry `;` or a typedef alias, and a macro body may open with `\x7b \\`.",
  "",
  "```c",
  "int count(int n)",
  "\x7b",
  "    while (n > 0)",
  "    \x7b",
  "        n = n - 1;",
  "    \x7d",
  "    return (n);",
  "\x7d",
  "```",
  "",
  "- A control keyword without braces governs exactly the next line, which",
  "  is indented one level deeper.",
  "- `case` and `default` labels are indented one level inside their switch,",
  "  and their statements one level further.",
  "",
  "## Statements",
  "",
  "- One statement per line: a single `;`, or two inside a `for` header. The",
  "  `;` ends the line and is not preceded by whitespace (`semicolon`).",
  "- A comma is followed by exactly one space and never preceded by",
  "  whitespace (`comma`).",
  "- `if`, `while`, `for`, `switch`, `return` and `sizeof` are separated",
  "  from their parenthesis by one space (`control-structures`); a bare",
  "  `return`, `break` or `continue` is directly followed by `;`",
  "  (`special-control-structures`).",
  "- `goto` is not used (`goto`).",
  "- Every switch has a `default` label (`switch-default-case`), case labels",
  "  are enum constants (`switch-enum`) and every case ends with `break` or",
  "  `return` (`switch-end`).",
  "",
  "## Functions",
  "",
  "- A function body holds at most `max-function-lines` code lines, 25 by",
  "  default (`function-max-lines`), and takes at most `max-function-args`",
  "  parameters, 4 by default (`function-max-arguments`).",
  "",
  "## Names and declarations",
  "",
  "- A typedef alias is prefixed with `t_`, `f_`, `s_`, `e_` or `u_` matching",
  "  its kind, and anonymous typedefs are not used (`typedef`).",
  "- A global is prefixed with `g_` and a file declares at most one",
  "  (`global`). A static variable is `const` (`static-variable`).",
  "- Enum constants are upper case, one per line (`enum`). Struct fields are",
  "  aligned on one column (`structure-fields`).",
  "",
  "## Comments",
  "",
  "```c",
  "/*",
  "** A block comment opens and closes on its own lines and every line in",
  "** between starts with \"**\".",
  "*/",
  "```",
  "",
  "Block comments are not nested (`multi-lines-comment`).",
  "",
  "## Preprocessor",
  "",
  "- Directives start in the first column (`preprocessor-first-column`).",
  "- `#else` and `#endif` carry a comment naming their condition",
  "  (`preprocessor-comment`).",
  "- Continuation backslashes are aligned on one column",
  "  (`multi-lines-preprocessor`).",
  "- A header opens with a guard derived from its file name: `point.h` starts",
  "  with `#ifndef POINT_H_` and `#define POINT_H_` (`header-guard`).",
  "",
  "## Suppressing a finding",
  "",
  "Add a comment on the offending line:",
  "",
  "```c",
  "goto fail; // nolint:goto",
  "x = y; /* nolint */",
  "```",
  "",
  "`nolint` alone silences every check on the line; `nolint:a,b` silences",
  "the named checks."]

/-- The style guide. -/
def guide : Text := Text.unlines (guideLines.map Text.ofString)

end HouseStyle
