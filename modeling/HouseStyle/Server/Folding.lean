import HouseStyle.Source.Line

/-!
# Folding

The stretches of a file that an editor can fold: blocks between braces, block comments, and runs of line comments.
-/

namespace HouseStyle.Server

/-- What a fold hides. -/
inductive FoldKind where
  | region
  | comment
  deriving DecidableEq

/-- A stretch of lines, counted from 0, that can be folded. -/
structure Fold where
  start : Nat
  stop : Nat
  kind : FoldKind
  deriving DecidableEq

namespace Fold

/-! ## Blocks -/

/-- The line that a block folds from, when its opening brace is on line `i` after the line `before`: the header above
the brace, unless that line is blank. -/
def blockStart (i : Nat) (before : Option Text) : Nat := if before.any (!·.isBlank) then i - 1 else i

/-- The folds of blocks from line `i` on; `opened` holds where the open blocks fold from, innermost first. -/
def bracesFrom (i : Nat) (before : Option Text) (opened : List Nat) : List Text → List Fold
  | [] => []
  | line :: rest =>
    if Line.isOpeningBrace line then bracesFrom (i + 1) (some line) (blockStart i before :: opened) rest
    else if Line.isClosingBrace line then
      match opened with
      | [] => bracesFrom (i + 1) (some line) [] rest
      | start :: outer => ⟨start, i, .region⟩ :: bracesFrom (i + 1) (some line) outer rest
    else bracesFrom (i + 1) (some line) opened rest

/-- The folds of the blocks of a file, in the order of their closing braces. -/
def braces (lines : List Text) : List Fold := bracesFrom 0 none [] lines

/-! ## Comments -/

/-- Where a scan for comments stands: outside, inside a block comment, or in a run of line comments. -/
inductive CommentState where
  | outside
  | block (start : Nat)
  | run (start : Nat)

/-- The fold of a run of line comments that ends before line `i`, if it has two lines at least. -/
def endRun (i : Nat) : CommentState → List Fold
  | .run start => if start + 1 < i then [⟨start, i - 1, .comment⟩] else []
  | _ => []

/-- The folds of comments from line `i` on. -/
def commentsFrom (i : Nat) (state : CommentState) : List Text → List Fold
  | [] => endRun i state
  | line :: rest =>
    let trimmed := line.trim
    match state with
    | .block start =>
      if trimmed.includes "*/" then ⟨start, i, .comment⟩ :: commentsFrom (i + 1) .outside rest
      else commentsFrom (i + 1) state rest
    | _ =>
      if trimmed.startsWith "//" then
        match state with
        | .run _ => commentsFrom (i + 1) state rest
        | _ => commentsFrom (i + 1) (.run i) rest
      else
        let opens := trimmed.startsWith "/*" && !(Text.includes (trimmed.drop 2) "*/")
        endRun i state ++ commentsFrom (i + 1) (if opens then .block i else .outside) rest

/-- The folds of the comments of a file, in order. -/
def comments (lines : List Text) : List Fold := commentsFrom 0 .outside lines

/-- The folds of a file. -/
def all (lines : List Text) : List Fold := braces lines ++ comments lines

end Fold

end HouseStyle.Server
