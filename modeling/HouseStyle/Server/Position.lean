import HouseStyle.Text.Glyph

/-!
# Places in documents

Editors count lines from 0 and columns in UTF-16 units, and they name files by URIs.
-/

namespace HouseStyle.Server

/-- A place in a document: a line and a number of UTF-16 units before it. -/
structure Point where
  line : Nat := 0
  character : Nat := 0
  deriving DecidableEq

/-- A stretch of a document. -/
structure Range where
  start : Point := {}
  stop : Point := {}
  deriving DecidableEq

/-- The largest number that a message can hold. -/
def maxNumber : Nat := 4294967295

/-- The number, or the nearest one that a message can hold. -/
def clamp (n : Int) : Nat := min n.toNat maxNumber

/-- The number of UTF-16 units of a text; a stray byte counts as the replacement character. -/
def units16 (t : Text) : Nat := t.codes.foldl (fun n c => n + if c < 0x10000 then 1 else 2) 0

/-- The stretch of the line with this number, counted from 1. Line 0 stands for the whole file and gives the start of
the document; a line past the end gives an empty stretch after the last line. -/
def lineRange (lines : List Text) (line : Int) : Range :=
  if line ≤ 0 then {}
  else
    match lines[(line - 1).toNat]? with
    | some text => ⟨⟨clamp (line - 1), 0⟩, ⟨clamp (line - 1), clamp (units16 text)⟩⟩
    | none => ⟨⟨clamp lines.length, 0⟩, ⟨clamp lines.length, 0⟩⟩

/-- The path that a URI names; what is no file URI names itself. -/
def pathOfUri (uri : Text) : Text := uri.trimPrefix "file://"

/-- The URI of a path; a relative path stands for itself. -/
def uriOfPath (path : Text) : Text := if path.startsWith "/" then "file://" ++ path else path

end HouseStyle.Server
