import HouseStyle.Path.Pattern
import HouseStyle.Tree

/-!
# The files that arguments name

An argument of a command is a file, a directory, or a directory before `/...`. Directories are walked for files with one
of the wanted extensions; excluded paths are dropped, and so are repetitions.
-/

namespace HouseStyle.Path

/-- The extensions looked for when nothing else is asked. -/
def defaultExtensions : List Text := [".c", ".h"]

/-- Why a directory cannot be walked: the root is not there, or a directory on the way cannot be listed. -/
inductive WalkFault where
  | root (dir : Text) (fault : Tree.Fault)
  | barrier (dir : Text)
  deriving DecidableEq

/-- What is said about a walk that fails. -/
def WalkFault.message : WalkFault → Text
  | .root dir fault => fault.message "lstat" dir
  | .barrier dir => Tree.Fault.message "open" dir .denied

/-- An argument whose directory cannot be walked. -/
structure ExpandError where
  arg : Text
  fault : WalkFault
  deriving DecidableEq

/-- What is said about an argument whose directory cannot be walked. -/
def ExpandError.message (e : ExpandError) : Text := "expanding " ++ e.arg ++ ": " ++ e.fault.message

/-- The directory that an argument asks to walk, if it asks so. -/
def walkRoot? (tree : Tree) (arg : Text) : Option Text :=
  match arg.beforeSuffix? "/..." with
  | some dir => some (if dir.isEmpty then "." else dir)
  | none => if tree.isDir arg then some arg else none

/-- The files found in a directory: those with one of the extensions, outside excluded directories. -/
def sourceFiles (tree : Tree) (dir : Text) (excludes exts : List Text) : Except WalkFault (List Text) :=
  match tree.find dir with
  | .error fault => .error (.root dir fault)
  | .ok n =>
    match n.barrier? (matchesAny · excludes) dir with
    | some barrier => .error (.barrier barrier)
    | none => .ok (n.walk (matchesAny · excludes) (hasExtension · exts) dir)

/-- The paths that one argument stands for, excluded ones included. -/
def candidates (tree : Tree) (excludes exts : List Text) (arg : Text) : Except ExpandError (List Text) :=
  match walkRoot? tree arg with
  | none => .ok [arg]
  | some dir =>
    match sourceFiles tree dir excludes exts with
    | .ok paths => .ok paths
    | .error fault => .error ⟨arg, fault⟩

/-- The texts of a list that are not in `seen` and stand at their first place. -/
def firsts (seen : List Text) : List Text → List Text
  | [] => []
  | t :: rest => if seen.contains t then firsts seen rest else t :: firsts (t :: seen) rest

/-- The files that a list of arguments names. -/
def expand (tree : Tree) (args excludes exts : List Text) : Except ExpandError (List Text) := do
  let found ← args.mapM (candidates tree excludes exts)
  return firsts [] (found.flatten.filter (!matchesAny · excludes))

end HouseStyle.Path
