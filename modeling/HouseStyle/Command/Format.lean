import HouseStyle.Command.Outcome
import HouseStyle.Patch
import HouseStyle.Path.Expand
import HouseStyle.Whitespace

/-!
# The formatting command

Fixes white space in files. The fixed text goes to standard output, unless the options ask for the names of the files
that would change, for a patch, or for the files to be written back; of these three the first asked for wins, in this
order.
-/

namespace HouseStyle.Command

/-- The settings of a formatting run. -/
structure FormatOptions where
  write : Bool := false
  diff : Bool := false
  list : Bool := false
  tabWidth : Int := 4
  excludes : List Text := []
  exts : List Text := Path.defaultExtensions

/-- Writes the fixed content of a file back. -/
def writeBack (done : Outcome) (path fixed : Text) : Outcome :=
  match done.tree.find path with
  | .error fault => done.fail (path ++ ": " ++ fault.message "stat" path)
  | .ok n =>
    match done.tree.write path fixed n.access with
    | .error fault => done.fail (fault.message "open" path)
    | .ok tree => { done with tree }

/-- Prints a fixed text. Unlike names and patches, a fixed text that cannot be written makes the run fail. -/
def printFixed (output : Output) (done : Outcome) (fixed : Text) : Outcome :=
  if output.refuses done.stdout fixed then (done.print output fixed).fail output.message
  else done.print output fixed

/-- Formats the file at a path on top of what the run has done so far. -/
def formatFile (o : FormatOptions) (output : Output) (done : Outcome) (path : Text) : Outcome :=
  match done.tree.read path with
  | .error fault => done.fail (path ++ ": " ++ fault.readMessage path)
  | .ok content =>
    let fixed := Whitespace.fix content o.tabWidth
    if o.list then
      if content = fixed then done else { done.print output (path ++ "\n") with code := 1 }
    else if o.diff then
      if content = fixed then done else done.print output (Patch.render path content fixed)
    else if o.write then
      if content = fixed then done else writeBack done path fixed
    else printFixed output done fixed

/-- Formats the files that the arguments name, or standard input if there are none. -/
def format (o : FormatOptions) (args : List Text) (input : Input) (tree : Tree) (output : Output := {}) : Outcome :=
  if args.isEmpty then
    match input.readAll with
    | .error message => Outcome.fail { tree } ("reading stdin: " ++ message)
    | .ok content => printFixed output { tree } (Whitespace.fix content o.tabWidth)
  else
    match Path.expand tree args o.excludes o.exts with
    | .error e => Outcome.fail { tree } e.message
    | .ok paths => paths.foldl (formatFile o output) { tree }

end HouseStyle.Command
