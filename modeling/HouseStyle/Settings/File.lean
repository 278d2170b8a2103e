import HouseStyle.Settings.Json
import HouseStyle.Settings.Toml
import HouseStyle.Settings.Yaml
import HouseStyle.Text.Quoted
import HouseStyle.Tree

/-!
# Configuration files

A configuration file is named on the command line, or it is the first file of the default name that is found in the
working directory or in the home directory. Its extension tells its format.
-/

namespace HouseStyle.Settings

/-- Why a configuration file cannot be used. -/
inductive FileError where
  | unsupported (extension : Text)
  | unreadable (path : Text) (fault : Tree.Fault)
  | malformed

/-- What is said about a configuration file that cannot be used. -/
def FileError.message : FileError → Text
  | .unsupported extension => "reading config: Unsupported Config Type " ++ extension.quoted
  | .unreadable path fault => "reading config: " ++ fault.readMessage path
  | .malformed => "reading config: While parsing config"

/-- The extensions of configuration files, in the order they are looked for. -/
def fileExtensions : List Text :=
  ["json", "toml", "yaml", "yml", "properties", "props", "prop", "hcl", "tfvars", "dotenv", "env", "ini"]

/-- A line that assigns a text to a name, for formats that are lists of such lines. -/
def readAssignment? (line : Text) : Option (Text × Value) :=
  let trimmed := line.trim
  if trimmed.isEmpty || trimmed.startsWith "#" || trimmed.startsWith "!" then none
  else
    let (name, rest) := trimmed.span fun b => b != Text.byte '=' && b != Text.byte ':'
    some (Text.trim name, .text (Text.trim (rest.drop 1)))

/-- The members of a configuration file with this extension. The sections of a file in the `ini` format hold no
settings of their own. -/
def fileMembers? (extension content : Text) : Option (List (Text × Value)) :=
  let oneOf (names : List Text) : Bool := names.contains extension
  if oneOf ["json"] then Value.readJson? content
  else if oneOf ["yaml", "yml"] then Value.Yaml.members? content
  else if oneOf ["toml", "hcl", "tfvars"] then Value.Toml.members? content
  else if oneOf ["ini"] then some []
  else some ((content.pieces '\n').filterMap readAssignment?)

/-- Reads the configuration file at a path. Names are in lower case from here on. -/
def readFile (tree : Tree) (path : Text) : Except FileError (List (Text × Value)) :=
  let extension := (Path.ext path).drop 1
  if !fileExtensions.contains extension then .error (.unsupported extension)
  else
    match tree.read path with
    | .error fault => .error (.unreadable path fault)
    | .ok content =>
      match fileMembers? extension content with
      | some members => .ok (members.map fun (name, v) => (name.lowerAscii, v))
      | none => .error .malformed

/-- The base name of configuration files. -/
def fileName : Text := ".cstyle"

/-- The configuration file that is used if none is named. -/
def defaultFile? (tree : Tree) (home : Text) : Option Text :=
  let candidates := [Text.ofString ".", home].flatMap fun dir =>
    fileExtensions.map fun extension => Path.below dir (fileName ++ "." ++ extension)
  candidates.find? fun path => (tree.read path).toOption.isSome

/-- The members of the configuration file: of the named one, or of the default one if no name is given. -/
def loadFile (tree : Tree) (home named : Text) : Except FileError (List (Text × Value)) :=
  if named.isEmpty then
    match defaultFile? tree home with
    | some path => readFile tree path
    | none => .ok []
  else readFile tree named

end HouseStyle.Settings
