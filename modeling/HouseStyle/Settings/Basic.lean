import HouseStyle.Convention
import HouseStyle.Path.Expand
import HouseStyle.Settings.Value
import HouseStyle.Trace

/-!
# Settings

Settings come from four places. What is given explicitly wins over the environment, the environment over the
configuration file, and the file over the defaults. Names of settings are in lower case everywhere; in the environment
they are in upper case after `CSTYLE_`, with underscores for hyphens.
-/

namespace HouseStyle

/-- The formats of a report. -/
inductive ReportFormat where
  | text
  | json
  | yaml
  | pretty
  deriving DecidableEq

namespace ReportFormat

/-- All formats. -/
def all : List ReportFormat := [.text, .json, .yaml, .pretty]

/-- The name of a format. -/
def name : ReportFormat → Text
  | .text => "text"
  | .json => "json"
  | .yaml => "yaml"
  | .pretty => "pretty"

/-- The format with this name. -/
def ofName? (t : Text) : Option ReportFormat := all.find? (·.name == t)

end ReportFormat

/-- The settings of a checking run. -/
structure CheckOptions where
  format : ReportFormat := .text
  checks : List Text := []
  disable : List Text := []
  excludes : List Text := []
  exts : List Text := Path.defaultExtensions
  jobs : Int := 0
  trace : Option Trace.Backend := none
  limits : Limits := {}

/-- Why settings cannot be used. -/
inductive SettingsError where
  | undecodable (problems : List Text)
  | invalidLimit (name : Text) (value : Int)
  | unknownFormat (name : Text)
  | unknownBackend (name : Text)

/-- What is said about settings that cannot be used. -/
def SettingsError.message : SettingsError → Text
  | .undecodable problems =>
    let points := (problems.map (Text.ofString "* " ++ ·)).mergeSort fun a b => !Text.less b a
    "reading config: " ++ Text.ofNat problems.length ++ " error(s) decoding:\n\n" ++ Text.join "\n" points
  | .invalidLimit name value => Limits.invalidMessage name value
  | .unknownFormat name =>
    "unknown format " ++ name.quoted ++ " (want one of " ++ Text.join ", " (ReportFormat.all.map (·.name)) ++ ")"
  | .unknownBackend name => Trace.unknownBackend name

/-- Where settings come from, but for the defaults. The members of `given` and `file` have names in lower case. -/
structure Settings where
  given : List (Text × Value) := []
  environment : List (Text × Text) := []
  file : List (Text × Value) := []

namespace Settings

/-- The settings that have a default of their own. -/
def defaults : List (Text × Value) :=
  [("indent-width", .int 4), ("max-line-length", .int 80), ("max-function-lines", .int 25),
   ("max-function-args", .int 4), ("extensions", .list (Path.defaultExtensions.map .text)), ("format", .text "text")]

/-- The member of this name, unless it is null; of several, the last. -/
def member? (members : List (Text × Value)) (name : Text) : Option Value :=
  match members.reverse.find? (·.1 == name) with
  | some (_, .null) => none
  | some (_, v) => some v
  | none => none

/-- The environment variable of a setting. -/
def variableName (name : Text) : Text :=
  ("CSTYLE_" ++ name).map fun b => if b = Text.byte '-' then Text.byte '_' else Text.upperByte b

/-- The value of a setting in the environment; an empty variable counts as unset. -/
def environment? (s : Settings) (name : Text) : Option Value :=
  match s.environment.reverse.find? (·.1 == variableName name) with
  | some (_, t) => if t.isEmpty then none else some (.text t)
  | none => none

/-- The value of a setting. -/
def get (s : Settings) (name : Text) : Value :=
  (((member? s.given name).or (s.environment? name)).or (member? s.file name)).getD
    ((member? defaults name).getD .null)

/-- The limits; all that is wrong with their values is reported together. -/
def limits (s : Settings) : Except SettingsError Limits :=
  let read (name : Text) : Except Text Int := (s.get name).toLimit name
  let problem (r : Except Text Int) : List Text := match r with
    | .error e => [e]
    | .ok _ => []
  let width := read "indent-width"
  let length := read "max-line-length"
  let lines := read "max-function-lines"
  let args := read "max-function-args"
  match width, length, lines, args with
  | .ok w, .ok l, .ok n, .ok a =>
    let limits : Limits := ⟨w, l, n, a⟩
    match limits.firstInvalid? with
    | some (name, value) => .error (.invalidLimit name value)
    | none => .ok limits
  | _, _, _, _ => .error (.undecodable (problem width ++ problem length ++ problem lines ++ problem args))

/-- The format of the report; the empty name stands for text. -/
def format (s : Settings) : Except SettingsError ReportFormat :=
  let name := (s.get "format").toText
  if name.isEmpty then .ok .text
  else
    match ReportFormat.ofName? name with
    | some f => .ok f
    | none => .error (.unknownFormat name)

/-- The backend of the trace, if one is asked for. -/
def trace (s : Settings) : Except SettingsError (Option Trace.Backend) :=
  let name := (s.get "trace").toText
  if name.isEmpty then .ok none
  else
    match Trace.Backend.ofName? name with
    | some b => .ok (some b)
    | none => .error (.unknownBackend name)

/-- The settings of a checking run. -/
def checkOptions (s : Settings) : Except SettingsError CheckOptions := do
  let limits ← s.limits
  let format ← s.format
  let exts := (s.get "extensions").toTexts
  let trace ← s.trace
  return {
    format, trace, limits
    checks := (s.get "checks").toTexts
    disable := (s.get "disable").toTexts
    excludes := (s.get "exclude").toTexts
    exts := if exts.isEmpty then Path.defaultExtensions else exts
    jobs := (s.get "jobs").toInt }

end Settings

end HouseStyle
