import HouseStyle.Command.Describe
import HouseStyle.Command.Outcome
import HouseStyle.Linter
import HouseStyle.Report
import HouseStyle.Settings.Basic
import HouseStyle.Snippet

/-!
# The checking command

Checks files, or standard input, and reports what it finds. The exit code is 0 without findings, 1 with findings and 2
if the run could not be made; then nothing is reported.
-/

namespace HouseStyle.Command

/-- The name of standard input in reports. -/
def stdinName : Text := "<stdin>"

/-! ## Snippets of findings -/

/-- The level of a finding. -/
def snippetLevel : Severity → Snippet.Level
  | .warning => .warning
  | .info => .note
  | _ => .error

/-- A finding as a snippet. One about a whole file has no span and names the file in a note; one about a line ends with
a note on how to suppress it. -/
def snippetOf (d : Diagnostic) : Snippet :=
  if d.pos.line > 0 then
    { level := snippetLevel d.severity, code := d.rule, message := d.message
      spans := [{ file := d.pos.file, line := d.pos.line, col := d.pos.col }]
      notes := d.notes ++ ["to suppress: add \"// nolint:" ++ d.rule ++ "\" as a comment on this line"] }
  else
    { level := snippetLevel d.severity, code := d.rule, message := d.message
      notes := ("in " ++ d.pos.file) :: d.notes }

/-- Reads the sources that snippets quote: standard input under its name, files from the tree. -/
def sourceReader (tree : Tree) (stdin : Option Text) : Snippet.Reader := fun name =>
  match stdin with
  | some content => if name = stdinName then some content else (tree.read name).toOption
  | none => (tree.read name).toOption

/-! ## Running -/

/-- How a run is made, besides its options. -/
structure CheckSetup where
  /-- The rules that stand beside those of the convention. -/
  extra : List Rule := []
  color : ColorMode := .auto
  /-- Whether the trace goes to a recorder, which then replaces the timings. -/
  recorded : Bool := false
  /-- How long the spans take, in the order they end. -/
  duration : Nat → Int := fun _ => 0

/-- What a checking run leaves behind. -/
structure CheckOutcome where
  code : Nat
  stdout : Text := []
  stderr : Text := []
  events : List Trace.Event := []
  /-- The timings that the run printed. -/
  timings : Option (List Timing) := none

/-- A run that could not be made. -/
def refused (message : Text) (events : List Trace.Event) : CheckOutcome :=
  { code := exitUsage, stderr := message, events }

/-- The findings of a run with the source quoted for standard input, or why there are none, and the events so far. -/
structure Examination where
  result : Except Text (List Diagnostic)
  stdin : Option Text := none
  events : List Trace.Event := []

/-- Checks standard input. -/
def examineInput (rules : List Rule) (input : Input) : Examination :=
  match input.readAll with
  | .error message => { result := .error ("reading stdin: " ++ message ++ "\n") }
  | .ok content =>
    { result := .ok (lintFile rules stdinName content), stdin := some content, events := Trace.ofFile rules stdinName }

/-- The paths in front of the first one that cannot be read. -/
def readablePaths (tree : Tree) (paths : List Text) : List Text :=
  paths.takeWhile fun p => (tree.read p).toOption.isSome

/-- Checks the files that the arguments name. -/
def examineFiles (rules : List Rule) (o : CheckOptions) (args : List Text) (tree : Tree) : Examination :=
  match Path.expand tree args o.excludes o.exts with
  | .error e => { result := .error (e.message ++ "\n") }
  | .ok paths =>
    let events := (readablePaths tree paths).flatMap (Trace.ofFile rules)
    match lintFiles rules tree.read paths with
    | .error (path, fault) => { result := .error (path ++ ": " ++ fault.readMessage path ++ "\n"), events }
    | .ok ds => { result := .ok ds, events }

/-- The report of the findings: what goes to standard output and what to standard error. -/
def report (format : ReportFormat) (colored : Bool) (reader : Snippet.Reader) (ds : List Diagnostic) : Text × Text :=
  match format with
  | .text => (Report.text ds, [])
  | .json => (Report.json ds, [])
  | .yaml => (Report.yaml ds, [])
  | .pretty => ([], (Snippet.renderAll colored reader {} (ds.map snippetOf)).1)

/-- Checks the files that the arguments name, or standard input if there are none. -/
def check (setup : CheckSetup) (o : CheckOptions) (args : List Text) (input : Input) (tree : Tree) : CheckOutcome :=
  let rules := convention o.limits ++ setup.extra
  let s := Rule.select rules o.checks o.disable
  if !s.unknown.isEmpty then
    refused (s.unknown.flatMap fun name => "cstyle check: unknown check: " ++ unknownCheck rules name ++ "\n") []
  else
    let e := if args.isEmpty then examineInput s.selected input else examineFiles s.selected o args tree
    match e.result with
    | .error message => refused message e.events
    | .ok ds =>
      let timings :=
        if setup.recorded || o.trace.isNone then none else some (Trace.timings setup.duration e.events)
      let (stdout, stderr) := report o.format setup.color.isColored (sourceReader tree e.stdin) ds
      { code := if ds.isEmpty then 0 else exitFindings
        stdout
        stderr := timings.elim [] Timing.report ++ stderr
        events := e.events
        timings }

end HouseStyle.Command
