import HouseStyle.Command.Check
import HouseStyle.Command.Format
import HouseStyle.Command.Verb
import HouseStyle.Guide
import HouseStyle.Server.Exchange
import HouseStyle.Settings.File

/-!
# The command line

Finds the command that the arguments name, reads its flags and runs it. A command line that makes no sense ends with a
usage text and the exit code of a bad invocation.
-/

namespace HouseStyle.Command

/-- All that a run of the program can see, but for its standard input. -/
structure Invocation where
  args : List Text
  environment : List (Text × Text) := []
  /-- The home directory, where a configuration file may be. -/
  home : Text
  tree : Tree
  version : Text

/-- What a run comes to: an outcome, one that hangs on standard input, or a language server that is to talk to its
client. -/
inductive Action where
  | finish (outcome : Outcome)
  | read (outcome : Input → Outcome)
  | serve (session : Server.Session) (tree : Tree)

/-! ## Finding the command -/

/-- Whether an argument is a flag that takes the next argument as its value, as far as one can tell from these flags. -/
def takesNext (known : List Flag) (arg : Text) : Bool :=
  let alone (f? : Option Flag) : Bool := (f?.bind (·.kind.alone?)).isSome
  !arg.has '=' &&
    ((arg.startsWith "--" && !alone (Flag.named? known (arg.drop 2))) ||
      match arg with
      | [h, letter] => h = Text.byte '-' && !alone (Flag.lettered? known letter)
      | _ => false)

/-- The arguments that are no flags and no values of flags. A flag that takes a value ends the search unless two more
arguments follow. -/
def plainWords (known : List Flag) : List Text → List Text
  | [] => []
  | arg :: rest =>
    if arg == Text.ofString "--" then []
    else if takesNext known arg then
      match rest with
      | _ :: next :: more => plainWords known (next :: more)
      | _ => []
    else if arg.isEmpty || arg.startsWith "-" then plainWords known rest
    else arg :: plainWords known rest

/-- The arguments without the first that is this word, and no value of a flag. -/
def withoutWord (known : List Flag) (word : Text) : List Text → List Text
  | [] => []
  | arg :: rest =>
    if arg == Text.ofString "--" then arg :: rest
    else if takesNext known arg then
      match rest with
      | value :: more => arg :: value :: withoutWord known word more
      | [] => [arg]
    else if arg == word then rest
    else arg :: withoutWord known word rest

/-- The flags by which arguments of a command are told apart when commands below it are looked for. -/
def Verb.searchFlags (v : Verb) : List Flag := v.ownFlags ++ Verb.sharedFlags

/-- The command below `v` that the first plain word names, with the other arguments; or `v` with all of them. -/
def descend : Verb × List Text → Verb × List Text
  | (v, args) =>
    match plainWords v.searchFlags args with
    | [] => (v, args)
    | word :: _ =>
      match v.children.find? fun c => c.name == word || c.aliases.contains word with
      | some c => (c, withoutWord v.searchFlags word args)
      | none => (v, args)

/-- The command that arguments name and the arguments left for it, or the word that names none. No command is more than
two below the program. -/
def resolve (args : List Text) : Except Text (Verb × List Text) :=
  let (v, args) := descend (descend (.program, args))
  if v = .program then
    match plainWords v.searchFlags args with
    | word :: _ => .error word
    | [] => .ok (v, args)
  else .ok (v, args)

/-! ## Suggestions -/

/-- The next row of the table of edit distances: `above` is the row for the text so far, `left` the entry on the
left. -/
def distanceRow (b : UInt8) : (left : Nat) → (above : List Nat) → Text → List Nat
  | left, diagonal :: up :: above, c :: word =>
    let entry := min (min (left + 1) (up + 1)) (diagonal + if b = c then 0 else 1)
    entry :: distanceRow b entry (up :: above) word
  | _, _, _ => []

/-- How many bytes must be put in, taken out or changed to turn one text into the other. -/
def distance (t word : Text) : Nat :=
  let grow := fun (n, row) b => (n + 1, (n + 1) :: distanceRow b (n + 1) row word)
  let rows := t.foldl grow (0, List.range (word.length + 1))
  rows.2.getLast?.getD 0

/-- The distance up to which a name is suggested. -/
def suggestionDistance : Nat := 2

/-- The commands that a mistyped word may mean: those with a name that is near it or begins with it. -/
def suggestions (word : Text) : List Verb :=
  let word := word.lowerAscii
  (Verb.children .program).filter fun v =>
    v != .help && (distance word v.name ≤ suggestionDistance || v.name.startsWith word)

/-- What is said about a word that names no command. -/
def unknownCommand (word : Text) : Text :=
  let near := suggestions word
  let hint : Text := if near.isEmpty then []
    else "\n\nDid you mean this?\n" ++ Text.unlines (near.map (Text.byte '\t' :: ·.name))
  "unknown command " ++ word.quoted ++ " for " ++ (Verb.path .program).quoted ++ hint

/-! ## Running a command -/

/-- The settings that flags of the checking command give. A list goes through a record, so a list of one empty text is
an empty list. -/
def givenSettings (p : Parsed) : List (Text × Value) :=
  p.values.filterMap fun (name, v) =>
    match v with
    | .number n => some (name, .int n)
    | .word t => some (name, .text t)
    | .words ts => some (name, .list (((Csv.read (Csv.write ts)).toOption.getD []).map .text))
    | .switch _ => none

/-- Prints a text. -/
def print (inv : Invocation) (t : Text) : Outcome := { stdout := t, tree := inv.tree }

/-- Ends as a bad invocation. -/
def refuse (inv : Invocation) (message : Text) : Outcome := { code := exitUsage, stderr := message, tree := inv.tree }

/-- Ends as a bad invocation with the usage of the command. -/
def refuseUsage (inv : Invocation) (v : Verb) (message : Text) : Outcome :=
  refuse inv ("Error: " ++ message ++ "\n" ++ v.usage true ++ "\n" ++ message ++ "\n")

/-- Runs a command that reads standard input if it has no arguments. -/
def overInput (p : Parsed) (outcome : Input → Outcome) : Action :=
  if p.args.isEmpty then .read outcome else .finish (outcome {})

/-- Runs the checking command. -/
def runCheck (inv : Invocation) (settings : Settings) (p : Parsed) : Action :=
  if p.isOn "list" then .finish (print inv (Text.unlines (Rule.sortedNames (convention {}))))
  else
    match settings.checkOptions with
    | .error e => .finish (refuse inv (e.message ++ "\n"))
    | .ok o =>
      let color := ColorMode.ofName ((p.word? "color").getD "auto")
      overInput p fun input =>
        let out := check { color } o p.args input inv.tree
        { code := out.code, stdout := out.stdout, stderr := out.stderr, tree := inv.tree }

/-- Runs the formatting command. -/
def runFormat (inv : Invocation) (p : Parsed) : Action :=
  let plain : FormatOptions := {}
  let o : FormatOptions :=
    { write := p.isOn "write", diff := p.isOn "diff", list := p.isOn "list"
      tabWidth := (p.number? "tab-width").getD plain.tabWidth
      excludes := (p.words? "exclude").getD plain.excludes
      exts := (p.words? "extensions").getD plain.exts }
  overInput p fun input => format o p.args input inv.tree

/-- Runs the describing command. -/
def runDescribe (inv : Invocation) (p : Parsed) : Outcome :=
  if p.isOn "guide" then print inv guide
  else
    match describe (convention {}) p.args (p.isOn "list") with
    | .ok t => print inv t
    | .error message => refuse inv (message ++ "\n")

/-- The tree with a log file; one that is already there is kept. -/
def withLog (tree : Tree) (path : Text) : Tree :=
  if (tree.find path).toOption.isSome then tree else ((tree.create path [] {}).toOption).getD tree

/-- Starts the language server. -/
def runServe (inv : Invocation) (settings : Settings) (p : Parsed) : Action :=
  let tree := withLog inv.tree ((p.word? "log-file").getD [])
  match settings.limits with
  | .error e => .finish { refuse inv (e.message ++ "\n") with tree }
  | .ok limits => .serve (Server.Session.new (convention limits) limits) tree

/-- A text between back quotes, or between double quotes if it cannot be read back from those. -/
def backQuoted (t : Text) : Text :=
  let plain (g : Glyph) : Bool :=
    !g.isStray && g.code != 0x60 && g.code != 0x7F && g.code != 0xFEFF && (g.code ≥ 0x20 || g.code == 0x09)
  if t.glyphs.all plain then "`" ++ t ++ "`" else t.quoted

/-- Prints the help for the command that words name. -/
def runHelp (inv : Invocation) (topic : List Text) : Outcome :=
  match resolve topic with
  | .ok (v, _) => print inv v.helpText
  | .error _ =>
    { stderr := "Unknown help topic [" ++ Text.join " " (topic.map backQuoted) ++ "]\n" ++ Verb.usage .program false
      tree := inv.tree }

/-- Runs a command with its flags read. -/
def runVerb (inv : Invocation) (file : List (Text × Value)) (p : Parsed) : Verb → Action
  | .check => runCheck inv { given := givenSettings p, environment := inv.environment, file } p
  | .format => runFormat inv p
  | .describe => .finish (runDescribe inv p)
  | .serve => runServe inv { environment := inv.environment, file } p
  | .version => .finish (print inv ("cstyle " ++ inv.version ++ "\n"))
  | .help => .finish (runHelp inv p.args)
  | v => .finish (print inv v.helpText)

/-- Begins a run: all that needs no standard input is done at once. A request for help wins over everything that
could be wrong with the configuration or the arguments, but not over flags that cannot be read. -/
def act (inv : Invocation) : Action :=
  match resolve inv.args with
  | .error word =>
    let message := unknownCommand word
    .finish (refuse inv ("Error: " ++ message ++ "\nRun 'cstyle --help' for usage.\n" ++ message ++ "\n"))
  | .ok (v, args) =>
    match readFlags v.flags {} args with
    | .error e => .finish (refuseUsage inv v e.message)
    | .ok p =>
      if p.isOn "help" || !v.isRunnable then .finish (print inv v.helpText)
      else
        match Settings.loadFile inv.tree inv.home ((p.word? "config").getD []) with
        | .error e => .finish (refuse inv (e.message ++ "\n"))
        | .ok file =>
          match v.takesArguments, p.args with
          | false, word :: _ =>
            .finish (refuseUsage inv v ("unknown command " ++ word.quoted ++ " for " ++ v.path.quoted))
          | _, _ => runVerb inv file p v

/-- Runs the program on a standard input that is known from the start. -/
def run (inv : Invocation) (input : Input) : Outcome :=
  match act inv with
  | .finish outcome => outcome
  | .read outcome => outcome input
  | .serve session tree => { stdout := Server.Exchange.converse session input.text, tree }

end HouseStyle.Command
