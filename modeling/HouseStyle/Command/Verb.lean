import HouseStyle.Command.Flag
import HouseStyle.Command.Manual
import HouseStyle.Settings.Basic

/-!
# The commands

The program is a tree of commands. Each has a name, flags of its own beside those that all share, and a text that
explains it; the usage of a command is put together from these.
-/

namespace HouseStyle.Command

/-- The shells that completion scripts are written for. -/
inductive Shell where
  | bash
  | fish
  | powershell
  | zsh
  deriving DecidableEq

/-- The commands, the program itself among them. -/
inductive Verb where
  | program
  | check
  | completion
  | script (shell : Shell)
  | format
  | help
  | serve
  | describe
  | version
  deriving DecidableEq

/-- The name of a shell. -/
def Shell.name : Shell → Text
  | .bash => "bash"
  | .fish => "fish"
  | .powershell => "powershell"
  | .zsh => "zsh"

namespace Verb

/-- The name of a command. -/
def name : Verb → Text
  | .program => "cstyle"
  | .check => "check"
  | .completion => "completion"
  | .script shell => shell.name
  | .format => "fmt"
  | .help => "help"
  | .serve => "lsp"
  | .describe => "rules"
  | .version => "version"

/-- Other names of a command. -/
def aliases : Verb → List Text
  | .check => ["lint"]
  | _ => []

/-- The commands below a command, in the order in which they are suggested. -/
def children : Verb → List Verb
  | .program => [.check, .format, .serve, .describe, .version, .help, .completion]
  | .completion => [.script .bash, .script .zsh, .script .fish, .script .powershell]
  | _ => []

/-- The names that lead to a command. -/
def path : Verb → Text
  | .program => name .program
  | .script shell => "cstyle completion " ++ shell.name
  | v => "cstyle " ++ v.name

/-- Whether a command does something; another one only has commands below it. -/
def isRunnable : Verb → Bool
  | .program | .completion => false
  | _ => true

/-- Whether a command takes arguments. -/
def takesArguments : Verb → Bool
  | .serve | .version | .completion | .script _ => false
  | _ => true

/-- One line about a command. -/
def summary : Verb → Text
  | .program => "cstyle checks C sources against a fixed coding style"
  | .check => "Check C sources against the coding style"
  | .completion => "Generate the autocompletion script for the specified shell"
  | .script shell => "Generate the autocompletion script for " ++ shell.name
  | .format => "Fix whitespace in C source files"
  | .help => "Help about any command"
  | .serve => "Start the cstyle Language Server Protocol server"
  | .describe => "Describe the style checks"
  | .version => "Print the cstyle version"

/-- What a command does, at length. -/
def manual : Verb → Text
  | .program => Manual.textOf Manual.programLines
  | .check => Manual.check
  | .completion => Manual.textOf Manual.completionLines
  | .script .bash => Manual.textOf Manual.bashLines
  | .script .fish => Manual.textOf Manual.fishLines
  | .script .powershell => Manual.textOf Manual.powershellLines
  | .script .zsh => Manual.textOf Manual.zshLines
  | .format => Manual.textOf Manual.formatLines
  | .help => Manual.textOf Manual.helpLines
  | .serve => Manual.textOf Manual.serveLines
  | .describe => Manual.textOf Manual.describeLines
  | .version => summary .version

/-- How a command is called, in its own words. -/
def synopsis : Verb → Text
  | .check => path .check ++ " [flags] [paths...]"
  | .format => path .format ++ " [flags] [paths...]"
  | .help => path .help ++ " [command] [flags]"
  | .describe => path .describe ++ " [flags] [names...]"
  | .script .bash => path (.script .bash)
  | v => v.path ++ " [flags]"

/-! ## Flags -/

/-- The flag that sets the extensions of the files collected from directories. -/
def extensionsFlag : Flag :=
  { name := "extensions", kind := .words, usage := "File extensions collected from directories."
    default := some (.words Path.defaultExtensions) }

/-- The flags of the checking command; all but the first are settings. -/
def checkFlags : List Flag :=
  let limits : Limits := {}
  [{ name := "list", kind := .switch, usage := "List available checks and exit." },
   { name := "format", kind := .word, usage := "Output format: \"text\", \"json\", \"yaml\" or \"pretty\"."
     default := some (.word (ReportFormat.name .text)) },
   { name := "checks", kind := .words, usage := "Comma-separated list of checks to run (default: all)." },
   { name := "disable", kind := .words, usage := "Comma-separated list of checks to skip." },
   { name := "exclude", kind := .repeated
     usage := "Glob pattern for files or directories to exclude (may be repeated)." },
   extensionsFlag,
   { name := "jobs", kind := .number, usage := "Number of files checked concurrently (default: GOMAXPROCS)." },
   { name := "trace", kind := .word
     usage := "Trace the run and print per-check timings to stderr: \"otel\" or \"opencensus\"." },
   { name := "indent-width", kind := .number, usage := "Spaces per block level."
     default := some (.number limits.indentWidth) },
   { name := "max-line-length", kind := .number, usage := "Lines must be shorter than this many bytes."
     default := some (.number limits.maxLineLength) },
   { name := "max-function-lines", kind := .number, usage := "Maximum code lines in a function body."
     default := some (.number limits.maxFunctionLines) },
   { name := "max-function-args", kind := .number, usage := "Maximum function parameters."
     default := some (.number limits.maxFunctionArgs) }]

/-- The flags of the formatting command. -/
def formatFlags : List Flag :=
  let limits : Limits := {}
  [{ name := "write", letter := some 'w', kind := .switch
     usage := "Write result to (source) file instead of stdout." },
   { name := "diff", letter := some 'd', kind := .switch, usage := "Display diffs instead of rewriting files." },
   { name := "list", letter := some 'l', kind := .switch
     usage := "List files whose whitespace differs from cstyle fmt's." },
   { name := "tab-width", kind := .number, usage := "Number of columns between tab stops."
     default := some (.number limits.indentWidth) },
   { name := "exclude", kind := .repeated, usage := "Glob pattern for files to exclude (may be repeated)." },
   extensionsFlag]

/-- The flags of the describing command. -/
def describeFlags : List Flag :=
  [{ name := "list", kind := .switch, usage := "Print check names only." },
   { name := "guide", kind := .switch, usage := "Print the style guide the checks enforce." }]

/-- The flags of the language server. -/
def serveFlags : List Flag :=
  [{ name := "stdio", kind := .switch, usage := "Use stdin/stdout for LSP communication (default behavior)" },
   { name := "port", kind := .number, usage := "TCP port for LSP server (use instead of --stdio)" },
   { name := "verbose", letter := some 'v', kind := .count, usage := "Server log verbosity (repeat for more)" },
   { name := "log-file", kind := .word, usage := "Write server logs to this file instead of stderr" }]

/-- The flags that every command has. -/
def sharedFlags : List Flag :=
  [{ name := "config", kind := .word, usage := "config file (default is ./.cstyle.yaml or $HOME/.cstyle.yaml)" },
   { name := "color", kind := .word, usage := "Control colored output: \"auto\", \"always\", or \"never\"."
     default := some (.word "auto") }]

/-- The flags of a command's own. -/
def ownFlags : Verb → List Flag
  | .check => checkFlags
  | .format => formatFlags
  | .describe => describeFlags
  | .serve => serveFlags
  | .script _ => [{ name := "no-descriptions", kind := .switch, usage := "disable completion descriptions" }]
  | _ => []

/-- The flag that asks for help. -/
def helpFlag (v : Verb) : Flag :=
  { name := "help", letter := some 'h', kind := .switch, usage := "help for " ++ v.name }

/-- All flags of a command. -/
def flags (v : Verb) : List Flag := v.helpFlag :: v.ownFlags ++ sharedFlags

/-! ## Usage -/

/-- The least width of the column of names in a list of commands. -/
def nameWidth : Nat := 11

/-- A text padded with spaces. -/
def padded (width : Nat) (t : Text) : Text := t ++ Text.spaces (width - t.length)

/-- A part of a usage text: a heading and the rows below it, if there are any. -/
def part (heading : Text) (rows : List Text) : Text :=
  if rows.isEmpty then [] else Text.join "\n" ((Text.ofString "\n" ++ heading) :: rows) ++ "\n"

/-- The usage of a command; `helped` says whether it shows the flag that asks for help. -/
def usage (v : Verb) (helped : Bool) : Text :=
  let own := (if helped then [v.helpFlag] else []) ++ v.ownFlags
  let (near, far) := if v = .program then (own ++ sharedFlags, []) else (own, sharedFlags)
  let calls := (if v.isRunnable then [v.synopsis] else []) ++
    (if v.children.isEmpty then [] else [v.path ++ " [command]"])
  let names := if v.aliases.isEmpty then [] else [Text.ofString "  " ++ Text.join ", " (v.name :: v.aliases)]
  let below := (v.children.mergeSort fun a b => !Text.less b.name a.name).map fun c =>
    Text.ofString "  " ++ padded nameWidth c.name ++ " " ++ c.summary
  let more : Text := if v.children.isEmpty then []
    else "\nUse \"" ++ v.path ++ " [command] --help\" for more information about a command.\n"
  "Usage:\n" ++ Text.unlines (calls.map (Text.ofString "  " ++ ·)) ++ part "Aliases:" names ++
    part "Available Commands:" below ++ part "Flags:" (Flag.table near) ++
    part "Global Flags:" (Flag.table far) ++ more

/-- The help for a command. -/
def helpText (v : Verb) : Text := v.manual ++ "\n\n" ++ v.usage true

end Verb

end HouseStyle.Command
