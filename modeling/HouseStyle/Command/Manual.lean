import HouseStyle.Convention

/-!
# Manuals of the commands

The texts that explain each command to its users.
-/

namespace HouseStyle.Command.Manual

/-- What the program is and how to start. -/
def programLines : List String := [
  "cstyle checks C source and header files against a fixed coding style:",
  "block indentation, brace placement, spacing, naming prefixes, header guards,",
  "function size and more. Each rule is an independent check that reports",
  "one line per finding.",
  "",
  "Getting started:",
  "  cstyle check main.c              Check a single file",
  "  cstyle check ./...               Check every .c and .h file below .",
  "  cstyle check --format json src   Machine-readable output",
  "  cstyle rules                     Describe every check",
  "  cstyle fmt -w main.c             Fix tabs and trailing whitespace",
  "  cstyle lsp                       Start the language server",
  "",
  "Configuration:",
  "  Limits and defaults are read from .cstyle.yaml (or .toml, .json) in the",
  "  working directory or $HOME, from CSTYLE_* environment variables",
  "  (CSTYLE_INDENT_WIDTH=2) and from command flags, in increasing order of",
  "  precedence. Keys: indent-width, max-line-length, max-function-lines,",
  "  max-function-args, checks, disable, exclude, extensions, jobs, format."]

/-- How files are checked, up to the list of the checks. -/
def checkIntroLines : List String := [
  "Check C source and header files against the coding style.",
  "",
  "Each check is an independent analyzer that scans the lines of a file and",
  "reports one diagnostic per finding:",
  "",
  "  [main.c:12]Wrong indentation level. Expected 4 whitespaces got 2.",
  "",
  "Paths may be files, directories (walked recursively for .c and .h files)",
  "or patterns ending in \"/...\". With no paths, reads from stdin.",
  "",
  "Exit codes:",
  "  0  No problems found",
  "  1  One or more problems were reported",
  "  2  Bad invocation (invalid flags, unreadable files)",
  "",
  "To suppress a specific diagnostic, add a comment on the same line:",
  "  goto fail; // nolint:goto",
  "",
  "To suppress all checks on a line:",
  "  goto fail; // nolint",
  "",
  "Available checks (use --checks or --disable to select):"]

/-- Examples of checking. -/
def checkExampleLines : List String := [
  "Examples:",
  "  cstyle check main.c                         # Check a single file",
  "  cstyle check ./...                          # Check a tree",
  "  cstyle check --format json src              # Output diagnostics as JSON",
  "  cstyle check --checks=indentation-level .   # Run only specific checks",
  "  cstyle check --disable=global,typedef .     # Skip some checks",
  "  cstyle check --exclude='vendor' ./...       # Exclude a directory",
  "  cstyle check --indent-width 2 main.c        # Two-space indentation",
  "  cat main.c | cstyle check                   # Check stdin"]

/-- How files are formatted. -/
def formatLines : List String := [
  "Fix the whitespace problems the checker reports that have exactly one",
  "correct answer: tabs are expanded to spaces (advancing to the next tab",
  "stop) and trailing whitespace is removed. Line endings are kept.",
  "",
  "Nothing else is rewritten; indentation depth, brace placement and naming",
  "must still be fixed by hand. The result is idempotent.",
  "",
  "With no paths, reads from stdin and writes to stdout.",
  "With paths, prints fixed output to stdout unless -w is given.",
  "",
  "Modes:",
  "  (default)   Print fixed code to stdout",
  "  -w          Write result back to source file",
  "  -d          Display a diff of changes",
  "  -l          List files that would be changed",
  "",
  "Examples:",
  "  cstyle fmt main.c                 Print fixed output",
  "  cstyle fmt -w main.c              Fix in place",
  "  cstyle fmt -w ./...               Fix every .c and .h file below .",
  "  cstyle fmt -d main.c              Show what would change",
  "  cstyle fmt -l src                 List files needing fixes",
  "  cat main.c | cstyle fmt           Fix from stdin",
  "  cstyle fmt --tab-width 8 main.c   Expand tabs to 8-column stops"]

/-- How rules are described. -/
def describeLines : List String := [
  "Describe the style checks. With no names every check is shown.",
  "",
  "Examples:",
  "  cstyle rules                      Describe every check",
  "  cstyle rules --list               Print check names only",
  "  cstyle rules --guide              Print the style guide",
  "  cstyle rules goto header-guard    Describe two checks"]

/-- How the language server is started. -/
def serveLines : List String := [
  "Start an LSP server for C source files.",
  "",
  "The language server publishes style diagnostics as documents are opened",
  "and edited, offers \"// nolint\" quick fixes, formats whitespace and folds",
  "brace blocks and comments. Limits come from the same configuration as",
  "\"cstyle check\".",
  "",
  "Transport modes:",
  "  --stdio      Use stdin/stdout for LSP communication (default)",
  "  --port N     Listen for an LSP client on TCP port N",
  "",
  "Examples:",
  "  cstyle lsp                           Start with stdio transport",
  "  cstyle lsp --stdio                   Same as above (explicit)",
  "  cstyle lsp --port 7998               Start with TCP on port 7998",
  "  cstyle lsp -vv --log-file lsp.log    Debug logging to a file",
  "",
  "Editor configuration (VS Code):",
  "  Install a generic LSP client extension and configure it to run",
  "  \"cstyle lsp --stdio\" for c files."]

/-- How help is asked for. -/
def helpLines : List String := [
  "Help provides help for any command in the application.",
  "Simply type cstyle help [path to command] for full details."]

/-- What completion scripts are. -/
def completionLines : List String := [
  "Generate the autocompletion script for cstyle for the specified shell.",
  "See each sub-command's help for details on how to use the generated script."]

/-- How the script for bash is used. -/
def bashLines : List String := [
  "Generate the autocompletion script for the bash shell.",
  "",
  "This script depends on the 'bash-completion' package.",
  "If it is not installed already, you can install it via your OS's package manager.",
  "",
  "To load completions in your current shell session:",
  "",
  "\tsource <(cstyle completion bash)",
  "",
  "To load completions for every new session, execute once:",
  "",
  "#### Linux:",
  "",
  "\tcstyle completion bash > /etc/bash_completion.d/cstyle",
  "",
  "#### macOS:",
  "",
  "\tcstyle completion bash > $(brew --prefix)/etc/bash_completion.d/cstyle",
  "",
  "You will need to start a new shell for this setup to take effect."]

/-- How the script for fish is used. -/
def fishLines : List String := [
  "Generate the autocompletion script for the fish shell.",
  "",
  "To load completions in your current shell session:",
  "",
  "\tcstyle completion fish | source",
  "",
  "To load completions for every new session, execute once:",
  "",
  "\tcstyle completion fish > ~/.config/fish/completions/cstyle.fish",
  "",
  "You will need to start a new shell for this setup to take effect."]

/-- How the script for powershell is used. -/
def powershellLines : List String := [
  "Generate the autocompletion script for powershell.",
  "",
  "To load completions in your current shell session:",
  "",
  "\tcstyle completion powershell | Out-String | Invoke-Expression",
  "",
  "To load completions for every new session, add the output of the above command",
  "to your powershell profile."]

/-- How the script for zsh is used. -/
def zshLines : List String := [
  "Generate the autocompletion script for the zsh shell.",
  "",
  "If shell completion is not already enabled in your environment you will need",
  "to enable it.  You can execute the following once:",
  "",
  "\techo \"autoload -U compinit; compinit\" >> ~/.zshrc",
  "",
  "To load completions in your current shell session:",
  "",
  "\tsource <(cstyle completion zsh)",
  "",
  "To load completions for every new session, execute once:",
  "",
  "#### Linux:",
  "",
  "\tcstyle completion zsh > \"$\x7bfpath[1]\x7d/_cstyle\"",
  "",
  "#### macOS:",
  "",
  "\tcstyle completion zsh > $(brew --prefix)/share/zsh/site-functions/_cstyle",
  "",
  "You will need to start a new shell for this setup to take effect."]

/-- Lines as one text, without a line end behind the last one. -/
def textOf (lines : List String) : Text := Text.join "\n" (lines.map Text.ofString)

/-- How files are checked, with all the checks that there are. -/
def check : Text :=
  Text.unlines (checkIntroLines.map Text.ofString) ++ Rule.summary (convention {}) ++ "\n" ++ textOf checkExampleLines

end HouseStyle.Command.Manual
