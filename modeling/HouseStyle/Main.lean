import HouseStyle.Command.Line

/-!
# The program

Shows the disk to the command line as a tree, as far as the arguments can reach it, does what it comes to, and writes
back the files that changed. A language server publishes pending problems when its client has been quiet for a while.
-/

namespace HouseStyle.Main

/-- The release of this program. -/
def release : Text := "(devel)"

/-- How long a client must be quiet, in milliseconds. -/
def quietTime : Nat := 300

/-- How long the server waits between two looks at its input, in milliseconds. -/
def pollTime : UInt32 := 10

/-- The bytes of a text. -/
def bytesOf (t : Text) : ByteArray := ⟨t.toArray⟩

/-- The text of bytes. -/
def textOf (bytes : ByteArray) : Text := bytes.data.toList

/-- The text as a string, for what is called by it outside. -/
def spelled (t : Text) : IO String :=
  match String.fromUTF8? (bytesOf t) with
  | some s => return s
  | none => throw (IO.userError "not a text")

/-- Whether something can be done. -/
def isPossible {α : Type} (action : IO α) : IO Bool := do
  try
    discard action
    return true
  catch _ => return false

/-- What stands at a path of the disk, with what the user may do with it; what may not be read is left empty, and a link
to a directory is left out. -/
partial def load (path : String) : IO Node := do
  let path ← IO.FS.realPath path
  match (← path.metadata).type with
  | .dir =>
    let read ← isPossible path.readDir
    let enter ← isPossible (path / ".").metadata
    let mut node := Node.dir { read, enter } []
    if read then
      for entry in ← path.readDir do
        try
          unless (← entry.path.isDir) && (← entry.path.symlinkMetadata).type == .symlink do
            node := node.put [Text.ofString entry.fileName] (← load entry.path.toString)
        catch _ => pure ()
    return node
  | .file =>
    let read ← isPossible (IO.FS.Handle.mk path .read)
    let write ← isPossible (IO.FS.Handle.mk path .readWrite)
    let content ← if read then IO.FS.readBinFile path else pure .empty
    return .file { read, write } (textOf content)
  | _ => throw (IO.userError "neither a file nor a directory")

/-- The names of the directories that a path from the root leads through. -/
def placeOf (path : Text) : List Text := Path.resolve true [] (path.pieces '/')

/-- The paths that an argument may mean: all of it, without the dots of a walk, or the value of a flag. -/
def meanings (arg : Text) : List Text :=
  [arg, arg.trimSuffix "/...", (arg.dropWhile (· != Text.byte '=')).drop 1]

/-- The working directory with what the paths lead to outside, each at its place. -/
def loadTree (paths : List Text) : IO Tree := do
  let current := (← IO.currentDir).toString
  let here := placeOf (Text.ofString current)
  let mut tree : Tree := ⟨Node.empty.put here (← load current), here⟩
  for path in paths do
    let place := placeOf (if path.startsWith "/" then path else Text.ofString current ++ "/" ++ path)
    unless here.isPrefixOf place do
      try tree := tree.put place (← load (← spelled path)) catch _ => pure ()
  return tree

/-- The configuration files that may be in a directory. -/
def settingsFiles (dir : Text) : List Text :=
  Settings.fileExtensions.map fun extension => dir ++ "/" ++ Settings.fileName ++ "." ++ extension

/-- The environment variables of the settings. -/
def loadEnvironment : IO (List (Text × Text)) := do
  let mut found := []
  for flag in Command.Verb.checkFlags do
    let name := Settings.variableName flag.name
    if let some value ← IO.getEnv (← spelled name) then
      found := found ++ [(name, Text.ofString value)]
  return found

/-- Whether the file at a path from the root holds this content. -/
def isHeld (tree : Tree) (path content : Text) : Bool :=
  match tree.root.at? (path.pieces '/') with
  | some (.file _ held) => held == content
  | _ => false

/-- Writes back the files that changed, and ends with an outcome. -/
def finish (before : Tree) (out : Command.Outcome) : IO UInt32 := do
  for (path, content) in out.tree.root.filesAt [] do
    unless isHeld before path content do
      IO.FS.writeBinFile (← spelled ("/" ++ path)) (bytesOf content)
  (← IO.getStdout).write (bytesOf out.stdout)
  (← IO.getStderr).write (bytesOf out.stderr)
  return UInt32.ofNat out.code

/-- Reads bytes until there are enough of them or no more. -/
partial def readBytes (stream : IO.FS.Stream) (n : Nat) (done : ByteArray) : IO ByteArray := do
  if done.size ≥ n then return done
  let more ← stream.read (USize.ofNat (n - done.size))
  if more.isEmpty then return done
  readBytes stream n (done ++ more)

/-- Reads a message behind the part of its header read so far. -/
partial def readMessage (stream : IO.FS.Stream) (header : String) : IO (Option Text) := do
  let line ← stream.getLine
  if line.isEmpty then return none
  if line != "\r\n" then return ← readMessage stream (header ++ line)
  match Server.Frame.readHeader [] 0 (Text.ofString (header ++ line)) with
  | none => return none
  | some (n, _) =>
    if n = 0 then return none
    return some (textOf (← readBytes stream n .empty))

/-- Sends messages to the client. -/
def send (messages : List Json) : IO Unit := do
  let stdout ← IO.getStdout
  for message in messages do
    stdout.write (bytesOf (Server.Frame.encode message.compact))
  stdout.flush

/-- Talks to the client: the next message is on its way, and pending problems are published at the time `due`. -/
partial def talk (session : Server.Session) (next : Task (Except IO.Error (Option Text))) (due : Option Nat) :
    IO Unit := do
  let now ← IO.monoMsNow
  if ← IO.hasFinished next then
    match ← IO.wait next with
    | .ok (some body) =>
      match (Json.parse? body).map (Server.Exchange.take session) with
      | some (some session, sent) =>
        send sent
        let due := if session.armed.isEmpty then none else some (now + quietTime)
        talk session (← IO.asTask (do readMessage (← IO.getStdin) "")) due
      | some (none, sent) => send sent
      | none => return
    | _ => return
  else if due.any (· ≤ now) then
    let (session, published) := session.fireAll
    send (published.map Server.Exchange.notice)
    talk session next none
  else
    IO.sleep pollTime
    talk session next due

/-- Runs the program. -/
def run (args : List String) : IO UInt32 := do
  let args := args.map Text.ofString
  let home := Text.ofString ((← IO.getEnv "HOME").getD ".")
  let tree ← loadTree (args.flatMap meanings ++ settingsFiles home)
  let inv : Command.Invocation := { args, environment := ← loadEnvironment, home, tree, version := release }
  match Command.act inv with
  | .finish out => finish tree out
  | .read outcome =>
    let input ← (← IO.getStdin).readBinToEnd
    finish tree (outcome { text := textOf input })
  | .serve session after =>
    let code ← finish tree { tree := after }
    talk session (← IO.asTask (do readMessage (← IO.getStdin) "")) none
    return code

end HouseStyle.Main

/-- The program. -/
def main (args : List String) : IO UInt32 := HouseStyle.Main.run args
