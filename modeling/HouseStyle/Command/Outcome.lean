import HouseStyle.Tree

/-!
# Outcomes of commands

A command is a function from what it can see — a file tree, its standard input and how much its standard output takes —
to an outcome: an exit code, what it writes to its two output streams, and the tree it leaves behind.
-/

namespace HouseStyle.Command

/-- Standard input: its text, and the message of the failure that cuts it off, if any. -/
structure Input where
  text : Text := []
  failure : Option Text := none

/-- Standard output: how many bytes it takes before it fails, if it does, and the message of that failure. -/
structure Output where
  room : Option Nat := none
  message : Text := []

/-- What arrives of a text. -/
def Output.holds (out : Output) (t : Text) : Text := out.room.elim t t.take

/-- Everything arrives unless standard output is limited. -/
@[simp] theorem Output.holds_unlimited (t : Text) : ({} : Output).holds t = t := rfl

/-- Whether writing more fails when this much has been written before. -/
def Output.refuses (out : Output) (written more : Text) : Bool :=
  out.room.any fun room => !more.isEmpty && room < written.length + more.length

/-- Standard output that is not limited takes everything. -/
@[simp] theorem Output.refuses_unlimited (written more : Text) : ({} : Output).refuses written more = false := rfl

/-- What a command leaves behind. -/
structure Outcome where
  code : Nat := 0
  stdout : Text := []
  stderr : Text := []
  tree : Tree

/-- The outcome with more on standard output, as far as this takes it. -/
def Outcome.print (done : Outcome) (out : Output) (t : Text) : Outcome :=
  { done with stdout := out.holds (done.stdout ++ t) }

/-- The outcome with a failure that is told on standard error. -/
def Outcome.fail (done : Outcome) (message : Text) : Outcome :=
  { done with code := 1, stderr := done.stderr ++ message ++ "\n" }

/-- The exit code of a run with findings. -/
def exitFindings : Nat := 1

/-- The exit code of a bad invocation. -/
def exitUsage : Nat := 2

/-- The whole of standard input, or why it cannot be read. -/
def Input.readAll (input : Input) : Except Text Text :=
  match input.failure with
  | none => .ok input.text
  | some message => .error message

end HouseStyle.Command
