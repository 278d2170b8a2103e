import HouseStyle.Linter
import HouseStyle.Convention
import HouseStyle.Server.Document
import HouseStyle.Server.Folding
import HouseStyle.Server.QuickFix
import HouseStyle.Whitespace

/-!
# Sessions of the language server

A session takes requests and answers them. Opening or saving a document publishes its problems at once; a change arms a
timer for the document, and the problems are published when the timer fires, so that quick edits cause one publication
only. Saving or closing a document disarms its timer, and shutting down disarms all.

A session learns from a start, an opening, a change or a save where its publications go; before the first of these it
has nowhere to send them.

Before it is initialised and after it is shut down, a session refuses everything but initialisation.
-/

namespace HouseStyle.Server

/-! ## Messages -/

/-- A problem as it is published. -/
structure Problem where
  range : Range
  severity : Nat
  code : Text
  message : Text
  deriving DecidableEq

/-- The problems of a document, which replace those published before. -/
structure Publication where
  uri : Text
  problems : List Problem
  deriving DecidableEq

/-- What an editor can ask for. -/
inductive Request where
  | start (rootUri rootPath : Option Text)
  | shutdown
  | exit
  | setTrace
  | didOpen (d : Document)
  | didChange (uri : Text) (version : Int) (changes : List Text)
  | didSave (uri : Text)
  | didClose (uri : Text)
  | formatting (uri : Text) (tabSize : Option Int)
  | folding (uri : Text)
  | quickFixes (uri : Text) (only : List Text) (problems : List ShownProblem)

/-- The answer to a request. -/
inductive Answer where
  | nothing
  | capabilities
  | edits (es : List TextEdit)
  | folds (fs : List Fold)
  | fixes (uri : Text) (qs : List QuickFix)
  | refused

/-- What is said to a request that comes too early or too late. -/
def refusal : Text := "server not initialized"

/-! ## State -/

/-- The state of a session. -/
structure Session where
  rules : List Rule
  limits : Limits
  initialized : Bool := false
  /-- Whether the session knows where to send its publications. -/
  connected : Bool := false
  rootUri : Text := []
  rootPath : Text := []
  docs : Store := []
  /-- The URIs whose timers are armed. -/
  armed : List Text := []
  /-- The exit codes asked for so far. -/
  exits : List Nat := []

namespace Session

/-- The number of a severity in messages. -/
def severityNumber : Severity → Nat
  | .error => 1
  | .info => 3
  | _ => 2

/-- A diagnostic as it is published. -/
def problemOf (lines : List Text) (d : Diagnostic) : Problem :=
  ⟨lineRange lines d.pos.line, severityNumber d.severity, d.rule, d.message⟩

/-- The publication of a document's problems. -/
def publication (s : Session) (d : Document) : Publication :=
  ⟨d.uri, (lintFile s.rules (pathOfUri d.uri) d.content).map (problemOf (splitLines d.content))⟩

/-- The session that knows where to send its publications. -/
def connect (s : Session) : Session := { s with connected := true }

/-- What is sent of these publications: all, if the session knows where. -/
def send (s : Session) (ps : List Publication) : List Publication := if s.connected then ps else []

/-- The publications of the document with this URI: one if it is open, none otherwise. -/
def publish (s : Session) (uri : Text) : List Publication := s.send ((s.docs.get? uri).map s.publication).toList

/-- Disarms the timer of a document. -/
def disarm (s : Session) (uri : Text) : Session := { s with armed := s.armed.filter (· != uri) }

/-! ## Requests -/

/-- The content of a document after a list of changes, each of which gives the whole content. -/
def changedContent (changes : List Text) : Text := changes.getLast?.getD []

/-- The edit that fixes the white space of a document, if there is anything to fix. -/
def formatEdits (s : Session) (uri : Text) (tabSize : Option Int) : List TextEdit :=
  match s.docs.get? uri with
  | none => []
  | some d =>
    let width := tabSize.getD s.limits.indentWidth
    let fixed := Whitespace.fix d.content width
    if d.content = fixed then []
    else [⟨⟨⟨0, 0⟩, ⟨clamp (d.content.countOf '\n' + 1), 0⟩⟩, fixed⟩]

/-- The session after initialisation; a root URI wins over a root path. -/
def begin (s : Session) (rootUri rootPath : Option Text) : Session :=
  match rootUri, rootPath with
  | some uri, _ => { s with initialized := true, rootUri := uri, rootPath := pathOfUri uri }
  | none, some path => { s with initialized := true, rootUri := uriOfPath path, rootPath := path }
  | none, none => { s with initialized := true }

/-- Initialisation changes the root and nothing else. -/
theorem begin_eq (s : Session) (rootUri rootPath : Option Text) :
    ∃ uri path, s.begin rootUri rootPath = { s with initialized := true, rootUri := uri, rootPath := path } := by
  unfold begin
  split <;> exact ⟨_, _, rfl⟩

/-- The outcome of a request: the session after it, the answer, and what is published meanwhile. -/
structure Outcome where
  session : Session
  answer : Answer := .nothing
  publications : List Publication := []

/-- Answers a request. -/
def handle (s : Session) : Request → Outcome
  | .start rootUri rootPath => { session := s.connect.begin rootUri rootPath, answer := .capabilities }
  | .shutdown => { session := { s with initialized := false, armed := [] } }
  | .exit => { session := { s with exits := s.exits ++ [0] } }
  | .setTrace => { session := s }
  | .didOpen d =>
    let s := { s.connect with docs := s.docs.put d }
    { session := s, publications := s.publish d.uri }
  | .didChange uri version changes =>
    { session := { s.connect with
        docs := s.docs.put ⟨uri, version, changedContent changes⟩
        armed := s.armed.filter (· != uri) ++ [uri] } }
  | .didSave uri =>
    let s := s.connect.disarm uri
    { session := s, publications := s.publish uri }
  | .didClose uri =>
    { session := { s.disarm uri with docs := s.docs.close uri }, publications := s.send [⟨uri, []⟩] }
  | .formatting uri tabSize => { session := s, answer := .edits (s.formatEdits uri tabSize) }
  | .folding uri =>
    { session := s, answer := .folds ((s.docs.get? uri).elim [] fun d => Fold.all (splitLines d.content)) }
  | .quickFixes uri only problems =>
    { session := s
      answer := .fixes uri ((s.docs.get? uri).elim [] fun d => QuickFix.all d.content only problems) }

/-- Whether the request is an initialisation. -/
def isStart : Request → Bool
  | .start _ _ => true
  | _ => false

/-- Whether the session is given what asks, or does not ask, for a start. It is not the server that decides this but the
protocol library it is built on, which is assumed to refuse whatever is no start before the first start and after a
shutdown. -/
def admits (s : Session) (starts : Bool) : Bool := s.initialized || starts

/-- Answers a request if the session is ready for it. -/
def receive (s : Session) (r : Request) : Outcome :=
  if s.admits (isStart r) then s.handle r else { session := s, answer := .refused }

/-- Lets the timer of a document fire, if it is armed. -/
def fire (s : Session) (uri : Text) : Session × List Publication :=
  if s.armed.contains uri then (s.disarm uri, s.publish uri) else (s, [])

/-- Lets all armed timers fire, in byte order of their URIs. -/
def fireAll (s : Session) : Session × List Publication :=
  let order := s.armed.mergeSort fun a b => !Text.less b a
  order.foldl (fun (s, sent) uri => let (s, more) := s.fire uri; (s, sent ++ more)) (s, [])

/-- A session that has not begun. -/
def new (rules : List Rule) (limits : Limits) : Session := { rules, limits }

end Session

end HouseStyle.Server
