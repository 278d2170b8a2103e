import Mathlib.Data.List.Basic
import HouseStyle.Server.Message

/-!
# Silence outside a session's life

What reaches a session is messages and the firing of timers (`Signal`). Every message passes the guard of the protocol
library (`Session.admits`, an assumption): as long as a session is not initialised, only a start gets through to it
(`dispatch_cases`). The guard does not stop timers, so silence rests on an invariant: a session that is not initialised
has no armed timer (`Session.Guarded`), which the shutdown sees to.

* A session that is neither initialised nor has an armed timer is dormant (`Session.Dormant`): **it stays so, and
  publishes nothing, whatever reaches it but a start** (`follow_dormant`).
* **Nothing is published before the first start, nor between a shutdown and the next start**
  (`silent_without_start`), however many documents are open and however many timers were armed.
-/

namespace HouseStyle.Server

/-! ## Runs -/

/-- What can reach a session: a message comes in, or the timer of a document fires. -/
inductive Signal where
  | message (method : Text) (params : Option Json)
  | firing (uri : Text)

namespace Signal

/-- The signal is a message that asks for a start. -/
def isStart : Signal → Bool
  | .message method _ => method == Text.ofString "initialize"
  | .firing _ => false

/-- The signal is a message that asks for a shutdown. -/
def isShutdown : Signal → Bool
  | .message method _ => method == Text.ofString "shutdown"
  | .firing _ => false

end Signal

namespace Session

/-- The session after a signal, and what it publishes. -/
def heed (s : Session) : Signal → Session × List Publication
  | .message method params => ((Message.dispatch s method params).1, (Message.dispatch s method params).2.2)
  | .firing uri => s.fire uri

/-- The session after a list of signals, and all that it publishes, in order. -/
def follow (s : Session) : List Signal → Session × List Publication
  | [] => (s, [])
  | signal :: rest => (((s.heed signal).1.follow rest).1, (s.heed signal).2 ++ ((s.heed signal).1.follow rest).2)

/-- A session that is not initialised has no armed timer. -/
def Guarded (s : Session) : Prop := s.initialized = false → s.armed = []

/-- The session is not initialised and has no armed timer. -/
structure Dormant (s : Session) : Prop where
  idle : s.initialized = false
  quiet : s.armed = []

end Session

variable {s : Session} {signal : Signal} {signals : List Signal} {method : Text} {params : Option Json}

/-! ## The guard -/

/-- A message leaves the session as it is and publishes nothing, or the session receives a request; it does so only if
it is initialised or the message asks for a start. -/
theorem dispatch_cases (s : Session) (method : Text) (params : Option Json) :
    ((Message.dispatch s method params).1 = s ∧ (Message.dispatch s method params).2.2 = []) ∨
      ∃ r, (s.initialized ∨ method = Text.ofString "initialize") ∧
        (Message.dispatch s method params).1 = (s.receive r).session ∧
        (Message.dispatch s method params).2.2 = (s.receive r).publications := by
  unfold Message.dispatch
  split
  · exact .inl ⟨rfl, rfl⟩
  next hadmits =>
    rw [Bool.not_eq_true', Bool.not_eq_false, Session.admits, Bool.or_eq_true, beq_iff_eq] at hadmits
    split
    · exact .inl ⟨rfl, rfl⟩
    · dsimp only
      split
      · exact .inl ⟨rfl, rfl⟩
      next r _ => exact .inr ⟨r, hadmits, rfl, rfl⟩

theorem reader?_shutdown : Message.reader? (Text.ofString "shutdown") = some fun _ => some .shutdown := rfl

/-- A session that is initialised is shut down by the message that asks for it. -/
theorem dispatch_shutdown (hs : s.initialized) (params : Option Json) :
    (Message.dispatch s (Text.ofString "shutdown") params).1 = { s with initialized := false, armed := [] } := by
  have hadmits (starts : Bool) : s.admits starts := by rw [Session.admits, hs, Bool.true_or]
  rw [Message.dispatch, hadmits, reader?_shutdown]
  cases params <;> simp [Session.receive, hadmits, Session.handle]

/-! ## Armed timers -/

theorem guarded_receive (h : s.Guarded) (r : Request) : (s.receive r).session.Guarded := by
  unfold Session.receive
  split
  next hopen =>
    intro hidle
    cases r with
    | start rootUri rootPath =>
      obtain ⟨_, _, hbegin⟩ := s.connect.begin_eq rootUri rootPath
      rw [Session.handle, hbegin] at hidle
      cases hidle
    | shutdown => rfl
    | _ =>
      -- The other requests leave the session initialised, and get through only if it is.
      have hs : s.initialized = false := hidle
      simp [Session.admits, hs, Session.isStart] at hopen
  · exact h

theorem guarded_fire (h : s.Guarded) (uri : Text) : (s.fire uri).1.Guarded := by
  unfold Session.fire
  split
  · intro hidle
    simp [Session.disarm, h hidle]
  · exact h

/-- **A signal keeps a session guarded.** -/
theorem guarded_heed (h : s.Guarded) (signal : Signal) : (s.heed signal).1.Guarded := by
  cases signal with
  | message method params =>
    obtain ⟨hsame, -⟩ | ⟨r, -, hreceive, -⟩ := dispatch_cases s method params
    · rwa [Session.heed, hsame]
    · rw [Session.heed, hreceive]
      exact guarded_receive h r
  | firing uri => exact guarded_fire h uri

theorem guarded_follow (h : s.Guarded) (signals : List Signal) : (s.follow signals).1.Guarded := by
  induction signals generalizing s with
  | nil => exact h
  | cons signal rest ih => exact ih (guarded_heed h signal)

theorem guarded_new (rules : List Rule) (limits : Limits) : (Session.new rules limits).Guarded := fun _ => rfl

/-! ## Dormant sessions -/

theorem dormant_new (rules : List Rule) (limits : Limits) : (Session.new rules limits).Dormant := ⟨rfl, rfl⟩

/-- **A shutdown makes a guarded session dormant**, also one that is not initialised, which refuses it. -/
theorem dormant_shutdown (h : s.Guarded) (hsignal : signal.isShutdown) : (s.heed signal).1.Dormant := by
  cases signal with
  | message method params =>
    obtain rfl : method = Text.ofString "shutdown" := by simpa [Signal.isShutdown] using hsignal
    cases hs : s.initialized with
    | true =>
      rw [Session.heed, dispatch_shutdown hs]
      exact ⟨rfl, rfl⟩
    | false =>
      obtain ⟨hsame, -⟩ | ⟨r, hopen, -⟩ := dispatch_cases s (Text.ofString "shutdown") params
      · rw [Session.heed, hsame]
        exact ⟨hs, h hs⟩
      · rw [hs] at hopen
        exact absurd hopen (by decide)
  | firing uri => cases hsignal

/-- **A dormant session ignores whatever reaches it but a start.** -/
theorem heed_dormant (h : s.Dormant) (hsignal : signal.isStart = false) : s.heed signal = (s, []) := by
  cases signal with
  | message method params =>
    obtain ⟨hsame, hnone⟩ | ⟨r, hopen, -⟩ := dispatch_cases s method params
    · rw [Session.heed, hsame, hnone]
    · rw [h.idle] at hopen
      obtain rfl := hopen.resolve_left Bool.false_ne_true
      cases hsignal
  | firing uri => simp [Session.heed, Session.fire, h.quiet]

theorem follow_dormant (h : s.Dormant) (hsignals : ∀ signal ∈ signals, signal.isStart = false) :
    s.follow signals = (s, []) := by
  induction signals with
  | nil => rfl
  | cons signal rest ih =>
    rw [List.forall_mem_cons] at hsignals
    rw [Session.follow, heed_dormant h hsignals.1, ih hsignals.2, List.nil_append]

theorem follow_concat (s : Session) (signals : List Signal) (last : Signal) :
    (s.follow (signals ++ [last])).1 = ((s.follow signals).1.heed last).1 := by
  induction signals generalizing s with
  | nil => rfl
  | cons signal rest ih => exact ih _

/-- **Nothing is published before the first start, nor between a shutdown and the next start**: in no run does a stretch
of signals without a start publish anything, if it is the beginning of the run or a shutdown comes right before it. -/
theorem silent_without_start (rules : List Rule) (limits : Limits) (before during : List Signal)
    (hbefore : ∀ last ∈ before.getLast?, last.isShutdown) (hduring : ∀ signal ∈ during, signal.isStart = false) :
    (((Session.new rules limits).follow before).1.follow during).2 = [] := by
  have hdormant : ((Session.new rules limits).follow before).1.Dormant := by
    obtain rfl | ⟨earlier, last, rfl⟩ := List.eq_nil_or_concat' before
    · exact dormant_new rules limits
    · rw [follow_concat]
      exact dormant_shutdown (guarded_follow (guarded_new rules limits) earlier) (hbefore last (by simp))
  rw [follow_dormant hdormant hduring]

/-- Two documents are open and changed, so that two timers are armed; after the shutdown the timers fire, and messages
about the documents come in. -/
theorem silent_after_shutdown :
    let a := Text.ofString "file:///a.c"
    let b := Text.ofString "file:///b.c"
    let about (uri : Text) : Option Json := some (Message.obj [("textDocument", Message.obj [("uri", .string uri)])])
    let opened (uri : Text) := Signal.message "textDocument/didOpen" <| some <| Message.obj [("textDocument",
      Message.obj [("uri", .string uri), ("text", "goto end;\n")])]
    let changed (uri : Text) := Signal.message "textDocument/didChange" (about uri)
    let earlier := [Signal.message "initialize" (some (Message.obj [])), opened a, opened b, changed a, changed b]
    let shutdown := Signal.message "shutdown" none
    let during := [Signal.firing a, .firing b, .message "textDocument/didSave" (about a), changed b, .firing b]
    let s := ((Session.new [Rule.goto] {}).follow earlier).1
    let s' := ((Session.new [Rule.goto] {}).follow (earlier ++ [shutdown])).1
    s.armed = [a, b] ∧ (s.follow during).2.length = 4 ∧ (s'.docs.get? a).isSome ∧ (s'.docs.get? b).isSome ∧
      shutdown.isShutdown ∧ (∀ signal ∈ during, signal.isStart = false) ∧ (s'.follow during).2 = [] := by
  intro a b about opened changed earlier shutdown during s s'
  have hbefore : ∀ last ∈ (earlier ++ [shutdown]).getLast?, last.isShutdown := by decide +kernel
  have hduring : ∀ signal ∈ during, signal.isStart = false := by decide +kernel
  exact ⟨by decide +kernel, by decide +kernel, by decide +kernel, by decide +kernel, by decide +kernel, hduring,
    silent_without_start [Rule.goto] {} (earlier ++ [shutdown]) during hbefore hduring⟩

end HouseStyle.Server
