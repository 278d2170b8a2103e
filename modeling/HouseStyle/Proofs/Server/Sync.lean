import HouseStyle.Server.Session

/-!
# Documents through a run

A run is what a session does over a list of events: requests that come in, and timers that fire. An editor keeps its
documents by the same events (`Editor.document`): an opening gives a document, a change applies a list of whole contents
in order, a closing takes the document away.

* **The session holds the documents of the editor, under the same versions** (`docs_mirror_editor`), and with their
  contents, except after a change whose list is empty: there the editor's content stays as it was, and the session's is
  empty until the next content comes (`empty_change_loses_content`).
-/

namespace HouseStyle.Server

/-! ## Runs -/

/-- What can happen to a session: a request comes in, or the timer of a document fires. -/
inductive Event where
  | request (r : Request)
  | firing (uri : Text)

namespace Session

/-- The session after an event, and what it publishes. -/
def step (s : Session) : Event → Session × List Publication
  | .request r => ((s.handle r).session, (s.handle r).publications)
  | .firing uri => s.fire uri

/-- The session after a list of events, and all that it publishes, in order. -/
def run (s : Session) : List Event → Session × List Publication
  | [] => (s, [])
  | e :: rest => (((s.step e).1.run rest).1, (s.step e).2 ++ ((s.step e).1.run rest).2)

end Session

/-! ## Documents of the editor -/

namespace Editor

/-- The document that an editor has under a URI after an event. -/
def after (uri : Text) (held : Option Document) : Event → Option Document
  | .request (.didOpen d) => if uri = d.uri then some d else held
  | .request (.didChange changed version changes) =>
    if uri = changed then some ⟨uri, version, changes.foldl (fun _ c => c) (held.elim [] (·.content))⟩ else held
  | .request (.didClose closed) => if uri = closed then none else held
  | _ => held

/-- The document that an editor has under a URI after a list of events. -/
def document (uri : Text) (events : List Event) : Option Document := events.foldl (after uri) none

/-- Whether the latest opening or change of a URI is a change with an empty list, after an event. -/
def emptiedAfter (uri : Text) (emptied : Bool) : Event → Bool
  | .request (.didOpen d) => if uri = d.uri then false else emptied
  | .request (.didChange changed _ changes) => if uri = changed then changes.isEmpty else emptied
  | _ => emptied

/-- Whether the latest opening or change of a URI in a list of events is a change with an empty list. -/
def emptied (uri : Text) (events : List Event) : Bool := events.foldl (emptiedAfter uri) false

/-- What a session holds of a document of the editor. -/
def stored (emptied : Bool) (d : Document) : Document := if emptied then { d with content := [] } else d

end Editor

open Editor

variable {s : Session} {uri : Text} {held : Option Document} {emptied : Bool}

/-- The content that a session takes from a list of changes is what they make of any content, unless there are none. -/
theorem changedContent_eq (changes : List Text) (content : Text) :
    Session.changedContent changes = if changes.isEmpty then [] else changes.foldl (fun _ c => c) content := by
  induction changes generalizing content with
  | nil => rfl
  | cons first rest ih =>
    cases rest with
    | nil => rfl
    | cons second rest => exact ih first

/-- **An event keeps the session's document in step with the editor's.** -/
theorem get?_docs_step (h : s.docs.get? uri = held.map (stored emptied)) (e : Event) :
    (s.step e).1.docs.get? uri = (after uri held e).map (stored (emptiedAfter uri emptied e)) := by
  cases e with
  | firing fired =>
    simp only [Session.step, Session.fire]
    split <;> exact h
  | request r =>
    cases r with
    | start rootUri rootPath =>
      obtain ⟨_, _, hbegin⟩ := s.connect.begin_eq rootUri rootPath
      simp only [Session.step, Session.handle, hbegin]
      exact h
    | didOpen d =>
      have hput : (s.step (.request (.didOpen d))).1.docs.get? uri = if uri = d.uri then some d else s.docs.get? uri :=
        Store.get?_put s.docs d uri
      rw [hput, after, emptiedAfter]
      split
      · rfl
      · exact h
    | didChange changed version changes =>
      have hput : (s.step (.request (.didChange changed version changes))).1.docs.get? uri =
          if uri = changed then some ⟨changed, version, Session.changedContent changes⟩ else s.docs.get? uri :=
        Store.get?_put s.docs _ uri
      rw [hput, after, emptiedAfter]
      split
      next heq =>
        subst heq
        rw [changedContent_eq changes (held.elim [] (·.content)), Option.map_some, stored]
        cases changes.isEmpty <;> rfl
      · exact h
    | didClose closed =>
      have hclose : (s.step (.request (.didClose closed))).1.docs.get? uri =
          if uri = closed then none else s.docs.get? uri := Store.get?_close s.docs closed uri
      rw [hclose, after]
      split
      · rfl
      · exact h
    | _ => exact h

theorem get?_docs_run (events : List Event) (h : s.docs.get? uri = held.map (stored emptied)) :
    (s.run events).1.docs.get? uri = (events.foldl (after uri) held).map
      (stored (events.foldl (emptiedAfter uri) emptied)) := by
  induction events generalizing s held emptied with
  | nil => exact h
  | cons e rest ih => exact ih (get?_docs_step h e)

/-- **A session holds, under each URI, the document that the editor has there, with its version and its content; only
where the latest opening or change is a change with an empty list, the content is lost.** -/
theorem docs_mirror_editor (rules : List Rule) (limits : Limits) (events : List Event) (uri : Text) :
    ((Session.new rules limits).run events).1.docs.get? uri =
      (document uri events).map fun d => if Editor.emptied uri events then { d with content := [] } else d :=
  have hnew : (Session.new rules limits).docs.get? uri = none.map (stored false) := rfl
  get?_docs_run events hnew

/-- A change with an empty list leaves the editor's content as it was, and empties the session's. -/
theorem empty_change_loses_content :
    let uri := Text.ofString "file:///src/main.c"
    let events := [Event.request (.didOpen ⟨uri, 1, "x"⟩), Event.request (.didChange uri 2 [])]
    document uri events = some ⟨uri, 2, "x"⟩ ∧
      ((Session.new [] {}).run events).1.docs.get? uri = some ⟨uri, 2, ""⟩ := by
  decide

end HouseStyle.Server
