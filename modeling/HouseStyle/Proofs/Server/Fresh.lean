import HouseStyle.Proofs.Server.Sync

/-!
# What the editor was last told

The latest publication about a URI (`lastAbout`) is what an editor shows for it. After any run without a shutdown it is
not out of date, except where a timer is armed (`fresh_when_quiet`):

* **of an open document without an armed timer, it holds the problems of the content that the session has now**;
* **a document with an armed timer is open**, so that the timer will publish its problems when it fires;
* **of a URI without a document, it is empty**, if there is any.

`Fresh` is the invariant, for one URI at a time. An event changes the document, the timer and the latest publication of
one URI at most (`fresh_frame`); at that URI it publishes, closes, or arms the timer (`fresh_published`, `fresh_closed`,
`fresh_armed`).
-/

namespace HouseStyle.Server

/-! ## Latest publications -/

/-- The latest publication about a URI. -/
def lastAbout (uri : Text) (sent : List Publication) : Option Publication := (sent.filter (·.uri == uri)).getLast?

variable {uri : Text} {sent more : List Publication}

theorem lastAbout_append_of_ne (h : ∀ p ∈ more, p.uri ≠ uri) : lastAbout uri (sent ++ more) = lastAbout uri sent := by
  have hnone : more.filter (·.uri == uri) = [] := by simpa using h
  rw [lastAbout, List.filter_append, hnone, List.append_nil, ← lastAbout]

theorem lastAbout_concat (p : Publication) : lastAbout p.uri (sent ++ [p]) = some p := by
  simp [lastAbout, List.filter_append]

/-! ## What is published of a document -/

theorem Store.uri_of_get? {docs : Store} {d : Document} (h : docs.get? uri = some d) : d.uri = uri := by
  simpa using List.find?_some h

section Publish

variable {s : Session} {d : Document}

theorem publish_of_get? (hc : s.connected) (h : s.docs.get? uri = some d) : s.publish uri = [s.publication d] := by
  rw [Session.publish, Session.send, if_pos hc, h, Option.map_some, Option.toList_some]

theorem publish_of_closed (h : s.docs.get? uri = none) : s.publish uri = [] := by
  rw [Session.publish, h, Option.map_none, Option.toList_none, Session.send, ite_self]

theorem uri_of_mem_publish {p : Publication} (h : p ∈ s.publish uri) : p.uri = uri := by
  cases hget : s.docs.get? uri with
  | none =>
    rw [publish_of_closed hget] at h
    cases h
  | some d =>
    rw [Session.publish, Session.send, hget] at h
    split at h
    · obtain rfl := List.mem_singleton.mp h
      exact Store.uri_of_get? hget
    · cases h

end Publish

/-! ## The invariant -/

/-- What a session and its publications say of a URI. -/
structure Fresh (uri : Text) (s : Session) (sent : List Publication) : Prop where
  /-- Only open documents have armed timers. -/
  isOpen : uri ∈ s.armed → (s.docs.get? uri).isSome
  /-- A session with an open document knows where to send its publications. -/
  connected : (s.docs.get? uri).isSome → s.connected
  /-- The problems of a document without an armed timer are published. -/
  quiet : ∀ d, s.docs.get? uri = some d → uri ∉ s.armed → lastAbout uri sent = some (s.publication d)
  /-- No problems are published of a document that is not open. -/
  closed : s.docs.get? uri = none → ∀ p, lastAbout uri sent = some p → p = ⟨uri, []⟩

theorem fresh_new (rules : List Rule) (limits : Limits) (uri : Text) : Fresh uri (Session.new rules limits) [] where
  isOpen h := nomatch h
  connected h := nomatch h
  quiet _ h := nomatch h
  closed _ _ h := nomatch h

variable {s s' : Session} {d : Document}

/-- An event that is not about a URI leaves it fresh. -/
theorem fresh_frame (h : Fresh uri s sent) (hrules : s'.rules = s.rules) (hdocs : s'.docs.get? uri = s.docs.get? uri)
    (harmed : uri ∈ s'.armed ↔ uri ∈ s.armed) (hconnected : s.connected → s'.connected)
    (hmore : ∀ p ∈ more, p.uri ≠ uri) : Fresh uri s' (sent ++ more) where
  isOpen ha := hdocs ▸ h.isOpen (harmed.mp ha)
  connected ho := hconnected (h.connected (hdocs ▸ ho))
  quiet d hget ha := by
    rw [lastAbout_append_of_ne hmore, Session.publication, hrules]
    exact h.quiet d (hdocs ▸ hget) (mt harmed.mpr ha)
  closed hget p hp := by
    rw [lastAbout_append_of_ne hmore] at hp
    exact h.closed (hdocs ▸ hget) p hp

/-- A URI is fresh when the problems of its document are published. -/
theorem fresh_published (hc : s'.connected) (hget : s'.docs.get? uri = some d) :
    Fresh uri s' (sent ++ s'.publish uri) where
  isOpen _ := by simp [hget]
  connected _ := hc
  quiet d' hget' _ := by
    obtain rfl := Option.some.inj (hget.symm.trans hget')
    obtain rfl := Store.uri_of_get? hget
    rw [publish_of_get? hc hget]
    exact lastAbout_concat (s'.publication d)
  closed hnone := by simp [hget] at hnone

/-- A URI is fresh when the timer of its document is armed. -/
theorem fresh_armed (hc : s'.connected) (hget : s'.docs.get? uri = some d) (ha : uri ∈ s'.armed) :
    Fresh uri s' sent where
  isOpen _ := by simp [hget]
  connected _ := hc
  quiet _ _ hquiet := absurd ha hquiet
  closed hnone := by simp [hget] at hnone

/-- A URI is fresh when its document is closed. -/
theorem fresh_closed (h : Fresh uri s sent) (hget : s'.docs.get? uri = none) (ha : uri ∉ s'.armed) :
    Fresh uri s' (sent ++ s.send [⟨uri, []⟩]) where
  isOpen hmem := absurd hmem ha
  connected ho := by simp [hget] at ho
  quiet d hsome := by simp [hget] at hsome
  closed _ p hp := by
    rw [Session.send] at hp
    split at hp
    · have hlast : lastAbout uri (sent ++ [⟨uri, []⟩]) = some ⟨uri, []⟩ := lastAbout_concat ⟨uri, []⟩
      exact (Option.some.inj (hlast.symm.trans hp)).symm
    next hc =>
      -- A session that cannot send anything has had no document under this URI.
      have hnone : s.docs.get? uri = none :=
        Option.not_isSome_iff_eq_none.mp fun ho => hc (h.connected ho)
      rw [List.append_nil] at hp
      exact h.closed hnone p hp

/-! ## Events -/

theorem mem_armed_disarm {other : Text} : uri ∈ (s.disarm other).armed ↔ uri ∈ s.armed ∧ uri ≠ other := by
  simp [Session.disarm]

theorem fresh_firing (h : Fresh uri s sent) (fired : Text) :
    Fresh uri (s.fire fired).1 (sent ++ (s.fire fired).2) := by
  unfold Session.fire
  split
  next ha =>
    by_cases heq : uri = fired
    · subst heq
      obtain ⟨d, hget⟩ := Option.isSome_iff_exists.mp (h.isOpen (by simpa using ha))
      have hc : s.connected := h.connected (by simp [hget])
      have hpublished : Fresh uri (s.disarm uri) (sent ++ (s.disarm uri).publish uri) := fresh_published hc hget
      exact hpublished
    · refine fresh_frame h rfl rfl ?_ id fun p hp hp' => heq (hp'.symm.trans (uri_of_mem_publish hp))
      simp [mem_armed_disarm, heq]
  · simpa using h

section Requests

variable (h : Fresh uri s sent)
include h

theorem fresh_didOpen (opened : Document) :
    Fresh uri (s.handle (.didOpen opened)).session (sent ++ (s.handle (.didOpen opened)).publications) := by
  have hput : (s.docs.put opened).get? uri = if uri = opened.uri then some opened else s.docs.get? uri :=
    Store.get?_put s.docs opened uri
  simp only [Session.handle]
  by_cases heq : uri = opened.uri
  · subst heq
    exact fresh_published rfl (hput.trans (if_pos rfl))
  · exact fresh_frame h rfl (hput.trans (if_neg heq)) Iff.rfl (fun _ => rfl)
      fun p hp hp' => heq (hp'.symm.trans (uri_of_mem_publish hp))

theorem fresh_didChange (changed : Text) (version : Int) (changes : List Text) :
    Fresh uri (s.handle (.didChange changed version changes)).session
      (sent ++ (s.handle (.didChange changed version changes)).publications) := by
  have hput := Store.get?_put s.docs ⟨changed, version, Session.changedContent changes⟩ uri
  simp only [Session.handle]
  by_cases heq : uri = changed
  · exact fresh_armed rfl (hput.trans (if_pos heq)) (by simp [heq])
  · exact fresh_frame h rfl (hput.trans (if_neg heq)) (by simp [heq]) (fun _ => rfl) (by simp)

theorem fresh_didSave (saved : Text) :
    Fresh uri (s.handle (.didSave saved)).session (sent ++ (s.handle (.didSave saved)).publications) := by
  simp only [Session.handle]
  by_cases heq : uri = saved
  · subst heq
    cases hget : s.docs.get? uri with
    | some d => exact fresh_published rfl hget
    | none =>
      have hquiet : uri ∉ s.armed := fun ha => by simpa [hget] using h.isOpen ha
      have hpublish : (s.connect.disarm uri).publish uri = [] := publish_of_closed hget
      rw [hpublish]
      exact fresh_frame h rfl rfl (by simp [mem_armed_disarm, hquiet]) (fun _ => rfl) (by simp)
  · refine fresh_frame h rfl rfl ?_ (fun _ => rfl) fun p hp hp' => heq (hp'.symm.trans (uri_of_mem_publish hp))
    simp [mem_armed_disarm, heq, Session.connect]

theorem fresh_didClose (closed : Text) :
    Fresh uri (s.handle (.didClose closed)).session (sent ++ (s.handle (.didClose closed)).publications) := by
  have hclose : (s.docs.close closed).get? uri = if uri = closed then none else s.docs.get? uri :=
    Store.get?_close s.docs closed uri
  simp only [Session.handle]
  by_cases heq : uri = closed
  · subst heq
    exact fresh_closed h (hclose.trans (if_pos rfl)) (by simp [Session.disarm])
  · refine fresh_frame h rfl (hclose.trans (if_neg heq)) (by simp [Session.disarm, heq]) id ?_
    intro p hp hp'
    rw [Session.send] at hp
    split at hp
    · obtain rfl := List.mem_singleton.mp hp
      exact heq hp'.symm
    · cases hp

/-- **A request other than a shutdown leaves every URI fresh.** -/
theorem fresh_request {r : Request} (hr : r ≠ .shutdown) :
    Fresh uri (s.handle r).session (sent ++ (s.handle r).publications) := by
  cases r with
  | shutdown => exact absurd rfl hr
  | start rootUri rootPath =>
    obtain ⟨_, _, hbegin⟩ := s.connect.begin_eq rootUri rootPath
    rw [Session.handle, hbegin]
    exact fresh_frame h rfl rfl Iff.rfl (fun _ => rfl) (by simp)
  | didOpen opened => exact fresh_didOpen h opened
  | didChange changed version changes => exact fresh_didChange h changed version changes
  | didSave saved => exact fresh_didSave h saved
  | didClose closed => exact fresh_didClose h closed
  | _ => exact fresh_frame h rfl rfl Iff.rfl id (by simp [Session.handle])

end Requests

theorem fresh_run (events : List Event) (he : ∀ e ∈ events, e ≠ .request .shutdown) (h : Fresh uri s sent) :
    Fresh uri (s.run events).1 (sent ++ (s.run events).2) := by
  induction events generalizing s sent with
  | nil => simpa [Session.run] using h
  | cons e rest ih =>
    obtain ⟨hfirst, hrest⟩ := List.forall_mem_cons.mp he
    have hstep : Fresh uri (s.step e).1 (sent ++ (s.step e).2) := by
      cases e with
      | request r => exact fresh_request h fun hr => hfirst (congrArg Event.request hr)
      | firing fired => exact fresh_firing h fired
    rw [Session.run, ← List.append_assoc]
    exact ih hrest hstep

theorem rules_step (s : Session) (e : Event) : (s.step e).1.rules = s.rules := by
  cases e with
  | firing fired =>
    simp only [Session.step, Session.fire]
    split <;> rfl
  | request r =>
    cases r with
    | start rootUri rootPath =>
      obtain ⟨_, _, hbegin⟩ := s.connect.begin_eq rootUri rootPath
      simp only [Session.step, Session.handle, hbegin]
      rfl
    | _ => rfl

theorem rules_run (s : Session) (events : List Event) : (s.run events).1.rules = s.rules := by
  induction events generalizing s with
  | nil => rfl
  | cons e rest ih => exact (ih (s.step e).1).trans (rules_step s e)

/-- **After any run of a new session without a shutdown, what was last published of an open document without an armed
timer are the problems of its content, a document with an armed timer is open, and what was last published of a URI
without a document is empty.** -/
theorem fresh_when_quiet (rules : List Rule) (limits : Limits) (events : List Event)
    (he : ∀ e ∈ events, e ≠ .request .shutdown) :
    let s := ((Session.new rules limits).run events).1
    let sent := ((Session.new rules limits).run events).2
    (∀ uri d, s.docs.get? uri = some d → uri ∉ s.armed → lastAbout uri sent =
      some ⟨uri, (lintFile rules (pathOfUri uri) d.content).map (Session.problemOf (splitLines d.content))⟩) ∧
      (∀ uri ∈ s.armed, (s.docs.get? uri).isSome) ∧
      ∀ uri, s.docs.get? uri = none → ∀ p, lastAbout uri sent = some p → p = ⟨uri, []⟩ := by
  intro s sent
  have hfresh : ∀ uri, Fresh uri s sent := fun uri => fresh_run events he (fresh_new rules limits uri)
  refine ⟨?_, fun uri => (hfresh uri).isOpen, fun uri => (hfresh uri).closed⟩
  intro uri d hget hquiet
  have hrules : s.rules = rules := rules_run (Session.new rules limits) events
  rw [(hfresh uri).quiet d hget hquiet, Session.publication, hrules, Store.uri_of_get? hget]

/-- A document is opened again while its timer is armed, one is opened by a change and closed, and one by a change whose
timer has not fired. -/
theorem fresh_after_reopening :
    let a := Text.ofString "file:///a.c"
    let b := Text.ofString "file:///b.c"
    let c := Text.ofString "file:///c.c"
    let events := [Event.request (.didOpen ⟨a, 1, "x"⟩), .request (.didChange a 2 ["y", "z"]),
      .request (.didOpen ⟨a, 3, "goto end;\n"⟩), .request (.didChange b 1 ["goto end;\n"]), .firing a, .firing b,
      .request (.didClose b), .request (.didChange c 1 ["goto end;\n"])]
    let s := ((Session.new [Rule.goto] {}).run events).1
    let sent := ((Session.new [Rule.goto] {}).run events).2
    (∀ e ∈ events, e ≠ .request .shutdown) ∧
      lastAbout a sent = some ⟨a, [⟨⟨⟨0, 0⟩, ⟨0, 9⟩⟩, 1, "goto", "Goto statement unauthorized"⟩]⟩ ∧
      lastAbout b sent = some ⟨b, []⟩ ∧ (s.docs.get? c).isSome := by
  intro a b c events s sent
  have he : ∀ e ∈ events, e ≠ .request .shutdown := by simp [events]
  obtain ⟨hquiet, harmed, hclosed⟩ := fresh_when_quiet [Rule.goto] {} events he
  have hproblems : (lintFile [Rule.goto] (pathOfUri a) "goto end;\n").map
      (Session.problemOf (splitLines "goto end;\n")) =
      [⟨⟨⟨0, 0⟩, ⟨0, 9⟩⟩, 1, "goto", "Goto statement unauthorized"⟩] := by decide +kernel
  refine ⟨he, ?_, ?_, harmed c (by decide +kernel)⟩
  · rw [← hproblems]
    exact hquiet a ⟨a, 3, "goto end;\n"⟩ (by decide +kernel) (by decide +kernel)
  · obtain ⟨p, hp⟩ : ∃ p, lastAbout b sent = some p := Option.isSome_iff_exists.mp (by decide +kernel)
    exact hp.trans (congrArg some (hclosed b (by decide +kernel) p hp))

end HouseStyle.Server
