import HouseStyle.Proofs.Json.Strings
import HouseStyle.Proofs.Server.QuickFix
import HouseStyle.Server.Exchange

/-!
# Documents received in messages

The header of a message cannot tell a length beyond thirty-two bits, so a document that arrives in a message has no more
UTF-16 units than a number in a message can count (`Sized`). Every request keeps this (`handle_sized`), and hence every
exchange (`after_sized`): **the places in an open document can be told in messages without loss**
(`fits_of_received`), so that quick fixes reach the ends of all its lines (`shows_of_received`).
-/

namespace HouseStyle.Server

open Json (Holds)

/-! ## Requests -/

/-- The documents of the session have places that messages can tell. -/
def Session.Sized (s : Session) : Prop := ∀ d ∈ s.docs, units16 d.content ≤ maxNumber

/-- The contents that a request brings have places that messages can tell. -/
def Request.Sized : Request → Prop
  | .didOpen d => units16 d.content ≤ maxNumber
  | .didChange _ _ changes => ∀ c ∈ changes, units16 c ≤ maxNumber
  | _ => True

variable {s : Session} {r : Request} {j : Json}

theorem put_sized {docs : Store} {d : Document} (hdocs : ∀ d ∈ docs, units16 d.content ≤ maxNumber)
    (hd : units16 d.content ≤ maxNumber) : ∀ d' ∈ docs.put d, units16 d'.content ≤ maxNumber := by
  intro d' hd'
  rcases List.mem_append.mp hd' with hd' | hd'
  · exact hdocs d' (List.mem_of_mem_filter hd')
  · exact List.mem_singleton.mp hd' ▸ hd

theorem changedContent_sized {changes : List Text} (h : ∀ c ∈ changes, units16 c ≤ maxNumber) :
    units16 (Session.changedContent changes) ≤ maxNumber := by
  unfold Session.changedContent
  cases hlast : changes.getLast? with
  | none => exact Nat.zero_le _
  | some c => exact h c (List.mem_of_getLast? hlast)

/-- **A request keeps the documents sized** if it brings such contents only. -/
theorem handle_sized (hs : s.Sized) (hr : r.Sized) : (s.handle r).session.Sized := by
  cases r with
  | didOpen d => exact put_sized hs hr
  | didChange uri version changes => exact put_sized hs (changedContent_sized hr)
  | didClose uri => exact fun d hd => hs d (List.mem_of_mem_filter hd)
  | start rootUri rootPath =>
    obtain ⟨_, _, hbegin⟩ := s.connect.begin_eq rootUri rootPath
    intro d hd
    rw [Session.handle, hbegin] at hd
    exact hs d hd
  | _ => exact hs

/-! ## Reading requests -/

namespace Message

theorem holds_object? {P : Text → Prop} {j' : Json} (h : Holds P j) (hj : object? j = some j') : Holds P j' := by
  cases h with
  | null =>
    cases hj
    exact .object (by simp)
  | object hmembers =>
    cases hj
    exact .object hmembers
  | _ => cases hj

theorem text?_sized {n : Nat} {t : Text} (h : Holds (units16 · ≤ n) j) (ht : text? j = some t) : units16 t ≤ n := by
  cases h with
  | null =>
    cases ht
    exact Nat.zero_le _
  | string hle =>
    cases ht
    exact hle
  | _ => cases ht

theorem didOpen?_sized (h : Holds (units16 · ≤ maxNumber) j) (hr : didOpen? j = some r) : r.Sized := by
  simp only [didOpen?, Option.bind_eq_bind, Option.bind_eq_some_iff, Option.pure_def, Option.some.injEq] at hr
  obtain ⟨j₁, hj₁, doc, hdoc, _, _, uri, _, version, _, text, htext, rfl⟩ := hr
  exact text?_sized ((holds_object? ((holds_object? h hj₁).get _) hdoc).get _) htext

theorem change?_sized {t : Text} (h : Holds (units16 · ≤ maxNumber) j) (ht : change? j = some t) :
    units16 t ≤ maxNumber := by
  simp only [change?, Option.bind_eq_bind, Option.bind_eq_some_iff] at ht
  obtain ⟨j₁, hj₁, _, _, _, _, htext⟩ := ht
  exact text?_sized ((holds_object? h hj₁).get _) htext

/-- What the items of a list are read as. -/
theorem list?_forall {α : Type} {read : Json → Option α} {P : Text → Prop} {Q : α → Prop}
    (hread : ∀ {j a}, Holds P j → read j = some a → Q a) (h : Holds P j) {as : List α} (has : list? read j = some as) :
    ∀ a ∈ as, Q a := by
  have hmap : ∀ (items : List Json) {as : List α}, (∀ j ∈ items, Holds P j) → items.mapM read = some as →
      ∀ a ∈ as, Q a := by
    intro items
    induction items with
    | nil =>
      intro as _ has
      cases has
      simp
    | cons j items ih =>
      intro as hitems has
      rw [List.forall_mem_cons] at hitems
      simp only [List.mapM_cons, Option.bind_eq_bind, Option.bind_eq_some_iff, Option.pure_def,
        Option.some.injEq] at has
      obtain ⟨a, ha, rest, hrest, rfl⟩ := has
      exact List.forall_mem_cons.mpr ⟨hread hitems.1 ha, ih hitems.2 hrest⟩
  cases h with
  | null =>
    cases has
    simp
  | array hitems => exact hmap _ hitems has
  | _ => cases has

theorem didChange?_sized (h : Holds (units16 · ≤ maxNumber) j) (hr : didChange? j = some r) : r.Sized := by
  simp only [didChange?, Option.bind_eq_bind, Option.bind_eq_some_iff, Option.pure_def, Option.some.injEq] at hr
  obtain ⟨j₁, hj₁, doc, _, uri, _, version, _, changes, hchanges, rfl⟩ := hr
  exact list?_forall change?_sized ((holds_object? h hj₁).get _) hchanges

/-- **A request that is read brings contents no longer than what it is read from.** -/
theorem reader?_sized {method : Text} {read : Json → Option Request} (hread : reader? method = some read)
    (h : Holds (units16 · ≤ maxNumber) j) (hr : read j = some r) : r.Sized := by
  obtain ⟨⟨name, read'⟩, hfind, rfl⟩ := Option.map_eq_some_iff.mp hread
  have hmem := List.mem_of_find?_eq_some hfind
  clear hread hfind
  simp only [List.mem_cons, List.not_mem_nil, or_false, Prod.mk.injEq] at hmem
  -- All readers but the two that bring contents build requests without any.
  rcases hmem with ⟨_, rfl⟩ | ⟨_, rfl⟩ | ⟨_, rfl⟩ | ⟨_, rfl⟩ | ⟨_, rfl⟩ | ⟨_, rfl⟩ | ⟨_, rfl⟩ | ⟨_, rfl⟩ | ⟨_, rfl⟩ |
    ⟨_, rfl⟩ | ⟨_, rfl⟩
  case inr.inr.inr.inr.inl => exact didOpen?_sized h hr
  case inr.inr.inr.inr.inr.inl => exact didChange?_sized h hr
  all_goals
    simp only [start?, formatting?, quickFixes?, Option.bind_eq_bind, Option.bind_eq_some_iff, Option.map_eq_some_iff,
      Option.pure_def, Option.some.injEq] at hr
  · obtain ⟨_, _, _, _, _, _, _, _, _, _, _, _, _, _, _, _, _, _, rfl⟩ := hr
    trivial
  · exact hr ▸ trivial
  · exact hr ▸ trivial
  · obtain ⟨_, _, _, _, rfl⟩ := hr
    trivial
  · obtain ⟨_, _, _, _, rfl⟩ := hr
    trivial
  · obtain ⟨_, _, rfl⟩ := hr
    trivial
  · obtain ⟨_, _, _, _, rfl⟩ := hr
    trivial
  · obtain ⟨_, _, rfl⟩ := hr
    trivial
  · obtain ⟨_, _, _, _, _, _, _, _, _, _, rfl⟩ := hr
    trivial

theorem receive_sized (hs : s.Sized) (hr : r.Sized) : (s.receive r).session.Sized := by
  unfold Session.receive
  split
  · exact handle_sized hs hr
  · exact hs

theorem dispatch_sized {method : Text} {params : Option Json} (hs : s.Sized)
    (hparams : ∀ j, params = some j → Holds (units16 · ≤ maxNumber) j) : (dispatch s method params).1.Sized := by
  unfold dispatch
  split
  · exact hs
  split
  · exact hs
  next read hread =>
  dsimp only
  split
  · exact hs
  next r hr =>
  have hsized : r.Sized := by
    split at hr
    · next j => exact reader?_sized hread (hparams j rfl) hr
    · split at hr
      · exact reader?_sized hread .null hr
      · cases hr
  exact receive_sized hs hsized

end Message

/-! ## Exchanges -/

namespace Exchange

/-- **A message that is taken keeps the documents sized** if its strings are. -/
theorem take_sized {s' : Session} {sent : List Json} (hs : s.Sized) (h : Holds (units16 · ≤ maxNumber) j)
    (htake : take s j = (some s', sent)) : s'.Sized := by
  unfold take at htake
  split at htake
  · cases htake
  · split at htake
    · cases htake
    · cases htake
      exact Message.dispatch_sized hs fun _ hparams => h.get? hparams
  · cases htake
    exact hs

/-- The session after some messages, unless the exchange has ended. -/
def after (s : Session) : List Text → Option Session
  | [] => some s
  | body :: rest => (Json.parse? body).bind fun message => (take s message).1.bind fun s => after s rest

/-- The session after some messages answers those that follow. -/
theorem run_append {s' : Session} : ∀ {s : Session} {bodies : List Text}, after s bodies = some s' →
    ∃ sent, ∀ rest, run s (bodies ++ rest) = sent ++ run s' rest
  | s, [], h => by
    cases h
    exact ⟨[], fun rest => rfl⟩
  | s, body :: bodies, h => by
    obtain ⟨message, hparse, h⟩ := Option.bind_eq_some_iff.mp h
    obtain ⟨s₁, htake, h⟩ := Option.bind_eq_some_iff.mp h
    obtain ⟨sent, hsent⟩ := run_append h
    refine ⟨(take s message).2 ++ sent, fun rest => ?_⟩
    rw [List.cons_append, run, hparse]
    dsimp only
    split
    · next s₂ sent₂ heq =>
      rw [heq] at htake ⊢
      cases htake
      rw [hsent, List.append_assoc]
    · next sent₂ heq =>
      rw [heq] at htake
      cases htake

/-- **An exchange keeps the documents sized** if no message is longer than its header can tell. -/
theorem after_sized {s' : Session} : ∀ {s : Session} {bodies : List Text}, s.Sized →
    (∀ body ∈ bodies, body.length ≤ maxNumber) → after s bodies = some s' → s'.Sized
  | s, [], hs, _, h => by
    cases h
    exact hs
  | s, body :: bodies, hs, hlen, h => by
    rw [List.forall_mem_cons] at hlen
    obtain ⟨message, hparse, h⟩ := Option.bind_eq_some_iff.mp h
    obtain ⟨s₁, htake, h⟩ := Option.bind_eq_some_iff.mp h
    have hholds := (Json.holds_of_parse? hparse).mono fun t ht => ht.trans hlen.1
    exact after_sized (take_sized hs hholds (Prod.ext htake rfl)) hlen.2 h

end Exchange

/-! ## Frames -/

namespace Frame

theorem lengthAfter?_lt {length n : Nat} {line : Text} (h : lengthAfter? length line = some n)
    (hlength : length < lengthBound) : n < lengthBound := by
  unfold lengthAfter? at h
  split at h
  · cases h
    exact hlength
  · dsimp only at h
    split at h
    · next hdigits =>
      cases h
      simp only [Bool.and_eq_true, decide_eq_true_eq] at hdigits
      exact hdigits.2
    · cases h

theorem readHeader_lt {line t rest : Text} {length n : Nat} (h : readHeader line length t = some (n, rest))
    (hlength : length < lengthBound) : n < lengthBound := by
  fun_induction readHeader line length t with
  | case4 =>
    cases h
    exact hlength
  | case6 _ _ _ _ _ _ _ hafter ih => exact ih h (lengthAfter?_lt hafter hlength)
  | case7 _ _ _ _ _ ih => exact ih h hlength
  | _ => cases h

/-- A message is not longer than a number in a message can be. -/
theorem length_of_mem_decode {input body : Text} (h : body ∈ decode input) : body.length ≤ maxNumber := by
  fun_induction decode input with
  | case1 => cases h
  | case2 => cases h
  | case3 t n rest hheader ih =>
    rcases List.mem_cons.mp h with rfl | h
    · have hlt := readHeader_lt hheader (by decide)
      rw [List.length_take]
      have hbound : lengthBound = maxNumber + 1 := rfl
      omega
    · exact ih h

end Frame

/-! ## Open documents -/

section Documents

variable {rules : List Rule} {limits : Limits} {input : Text} {bodies : List Text} {doc : Document} {i : Nat}
  {line : Text}

/-- **The places in an open document can be told in messages.** Let a session that began without documents have taken
some of the messages of its input. The lines of a document that is open then have numbers and lengths that messages can
hold. -/
theorem fits_of_received (hbodies : bodies <+: Frame.decode input)
    (hs : Exchange.after (Session.new rules limits) bodies = some s) (hdoc : doc ∈ s.docs)
    (hline : (splitLines doc.content)[i]? = some line) : i ≤ maxNumber ∧ units16 line ≤ maxNumber := by
  have hnew : (Session.new rules limits).Sized := fun d hd => by cases hd
  have hlen : ∀ body ∈ bodies, body.length ≤ maxNumber :=
    fun body hbody => Frame.length_of_mem_decode (hbodies.subset hbody)
  exact fits_of_units16_le (Exchange.after_sized hnew hlen hs doc hdoc) hline

/-- Such a session shows every diagnostic of an open document that is about a line with something on it. -/
theorem shows_of_received {d : Diagnostic} (hbodies : bodies <+: Frame.decode input)
    (hs : Exchange.after (Session.new rules limits) bodies = some s) (hopen : s.docs.get? doc.uri = some doc)
    (hreported : d ∈ lintFile s.rules (pathOfUri doc.uri) doc.content) (hposition : d.pos.line = i + 1)
    (hline : (splitLines doc.content)[i]? = some line) (hne : line ≠ []) : Shows s doc d i line :=
  ⟨hopen, hreported, hposition, hline, hne,
    fits_of_received hbodies hs (List.mem_of_find?_eq_some hopen) hline⟩

end Documents

end HouseStyle.Server
