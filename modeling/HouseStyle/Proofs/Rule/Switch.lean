import HouseStyle.Proofs.Rule.Scan
import HouseStyle.Rule.Switch

/-!
# Nested switches

A listing is a list of plain lines, blocks between lone braces and `switch` statements, nested to any depth; in the body
of a `switch` also labels stand (`Listing`). The rule about `default` labels follows one `switch` at a time: a `switch`
inside another takes its place, and when it closes, none is followed.

* Each kind of line moves the scan in one way (`step_other`, `step_head`, `step_opening`, `step_closing_*`).
* **A listing without a `switch` leaves the scan where it stands**, but for the `default` labels that it meets; **after a
  listing with a `switch` nothing is followed** (`reads_listing`).

Hence the rule reports the innermost switches that have no `default` label, in the order of lines, and it reports every
`switch` without such a label exactly if none of them holds another `switch` (`verify_listing`).
-/

namespace HouseStyle

namespace Line

/-- The line begins a `switch`. -/
def isSwitch (line : Text) : Bool := line.trimLeft.startsWith "switch ("

/-- A line without braces that neither begins a `switch` nor is a `default` label. -/
def IsPlain (line : Text) : Prop := Braceless line ∧ isSwitch line = false ∧ isDefault line = false

/-- A line without braces that begins a `switch`. -/
def IsHead (line : Text) : Prop := Braceless line ∧ isSwitch line = true

/-- A line without braces that is a label. -/
def IsArm (line : Text) : Prop := Braceless line ∧ isLabel line = true

instance (line : Text) : Decidable (IsPlain line) := inferInstanceAs (Decidable (_ ∧ _ ∧ _))

instance (line : Text) : Decidable (IsHead line) := inferInstanceAs (Decidable (_ ∧ _))

instance (line : Text) : Decidable (IsArm line) := inferInstanceAs (Decidable (_ ∧ _))

theorem lead_of_isSwitch {line : Text} (h : isSwitch line) : lead line = some (Text.byte 's') := by
  obtain ⟨rest, hrest⟩ := List.isPrefixOf_iff_prefix.mp h
  rw [lead, ← hrest]
  rfl

theorem lead_of_isDefault {line : Text} (h : isDefault line) : lead line = some (Text.byte 'd') :=
  lead_of_beginsWith rfl h

theorem not_isSwitch_of_lead {line : Text} {b : UInt8} (h : lead line = some b) (hb : b ≠ Text.byte 's') :
    isSwitch line = false := by
  rw [← Bool.not_eq_true]
  intro hs
  rw [lead_of_isSwitch hs] at h
  exact hb (Option.some.inj h).symm

theorem not_isDefault_of_lead {line : Text} {b : UInt8} (h : lead line = some b) (hb : b ≠ Text.byte 'd') :
    isDefault line = false := by
  rw [← Bool.not_eq_true]
  intro hd
  rw [lead_of_isDefault hd] at h
  exact hb (Option.some.inj h).symm

/-- A line that begins with neither of these letters neither begins a `switch` nor is a `default` label. -/
theorem eq_false_of_lead {line : Text} {b : UInt8} (h : lead line = some b)
    (hb : b ≠ Text.byte 's' ∧ b ≠ Text.byte 'd') : isSwitch line = false ∧ isDefault line = false :=
  ⟨not_isSwitch_of_lead h hb.1, not_isDefault_of_lead h hb.2⟩

theorem IsArm.isSwitch {line : Text} (h : IsArm line) : Line.isSwitch line = false := by
  obtain ⟨b, hb, hlead⟩ := lead_of_isLabel h.2
  refine not_isSwitch_of_lead hlead ?_
  rintro rfl
  revert hb
  decide

end Line

/-! ## Listings -/

/-- A list of statements; `inSwitch` says whether it is the body of a `switch`, where labels may stand. -/
inductive Listing : (inSwitch : Bool) → Type where
  | done {inSwitch : Bool} : Listing inSwitch
  | plain {inSwitch : Bool} (line : Subtype Line.IsPlain) (rest : Listing inSwitch) : Listing inSwitch
  | label (line : Subtype Line.IsArm) (rest : Listing true) : Listing true
  | block {inSwitch : Bool} (opening : {line // Line.isOpeningBrace line}) (body : Listing false)
      (closing : {line // Line.isLoneClosing line}) (rest : Listing inSwitch) : Listing inSwitch
  | switch {inSwitch : Bool} (head : Subtype Line.IsHead) (opening : {line // Line.isOpeningBrace line})
      (body : Listing true) (closing : {line // Line.isLoneClosing line}) (rest : Listing inSwitch) : Listing inSwitch

namespace Listing

variable {inSwitch : Bool}

/-- The lines of a listing. -/
def lines : {inSwitch : Bool} → Listing inSwitch → List Text
  | _, done => []
  | _, plain line rest => line.1 :: rest.lines
  | _, label line rest => line.1 :: rest.lines
  | _, block opening body closing rest => opening.1 :: (body.lines ++ closing.1 :: rest.lines)
  | _, switch head opening body closing rest => head.1 :: opening.1 :: (body.lines ++ closing.1 :: rest.lines)

/-- A `default` label stands directly in the listing. -/
def hasDefault : {inSwitch : Bool} → Listing inSwitch → Bool
  | _, done => false
  | _, plain _ rest => rest.hasDefault
  | _, label line rest => Line.isDefault line.1 || rest.hasDefault
  | _, block _ _ _ rest => rest.hasDefault
  | _, switch _ _ _ _ rest => rest.hasDefault

/-- A `switch` stands in the listing, at any depth. -/
def holdsSwitch : {inSwitch : Bool} → Listing inSwitch → Bool
  | _, done => false
  | _, plain _ rest => rest.holdsSwitch
  | _, label _ rest => rest.holdsSwitch
  | _, block _ body _ rest => body.holdsSwitch || rest.holdsSwitch
  | _, switch _ _ _ _ _ => true

/-- The numbers of the closing lines of those switches whose body is of a kind; the first line has the number `n`. -/
def closings (kind : Listing true → Bool) : {inSwitch : Bool} → (n : Nat) → Listing inSwitch → List Nat
  | _, _, done => []
  | _, n, plain _ rest => rest.closings kind (n + 1)
  | _, n, label _ rest => rest.closings kind (n + 1)
  | _, n, block _ body _ rest => body.closings kind (n + 1) ++ rest.closings kind (n + 1 + body.lines.length + 1)
  | _, n, switch _ _ body _ rest =>
    body.closings kind (n + 2) ++ ((if kind body then [n + 2 + body.lines.length] else []) ++
      rest.closings kind (n + 2 + body.lines.length + 1))

/-- The `switch` with this body lacks a `default` label. -/
def lacksDefault (body : Listing true) : Bool := !body.hasDefault

/-- The `switch` with this body lacks a `default` label and holds no other `switch`. -/
def isBare (body : Listing true) : Bool := lacksDefault body && !body.holdsSwitch

/-- Outside a `switch` no labels stand. -/
theorem hasDefault_eq_false : ∀ l : Listing false, l.hasDefault = false
  | done => rfl
  | plain _ rest => hasDefault_eq_false rest
  | block _ _ _ rest => hasDefault_eq_false rest
  | switch _ _ _ _ rest => hasDefault_eq_false rest

/-- Switches of a kind are counted by those of a narrower kind and those that it leaves out. -/
theorem length_closings {kind narrow : Listing true → Bool} (h : ∀ body, narrow body → kind body) (n : Nat)
    (l : Listing inSwitch) : (l.closings kind n).length =
      (l.closings narrow n).length + (l.closings (fun body => kind body && !narrow body) n).length := by
  induction l generalizing n with
  | done => rfl
  | plain line rest ih => exact ih (n + 1)
  | label line rest ih => exact ih (n + 1)
  | block opening body closing rest ihb ih =>
    simp only [closings, List.length_append, ihb, ih]
    omega
  | switch head opening body closing rest ihb ih =>
    have hbody : (if kind body then [n + 2 + body.lines.length] else []).length =
        (if narrow body then [n + 2 + body.lines.length] else []).length +
          (if kind body && !narrow body then [n + 2 + body.lines.length] else []).length := by
      have hkind := h body
      cases hn : narrow body <;> cases hk : kind body <;> simp_all
    simp only [closings, List.length_append, ihb, ih, hbody]
    omega

/-- If a narrower kind leaves nothing out, it is the same. -/
theorem closings_congr {kind narrow : Listing true → Bool} (h : ∀ body, narrow body → kind body) (n : Nat)
    (l : Listing inSwitch) (hnone : l.closings (fun body => kind body && !narrow body) n = []) :
    l.closings kind n = l.closings narrow n := by
  induction l generalizing n with
  | done => rfl
  | plain line rest ih => exact ih (n + 1) hnone
  | label line rest ih => exact ih (n + 1) hnone
  | block opening body closing rest ihb ih =>
    simp only [closings, List.append_eq_nil_iff] at hnone
    simp only [closings, ihb _ hnone.1, ih _ hnone.2]
  | switch head opening body closing rest ihb ih =>
    simp only [closings, List.append_eq_nil_iff] at hnone
    have hbody : kind body = narrow body := by
      have hkind := h body
      have hout := hnone.2.1
      cases hn : narrow body <;> cases hk : kind body <;> simp_all
    simp only [closings, ihb _ hnone.1, ih _ hnone.2.2, hbody]

end Listing

namespace Rule

open LineScan

/-! ## Steps -/

/-- The message at the end of a `switch` without a `default` label. -/
def missingDefault : Text := "Missing default case for the switch statement"

section Steps

variable {line : Text} {st : SwitchState × Bool} {found : Bool} {d : Nat}

theorem step_other (hb : Line.Braceless line) (hs : Line.isSwitch line = false) :
    defaultScan.step st line = ((st.1, st.2 || (st.1.inside && Line.isDefault line)), []) := by
  rw [Line.isSwitch] at hs
  obtain ⟨⟨inside, depth⟩, found⟩ := st
  cases inside <;> simp [defaultScan, SwitchState.next, hs, hb.1, hb.2, messagesWhere]

theorem step_head (h : Line.IsHead line) : defaultScan.step st line = ((⟨true, 0⟩, false), []) := by
  have hswitch : line.trimLeft.startsWith "switch (" = true := h.2
  have hdefault := Line.not_isDefault_of_lead (Line.lead_of_isSwitch h.2) (by decide)
  simp [defaultScan, SwitchState.next, hswitch, h.1.1, h.1.2, hdefault, messagesWhere]

theorem step_opening (h : Line.isOpeningBrace line) :
    defaultScan.step st line = ((if st.1.inside then ⟨true, st.1.depth + 1⟩ else st.1, st.2), []) := by
  obtain ⟨hswitch, hdefault⟩ := Line.eq_false_of_lead (Line.lead_of_isOpeningBrace h) (by decide)
  rw [Line.isSwitch] at hswitch
  obtain ⟨hb, hb'⟩ := Line.has_opening h
  obtain ⟨⟨inside, depth⟩, found⟩ := st
  cases inside <;> simp [defaultScan, SwitchState.next, hswitch, hb, hb', hdefault, messagesWhere]

variable (h : Line.isLoneClosing line)
include h

theorem step_closing_outside (hst : st.1.inside = false) : defaultScan.step st line = (st, []) := by
  have hswitch := Line.not_isSwitch_of_lead (Line.lead_of_isLoneClosing h) (by decide)
  rw [Line.isSwitch] at hswitch
  simp [defaultScan, SwitchState.next, hswitch, hst, messagesWhere]

/-- A brace that closes a block in a `switch`. -/
theorem step_closing_block : defaultScan.step (⟨true, d + 2⟩, found) line = ((⟨true, d + 1⟩, found), []) := by
  obtain ⟨hswitch, hdefault⟩ := Line.eq_false_of_lead (Line.lead_of_isLoneClosing h) (by decide)
  rw [Line.isSwitch] at hswitch
  obtain ⟨hb, hb'⟩ := Line.has_closing h
  simp [defaultScan, SwitchState.next, hswitch, hb, hb', hdefault, messagesWhere]

/-- The brace that closes a `switch`. -/
theorem step_closing_switch : defaultScan.step (⟨true, 1⟩, found) line =
    ((⟨false, 0⟩, found), if found then [] else [missingDefault]) := by
  obtain ⟨hswitch, hdefault⟩ := Line.eq_false_of_lead (Line.lead_of_isLoneClosing h) (by decide)
  rw [Line.isSwitch] at hswitch
  obtain ⟨hb, hb'⟩ := Line.has_closing h
  cases found <;> simp [defaultScan, SwitchState.next, hswitch, hb, hb', hdefault, messagesWhere, missingDefault]

end Steps

/-! ## Runs -/

/-- The finding at the closing line of a `switch`. -/
def missingAt (n : Nat) : Finding := { line := n, message := missingDefault }

/-- Where the scan stands after a listing: outside every `switch` if it met one, and else where it stood, with the labels
that it met. -/
def Leaves {inSwitch : Bool} (l : Listing inSwitch) (st st' : SwitchState × Bool) : Prop :=
  if l.holdsSwitch then st'.1.inside = false else st' = (st.1, st.2 || (st.1.inside && l.hasDefault))

section Runs

variable {inSwitch : Bool} {line : Text} {st st' : SwitchState × Bool}

/-- Where nothing is followed before a listing, nothing is followed after it. -/
theorem Leaves.outside {l : Listing inSwitch} (h : Leaves l st st') (hst : st.1.inside = false) :
    st'.1.inside = false := by
  rw [Leaves] at h
  split at h
  · exact h
  · rw [h]
    exact hst

/-- The closing brace of a block brings the scan back to where it stood before the block, unless the block held a
`switch`. -/
theorem closes_block {body : Listing false} (hline : Line.isLoneClosing line) (hst : st.1.inside → 0 < st.1.depth)
    (h : Leaves body (if st.1.inside then ⟨true, st.1.depth + 1⟩ else st.1, st.2) st') :
    ∃ st'', defaultScan.step st' line = (st'', []) ∧ if body.holdsSwitch then st''.1.inside = false else st'' = st := by
  rw [Leaves, body.hasDefault_eq_false, Bool.and_false, Bool.or_false] at h
  cases hholds : body.holdsSwitch with
  | true =>
    rw [hholds, if_pos rfl] at h
    exact ⟨st', step_closing_outside hline h, h⟩
  | false =>
    rw [hholds, if_neg Bool.false_ne_true] at h
    refine ⟨st, ?_, rfl⟩
    obtain ⟨⟨inside, depth⟩, found⟩ := st
    cases inside with
    | false =>
      rw [h]
      exact step_closing_outside hline rfl
    | true =>
      obtain ⟨d, rfl⟩ := Nat.exists_eq_succ_of_ne_zero (Nat.pos_iff_ne_zero.mp (hst rfl))
      rw [h]
      exact step_closing_block hline

/-- The closing brace of a `switch` is where it is judged, unless it held another. -/
theorem closes_switch {body : Listing true} (hline : Line.isLoneClosing line) (h : Leaves body (⟨true, 1⟩, false) st') :
    ∃ st'', defaultScan.step st' line = (st'', if body.isBare then [missingDefault] else []) ∧
      st''.1.inside = false := by
  rw [Leaves] at h
  rw [Listing.isBare, Listing.lacksDefault]
  cases hholds : body.holdsSwitch with
  | true =>
    rw [hholds, if_pos rfl] at h
    rw [Bool.not_true, Bool.and_false]
    exact ⟨st', step_closing_outside hline h, h⟩
  | false =>
    rw [hholds, if_neg Bool.false_ne_true, Bool.false_or, Bool.true_and] at h
    refine ⟨(⟨false, 0⟩, body.hasDefault), ?_, rfl⟩
    rw [h, step_closing_switch hline]
    cases body.hasDefault <;> rfl

/-- **What the scan finds in a listing, and where it stands after it.** -/
theorem reads_listing (l : Listing inSwitch) (st : SwitchState × Bool) (n : Nat)
    (hst : st.1.inside → 0 < st.1.depth) :
    ∃ st', defaultScan.Reads st n l.lines ((l.closings Listing.isBare n).map missingAt) st' ∧ Leaves l st st' := by
  induction l generalizing st n with
  | done => exact ⟨st, .nil, by simp [Leaves, Listing.holdsSwitch, Listing.hasDefault]⟩
  | plain line rest ih =>
    obtain ⟨st', hreads, hleaves⟩ := ih st (n + 1) hst
    have hstep : defaultScan.step st line.1 = _ := step_other line.2.1 line.2.2.1
    rw [line.2.2.2, Bool.and_false, Bool.or_false] at hstep
    exact ⟨st', .quiet hstep hreads, hleaves⟩
  | label line rest ih =>
    have hstep : defaultScan.step st line.1 = _ := step_other line.2.1 line.2.isSwitch
    obtain ⟨st', hreads, hleaves⟩ := ih (st.1, st.2 || (st.1.inside && Line.isDefault line.1)) (n + 1) hst
    refine ⟨st', .quiet hstep hreads, ?_⟩
    simp only [Leaves, Listing.holdsSwitch, Listing.hasDefault, Bool.and_or_distrib_left, Bool.or_assoc] at hleaves ⊢
    exact hleaves
  | block opening body closing rest ihb ih =>
    have hopen : defaultScan.step st opening.1 = _ := step_opening opening.2
    obtain ⟨st₁, hbody, hleaves₁⟩ := ihb (if st.1.inside then ⟨true, st.1.depth + 1⟩ else st.1, st.2) (n + 1) (by
      dsimp only
      split
      · exact fun _ => Nat.succ_pos _
      · exact hst)
    obtain ⟨st₂, hclose, hafter⟩ := closes_block closing.2 hst hleaves₁
    have hst₂ : st₂.1.inside → 0 < st₂.1.depth := by
      split at hafter
      · simp [hafter]
      · exact hafter ▸ hst
    obtain ⟨st₃, hrest, hleaves₃⟩ := ih st₂ (n + 1 + body.lines.length + 1) hst₂
    have hreads := LineScan.Reads.quiet hopen (hbody.append (.quiet hclose hrest))
    rw [← List.map_append] at hreads
    refine ⟨st₃, hreads, ?_⟩
    cases hholds : body.holdsSwitch with
    | true =>
      rw [hholds, if_pos rfl] at hafter
      simpa [Leaves, Listing.holdsSwitch, hholds] using hleaves₃.outside hafter
    | false =>
      rw [hholds, if_neg Bool.false_ne_true] at hafter
      simpa [Leaves, Listing.holdsSwitch, Listing.hasDefault, hholds, hafter] using hleaves₃
  | switch head opening body closing rest ihb ih =>
    have hhead : defaultScan.step st head.1 = _ := step_head head.2
    have hopen : defaultScan.step (⟨true, 0⟩, false) opening.1 = _ := step_opening opening.2
    obtain ⟨st₁, hbody, hleaves₁⟩ := ihb (⟨true, 1⟩, false) (n + 2) fun _ => Nat.one_pos
    obtain ⟨st₂, hclose, hout⟩ := closes_switch closing.2 hleaves₁
    obtain ⟨st₃, hrest, hleaves₃⟩ := ih st₂ (n + 2 + body.lines.length + 1) (by simp [hout])
    have hreads := LineScan.Reads.quiet hhead (.quiet hopen (hbody.append (.cons hclose hrest)))
    refine ⟨st₃, ?_, by simpa [Leaves, Listing.holdsSwitch] using hleaves₃.outside hout⟩
    have hfound : LineScan.findingsAt (n + 2 + body.lines.length) (if body.isBare then [missingDefault] else []) =
        (if body.isBare then [n + 2 + body.lines.length] else []).map missingAt := by
      cases body.isBare <;> rfl
    rw [hfound, ← List.map_append, ← List.map_append] at hreads
    exact hreads

end Runs

/-- The diagnostic at the closing line of a `switch`. -/
def missingDefaultAt (name : Text) (n : Nat) : Diagnostic :=
  ⟨⟨name, n, 0⟩, missingDefault, "switch-default-case", .error, []⟩

theorem verify_eq_bare (name : Text) (l : Listing false) :
    switchDefaultCase.verify ⟨name, l.lines⟩ = (l.closings Listing.isBare 1).map (missingDefaultAt name) := by
  obtain ⟨st, hreads, _⟩ := reads_listing l defaultScan.start 1 (by simp [defaultScan])
  have hrun : switchDefaultCase.run ⟨name, l.lines⟩ = (l.closings Listing.isBare 1).map missingAt :=
    hreads.run rfl
  rw [verify, hrun, List.map_map]
  rfl

/-- **The rule reports the innermost switches that lack a `default` label**, each on its closing line and in the order of
lines. Hence it reports every `switch` that lacks one exactly if none of these holds another `switch`. -/
theorem verify_listing (name : Text) (l : Listing false) :
    switchDefaultCase.verify ⟨name, l.lines⟩ = (l.closings Listing.isBare 1).map (missingDefaultAt name) ∧
      (switchDefaultCase.verify ⟨name, l.lines⟩ = (l.closings Listing.lacksDefault 1).map (missingDefaultAt name) ↔
        l.closings (fun body => body.lacksDefault && body.holdsSwitch) 1 = []) := by
  have hnarrow : ∀ body : Listing true, body.isBare → body.lacksDefault := by
    intro body h
    exact (Bool.and_eq_true _ _ ▸ h).1
  have hout : (fun body : Listing true => body.lacksDefault && body.holdsSwitch) =
      fun body => body.lacksDefault && !body.isBare := by
    funext body
    cases h : body.lacksDefault <;> simp [Listing.isBare, h]
  refine ⟨verify_eq_bare name l, ?_⟩
  rw [verify_eq_bare, hout]
  constructor
  · intro h
    have hlen := congrArg List.length h
    rw [List.length_map, List.length_map, Listing.length_closings hnarrow] at hlen
    exact List.eq_nil_of_length_eq_zero (by omega)
  · intro h
    rw [Listing.closings_congr hnarrow 1 l h]

/-- A `switch` without a `default` label around one that has it. -/
def nestedSwitches : Listing false :=
  .switch ⟨"switch (a)", by decide +kernel⟩ ⟨"\x7b", Line.isOpeningBrace_brace⟩
    (.label ⟨"case A:", by decide +kernel⟩
      (.switch ⟨"switch (b)", by decide +kernel⟩ ⟨"\x7b", Line.isOpeningBrace_brace⟩
        (.label ⟨"default:", by decide +kernel⟩ (.plain ⟨"break;", by decide +kernel⟩ .done))
        ⟨"\x7d", Line.isLoneClosing_brace⟩
        (.plain ⟨"break;", by decide +kernel⟩ .done)))
    ⟨"\x7d", Line.isLoneClosing_brace⟩ .done

/-- The outer `switch` is never judged. -/
theorem nested_switch_hides_outer :
    nestedSwitches.closings Listing.lacksDefault 1 = [10] ∧
      switchDefaultCase.verify ⟨"a.c", nestedSwitches.lines⟩ = [] := by
  decide +kernel

end Rule

end HouseStyle
