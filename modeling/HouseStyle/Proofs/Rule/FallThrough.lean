import HouseStyle.Proofs.Rule.Switch
import HouseStyle.Proofs.Text.Pieces

/-!
# Cases that fall through

The rule about the ends of cases follows one `switch` at a time by counting the lines with braces, and remembers whether
a `break` or a `return` has been met since the last label. What it reports is read off the lines of the file by their
places, counted from zero:

* `Follows lines i k`: the `switch` that line `i` begins is the latest before line `k`, and its brace count has not
  returned to zero before line `k`;
* `Spans lines i c`: it closes at line `c`, which begins with a closing brace;
* `FallsInto lines i k`: a label of it stands before line `k`, and no `break` or `return` between the last such label
  and line `k`.

**Before each line the rule stands where these say** (`Tracks`, kept by one step in `Tracks.step`), for every file. In a
file whose switches do not nest and all close (`IsFlat`) it therefore **reports exactly the labels and closing lines that
a case falls into** (`switchEnd_reports_fallThroughs`).
-/

namespace HouseStyle

namespace Line

/-- The line ends a case: it begins with `break` or `return`. -/
def isExit (line : Text) : Bool := beginsWith line "break" || beginsWith line "return"

/-- The line begins with a closing brace. -/
def startsWithClosing (line : Text) : Bool := line.trimLeft.startsWith "\x7d"

/-- A count of braces with the opening brace of a line, if it holds one. -/
def raised (count : Nat) (line : Text) : Nat := if line.has '{' then count + 1 else count

/-- A count of braces after a line: one more if it holds an opening brace, then one less if it holds a closing brace, but
never below zero. -/
def counted (count : Nat) (line : Text) : Nat := if line.has '}' then raised count line - 1 else raised count line

/-- The line takes a count of braces back to zero. -/
def returnsToZero (count : Nat) (line : Text) : Bool := line.has '}' && raised count line == 1

variable {line : Text}

theorem lead_of_startsWithClosing (h : startsWithClosing line) : lead line = some (Text.byte '}') :=
  Text.startsWith_singleton.mp h

theorem not_isLabel_of_lead {b : UInt8} (h : lead line = some b) (hb : b ≠ Text.byte 'c' ∧ b ≠ Text.byte 'd') :
    isLabel line = false := by
  rw [← Bool.not_eq_true]
  intro hlabel
  obtain ⟨c, hc, hlead⟩ := lead_of_isLabel hlabel
  obtain rfl := Option.some.inj (h.symm.trans hlead)
  simp [hb.1, hb.2] at hc

theorem not_isExit_of_isLabel (h : isLabel line) : isExit line = false := by
  have hends : endsCase line none = isExit line := by simp [endsCase, isExit]
  rw [← Bool.not_eq_true]
  intro hexit
  obtain ⟨b, hb, hlead⟩ := lead_of_endsCase (hends.trans hexit)
  have hother : b ≠ Text.byte 'c' ∧ b ≠ Text.byte 'd' := by
    simp only [List.mem_cons, List.not_mem_nil, or_false] at hb
    rcases hb with rfl | rfl <;> decide
  rw [not_isLabel_of_lead hlead hother] at h
  cases h

end Line

namespace Switch

/-! ## Places -/

section Places

variable (lines : List Text)

/-- Line `k` is of a kind. -/
def lineIs (kind : Text → Bool) (k : Nat) : Bool := lines[k]?.any kind

/-- The count of braces before line `k`, if counting begins with line `i`. -/
def braceCount (i k : Nat) : Nat := ((lines.take k).drop i).foldl Line.counted 0

/-- The count of braces that begins with line `i` returns to zero with line `k`. -/
def closesAt (i k : Nat) : Bool := lineIs lines (Line.returnsToZero (braceCount lines i k)) k

/-- Line `i` begins a `switch`, no other begins between it and line `k`, and the count of braces has not returned to zero
before line `k`. -/
structure Follows (i k : Nat) : Prop where
  head : lineIs lines Line.isSwitch i
  lt : i < k
  alone : ∀ j < k, i < j → lineIs lines Line.isSwitch j = false
  unclosed : ∀ j < k, i ≤ j → closesAt lines i j = false

/-- A `switch` reaches from line `i` to line `c`: no other begins between them, the count of braces returns to zero with
line `c` for the first time, and this line begins with a closing brace. -/
structure Spans (i c : Nat) : Prop extends Follows lines i c where
  closes : closesAt lines i c
  brace : lineIs lines Line.startsWithClosing c

/-- Every `switch` of the file closes before another begins. -/
def IsFlat : Prop := ∀ i < lines.length, lineIs lines Line.isSwitch i → ∃ c < lines.length, Spans lines i c

/-- A label stands between lines `i` and `k`, and after the last such label no line before `k` ends the case. -/
def FallsInto (i k : Nat) : Prop :=
  ∃ p < k, i < p ∧ lineIs lines Line.isLabel p ∧
    ∀ j < k, p < j → lineIs lines Line.isLabel j = false ∧ lineIs lines Line.isExit j = false

/-- A case falls into line `k`, which is a label of the same `switch` or the line that closes it. -/
def IsFallThrough (k : Nat) : Prop :=
  ∃ i < k, ∃ c < lines.length, Spans lines i c ∧ (k < c ∧ lineIs lines Line.isLabel k ∨ k = c) ∧ FallsInto lines i k

instance (i k : Nat) : Decidable (Follows lines i k) :=
  decidable_of_iff (lineIs lines Line.isSwitch i ∧ i < k ∧ (∀ j < k, i < j → lineIs lines Line.isSwitch j = false) ∧
      ∀ j < k, i ≤ j → closesAt lines i j = false)
    ⟨fun ⟨head, lt, alone, unclosed⟩ => ⟨head, lt, alone, unclosed⟩, fun h => ⟨h.head, h.lt, h.alone, h.unclosed⟩⟩

instance (i c : Nat) : Decidable (Spans lines i c) :=
  decidable_of_iff (Follows lines i c ∧ closesAt lines i c ∧ lineIs lines Line.startsWithClosing c)
    ⟨fun ⟨follows, closes, brace⟩ => ⟨follows, closes, brace⟩, fun h => ⟨h.toFollows, h.closes, h.brace⟩⟩

instance : Decidable (IsFlat lines) := inferInstanceAs (Decidable (∀ i < lines.length, _ → ∃ c < lines.length, _))

instance (i k : Nat) : Decidable (FallsInto lines i k) := inferInstanceAs (Decidable (∃ p < k, _))

instance (k : Nat) : Decidable (IsFallThrough lines k) := inferInstanceAs (Decidable (∃ i < k, ∃ c < lines.length, _))

end Places

variable {lines : List Text} {line : Text} {i i' k c : Nat} {kind : Text → Bool}

theorem lineIs_of (hk : lines[k]? = some line) : lineIs lines kind k = kind line := by
  rw [lineIs, hk, Option.any_some]

theorem exists_of_lineIs (h : lineIs lines kind k) : ∃ line, lines[k]? = some line ∧ kind line := by
  cases hk : lines[k]? with
  | none =>
    rw [lineIs, hk] at h
    cases h
  | some line => exact ⟨line, rfl, (lineIs_of hk).symm.trans h⟩

theorem braceCount_self (lines : List Text) (k : Nat) : braceCount lines k k = 0 := by
  rw [braceCount, List.drop_eq_nil_of_le (List.length_take_le k lines), List.foldl_nil]

theorem braceCount_succ (hik : i ≤ k) (hk : lines[k]? = some line) :
    braceCount lines i (k + 1) = Line.counted (braceCount lines i k) line := by
  have hlen : i ≤ (lines.take k).length := by
    have := (List.getElem?_eq_some_iff.mp hk).1
    rw [List.length_take]
    omega
  rw [braceCount, List.take_add_one, hk, Option.toList_some, List.drop_append_of_le_length hlen, List.foldl_concat,
    braceCount]

theorem closesAt_of (hk : lines[k]? = some line) :
    closesAt lines i k = Line.returnsToZero (braceCount lines i k) line := lineIs_of hk

/-! ## The `switch` that is followed -/

namespace Follows

/-- At most one `switch` is followed. -/
theorem unique (h : Follows lines i k) (h' : Follows lines i' k) : i = i' := by
  rcases Nat.lt_trichotomy i i' with hlt | heq | hgt
  · have hnone := h.alone i' h'.lt hlt
    rw [h'.head] at hnone
    cases hnone
  · exact heq
  · have hnone := h'.alone i h.lt hgt
    rw [h.head] at hnone
    cases hnone

theorem mono (h : Follows lines i c) (hik : i < k) (hkc : k ≤ c) : Follows lines i k where
  head := h.head
  lt := hik
  alone := fun j hj => h.alone j (Nat.lt_of_lt_of_le hj hkc)
  unclosed := fun j hj => h.unclosed j (Nat.lt_of_lt_of_le hj hkc)

/-- A line that begins a `switch` is followed from there on, unless it closes it. -/
theorem succ_of_isSwitch (hs : lineIs lines Line.isSwitch k = true) :
    Follows lines i (k + 1) ↔ i = k ∧ closesAt lines k k = false := by
  constructor
  · intro h
    rcases Nat.lt_succ_iff_lt_or_eq.mp h.lt with hlt | rfl
    · have hnone := h.alone k (Nat.lt_succ_self k) hlt
      rw [hs] at hnone
      cases hnone
    · exact ⟨rfl, h.unclosed i (Nat.lt_succ_self i) le_rfl⟩
  · rintro ⟨rfl, hclose⟩
    refine ⟨hs, Nat.lt_succ_self i, fun j hj hij => by omega, fun j hj hij => ?_⟩
    obtain rfl : j = i := by omega
    exact hclose

theorem succ_of_not_isSwitch (hs : lineIs lines Line.isSwitch k = false) :
    Follows lines i (k + 1) ↔ Follows lines i k ∧ closesAt lines i k = false := by
  constructor
  · intro h
    have hne : i ≠ k := by
      rintro rfl
      rw [h.head] at hs
      cases hs
    have hlt : i < k := Nat.lt_of_le_of_ne (Nat.le_of_lt_succ h.lt) hne
    exact ⟨h.mono hlt (Nat.le_succ k), h.unclosed k (Nat.lt_succ_self k) (Nat.le_of_lt hlt)⟩
  · rintro ⟨h, hclose⟩
    refine ⟨h.head, Nat.lt_succ_of_lt h.lt, fun j hj hij => ?_, fun j hj hij => ?_⟩
    · rcases Nat.lt_succ_iff_lt_or_eq.mp hj with hlt | rfl
      · exact h.alone j hlt hij
      · exact hs
    · rcases Nat.lt_succ_iff_lt_or_eq.mp hj with hlt | rfl
      · exact h.unclosed j hlt hij
      · exact hclose

end Follows

/-- The first line of a `switch` has no label before it. -/
theorem not_fallsInto_first (lines : List Text) (k : Nat) : ¬FallsInto lines k (k + 1) := by
  rintro ⟨p, hp, hkp, _⟩
  omega

/-- A case falls into the line after a label, and goes on to fall until a line ends it. -/
theorem fallsInto_succ (hik : i < k) : FallsInto lines i (k + 1) ↔ lineIs lines Line.isLabel k ∨
    (FallsInto lines i k ∧ lineIs lines Line.isExit k = false) := by
  constructor
  · rintro ⟨p, hp, hip, hlabel, hnone⟩
    rcases Nat.lt_succ_iff_lt_or_eq.mp hp with hlt | rfl
    · refine .inr ⟨⟨p, hlt, hip, hlabel, fun j hj => hnone j (Nat.lt_succ_of_lt hj)⟩, ?_⟩
      exact (hnone k (Nat.lt_succ_self k) hlt).2
    · exact .inl hlabel
  · intro h
    cases hlabel : lineIs lines Line.isLabel k with
    | true => exact ⟨k, Nat.lt_succ_self k, hik, hlabel, fun j hj hkj => by omega⟩
    | false =>
      obtain ⟨⟨p, hp, hip, hp', hnone⟩, hexit⟩ := h.resolve_left (by simp [hlabel])
      refine ⟨p, Nat.lt_succ_of_lt hp, hip, hp', fun j hj hpj => ?_⟩
      rcases Nat.lt_succ_iff_lt_or_eq.mp hj with hlt | rfl
      · exact hnone j hlt hpj
      · exact ⟨hlabel, hexit⟩

/-! ## Flat files -/

namespace Spans

variable (h : Spans lines i c)
include h

/-- The closing line of a `switch` is nothing else. -/
theorem closing_line : lineIs lines Line.isSwitch c = false ∧ lineIs lines Line.isLabel c = false := by
  obtain ⟨line, hc, hbrace⟩ := exists_of_lineIs h.brace
  have hlead := Line.lead_of_startsWithClosing hbrace
  rw [lineIs_of hc, lineIs_of hc]
  exact ⟨Line.not_isSwitch_of_lead hlead (by decide), Line.not_isLabel_of_lead hlead (by decide)⟩

/-- A `switch` closes only once. -/
theorem eq_of_closesAt (hik : i ≤ k) (hkc : k ≤ c) (hk : closesAt lines i k) : k = c := by
  by_contra hne
  rw [h.unclosed k (Nat.lt_of_le_of_ne hkc hne) hik] at hk
  cases hk

end Spans

namespace IsFlat

variable (hflat : IsFlat lines) (h : Follows lines i k)
include hflat h

/-- A `switch` that is followed closes here or later. -/
theorem exists_spans : ∃ c < lines.length, Spans lines i c ∧ k ≤ c := by
  obtain ⟨line, hi, _⟩ := exists_of_lineIs h.head
  obtain ⟨c, hc, hspans⟩ := hflat i (List.getElem?_eq_some_iff.mp hi).1 h.head
  refine ⟨c, hc, hspans, ?_⟩
  by_contra hlt
  have hopen := h.unclosed c (Nat.lt_of_not_le hlt) (Nat.le_of_lt hspans.lt)
  rw [hspans.closes] at hopen
  cases hopen

/-- No `switch` begins where another is followed. -/
theorem not_isSwitch : lineIs lines Line.isSwitch k = false := by
  obtain ⟨c, _, hspans, hkc⟩ := hflat.exists_spans h
  rcases Nat.lt_or_eq_of_le hkc with hlt | rfl
  · exact hspans.alone k hlt h.lt
  · exact hspans.closing_line.1

/-- The closing line of a `switch` is no label. -/
theorem not_isLabel (hclose : closesAt lines i k) : lineIs lines Line.isLabel k = false := by
  obtain ⟨c, _, hspans, hkc⟩ := hflat.exists_spans h
  obtain rfl := hspans.eq_of_closesAt (Nat.le_of_lt h.lt) hkc hclose
  exact hspans.closing_line.2

theorem isFallThrough_iff : IsFallThrough lines k ↔
    (closesAt lines i k ∨ lineIs lines Line.isLabel k) ∧ FallsInto lines i k := by
  constructor
  · rintro ⟨i', hik, c, _, hspans, hplace, hfalls⟩
    obtain rfl := (hspans.mono hik (by omega)).unique h
    rcases hplace with ⟨_, hlabel⟩ | rfl
    · exact ⟨.inr hlabel, hfalls⟩
    · exact ⟨.inl hspans.closes, hfalls⟩
  · rintro ⟨hplace, hfalls⟩
    obtain ⟨c, hc, hspans, hkc⟩ := hflat.exists_spans h
    refine ⟨i, h.lt, c, hc, hspans, ?_, hfalls⟩
    rcases hplace with hclose | hlabel
    · exact .inr (hspans.eq_of_closesAt (Nat.le_of_lt h.lt) hkc hclose)
    · refine .inl ⟨Nat.lt_of_le_of_ne hkc ?_, hlabel⟩
      rintro rfl
      rw [hspans.closing_line.2] at hlabel
      cases hlabel

end IsFlat

theorem not_isFallThrough (h : ∀ i, ¬Follows lines i k) : ¬IsFallThrough lines k := by
  rintro ⟨i, hik, c, _, hspans, hplace, _⟩
  exact h i (hspans.mono hik (by omega))

end Switch

namespace Rule

open LineScan Switch

variable {lines : List Text} {line : Text} {k : Nat}

/-! ## Steps -/

section Steps

variable {st : SwitchState × Bool} {ended : Bool} {d : Nat}

/-- What a line does to the `switch` that is followed. -/
theorem SwitchState.next_eq (s : SwitchState) (line : Text) : s.next line =
    if Line.isSwitch line then
      (⟨!Line.returnsToZero 0 line, Line.counted 0 line⟩, ⟨true, Line.returnsToZero 0 line⟩)
    else if s.inside then
      (⟨!Line.returnsToZero s.depth line, Line.counted s.depth line⟩, ⟨false, Line.returnsToZero s.depth line⟩)
    else (s, ⟨false, false⟩) := by
  -- The count goes down only from above zero, so that it is zero afterwards exactly if it was one.
  have hcount : ∀ opened : Bool, ∀ d : Nat,
      (if Line.raised d line > 0 && line.has '}' then
        (⟨Line.raised d line - 1 != 0, Line.raised d line - 1⟩, ⟨opened, Line.raised d line - 1 == 0⟩)
      else (⟨true, Line.raised d line⟩, ⟨opened, false⟩) : SwitchState × SwitchEvent) =
        (⟨!Line.returnsToZero d line, Line.counted d line⟩, ⟨opened, Line.returnsToZero d line⟩) := by
    intro opened d
    rw [Line.returnsToZero, Line.counted]
    cases line.has '}' with
    | false => simp
    | true =>
      rcases Line.raised d line with _ | _ | n <;> simp
  obtain ⟨inside, depth⟩ := s
  rw [← hcount, ← hcount]
  cases hs : Line.isSwitch line <;> cases inside <;> rw [Line.isSwitch] at hs <;>
    simp [SwitchState.next, hs, Line.raised]

theorem endStep_switch (h : Line.isSwitch line) : endScan.step st line =
    ((⟨!Line.returnsToZero 0 line, Line.counted 0 line⟩, true), []) := by
  have hlabel := Line.not_isLabel_of_lead (Line.lead_of_isSwitch h) (by decide)
  simp [endScan, SwitchState.next_eq, h, hlabel, messagesWhere]

theorem endStep_outside (h : Line.isSwitch line = false) (hst : st.1.inside = false) :
    endScan.step st line = (st, []) := by
  simp [endScan, SwitchState.next_eq, h, hst]

/-- A line of the `switch` that is followed. A label ends no case, so it is judged by the lines before it. -/
theorem endStep_inside (h : Line.isSwitch line = false) : endScan.step (⟨true, d⟩, ended) line =
    ((⟨!Line.returnsToZero d line, Line.counted d line⟩, !Line.isLabel line && (ended || Line.isExit line)),
      messagesWhere [(Line.returnsToZero d line && !ended, fallsThrough),
        (Line.isLabel line && !ended, fallsThrough)]) := by
  cases hlabel : Line.isLabel line with
  | true =>
    obtain ⟨hbreak, hreturn⟩ := Bool.or_eq_false_iff.mp (Line.not_isExit_of_isLabel hlabel)
    cases ended <;> cases hclose : Line.returnsToZero d line <;>
      simp [endScan, SwitchState.next_eq, h, hlabel, hclose, hbreak, hreturn, messagesWhere]
  | false =>
    cases ended <;> cases hclose : Line.returnsToZero d line <;>
      simp [endScan, SwitchState.next_eq, h, hlabel, hclose, Line.isExit, messagesWhere]

end Steps

/-! ## Runs -/

/-- Where the scan stands before line `k`: it is inside a `switch` exactly if one is followed, with its brace count, and
no end of a case has been met exactly if a case falls into the line. -/
structure Tracks (lines : List Text) (k : Nat) (st : SwitchState × Bool) : Prop where
  follows : ∀ i, Follows lines i k →
    st.1 = ⟨true, braceCount lines i k⟩ ∧ (st.2 = false ↔ FallsInto lines i k)
  inside : st.1.inside → ∃ i, Follows lines i k

variable {st : SwitchState × Bool}

theorem Tracks.eq_of_follows {i : Nat} (h : Tracks lines k st) (hi : Follows lines i k) :
    st = (⟨true, braceCount lines i k⟩, st.2) :=
  Prod.ext (h.follows i hi).1 rfl

theorem tracks_start (lines : List Text) : Tracks lines 0 endScan.start where
  follows := fun i h => absurd h.lt (Nat.not_lt_zero i)
  inside := fun h => by cases h

section Step

variable (hk : lines[k]? = some line)
include hk

/-- A line that begins a `switch`: whatever was followed before, nothing has fallen yet. -/
theorem tracks_switch (hs : Line.isSwitch line) : Tracks lines (k + 1) (endScan.step st line).1 := by
  have hswitch : lineIs lines Line.isSwitch k = true := (lineIs_of hk).trans hs
  have hclose : closesAt lines k k = Line.returnsToZero 0 line := by rw [closesAt_of hk, braceCount_self]
  rw [endStep_switch hs]
  constructor
  · intro i hi
    obtain ⟨rfl, hopen⟩ := (Follows.succ_of_isSwitch hswitch).mp hi
    rw [hclose] at hopen
    rw [braceCount_succ le_rfl hk, braceCount_self, hopen]
    exact ⟨rfl, iff_of_false (by simp) (not_fallsInto_first lines i)⟩
  · intro hinside
    refine ⟨k, (Follows.succ_of_isSwitch hswitch).mpr ⟨rfl, ?_⟩⟩
    simpa [hclose] using hinside

variable (h : Tracks lines k st) (hs : Line.isSwitch line = false)
include h hs

/-- Another line where nothing is followed. -/
theorem Tracks.outside (hst : st.1.inside = false) : Tracks lines (k + 1) (endScan.step st line).1 := by
  have hswitch : lineIs lines Line.isSwitch k = false := (lineIs_of hk).trans hs
  rw [endStep_outside hs hst]
  constructor
  · intro i hi
    have hbefore := (h.follows i ((Follows.succ_of_not_isSwitch hswitch).mp hi).1).1
    rw [hbefore] at hst
    cases hst
  · intro hinside
    rw [hst] at hinside
    cases hinside

/-- Another line of the `switch` that is followed. -/
theorem Tracks.within {i : Nat} (hi : Follows lines i k) : Tracks lines (k + 1) (endScan.step st line).1 := by
  have hswitch : lineIs lines Line.isSwitch k = false := (lineIs_of hk).trans hs
  have hended := (h.follows i hi).2
  rw [h.eq_of_follows hi, endStep_inside hs]
  constructor
  · intro i' hi'
    obtain ⟨hbefore, hopen⟩ := (Follows.succ_of_not_isSwitch hswitch).mp hi'
    obtain rfl := hbefore.unique hi
    rw [closesAt_of hk] at hopen
    rw [hopen, braceCount_succ (Nat.le_of_lt hi.lt) hk, fallsInto_succ hi.lt, lineIs_of hk, lineIs_of hk, ← hended]
    refine ⟨rfl, ?_⟩
    cases Line.isLabel line <;> simp
  · intro hinside
    refine ⟨i, (Follows.succ_of_not_isSwitch hswitch).mpr ⟨hi, ?_⟩⟩
    simpa [closesAt_of hk] using hinside

end Step

/-- **One step keeps track.** -/
theorem Tracks.step (h : Tracks lines k st) (hk : lines[k]? = some line) :
    Tracks lines (k + 1) (endScan.step st line).1 := by
  cases hs : Line.isSwitch line with
  | true => exact tracks_switch hk hs
  | false =>
    cases hst : st.1.inside with
    | false => exact h.outside hk hs hst
    | true =>
      obtain ⟨i, hi⟩ := h.inside hst
      exact h.within hk hs hi

/-- What the scan finds in a line of a flat file. -/
theorem Tracks.messages (h : Tracks lines k st) (hflat : IsFlat lines) (hk : lines[k]? = some line) :
    (endScan.step st line).2 = if IsFallThrough lines k then [fallsThrough] else [] := by
  by_cases hfollows : ∃ i, Follows lines i k
  · obtain ⟨i, hi⟩ := hfollows
    have hended := (h.follows i hi).2
    have hs : Line.isSwitch line = false := (lineIs_of hk).symm.trans (hflat.not_isSwitch hi)
    have hlabel := hflat.not_isLabel hi
    have hiff := hflat.isFallThrough_iff hi
    rw [closesAt_of hk, lineIs_of hk, ← hended] at hiff
    rw [closesAt_of hk, lineIs_of hk] at hlabel
    rw [h.eq_of_follows hi, endStep_inside hs]
    simp only [hiff]
    cases hclose : Line.returnsToZero (braceCount lines i k) line with
    | true => cases st.2 <;> simp [hlabel hclose, messagesWhere]
    | false => cases st.2 <;> cases Line.isLabel line <;> simp [messagesWhere]
  · have hinside : st.1.inside = false := by
      rw [← Bool.not_eq_true]
      exact fun hst => hfollows (h.inside hst)
    rw [if_neg (not_isFallThrough (not_exists.mp hfollows))]
    cases hs : Line.isSwitch line with
    | true => rw [endStep_switch hs]
    | false => rw [endStep_outside hs hinside]

/-- The diagnostic on line `k`, counted from zero, that a case falls into. -/
def fallThroughAt (name : Text) (k : Nat) : Diagnostic :=
  ⟨⟨name, (k + 1 : Nat), 0⟩, fallsThrough, "switch-end", .error, []⟩

/-- **In a flat file the rule reports exactly the lines that a case falls into**, once each and in the order of lines: the
labels of a `switch` with an earlier label and no `break` or `return` after the last one before them, and the closing
lines of a `switch` with a label and no `break` or `return` after its last. -/
theorem switchEnd_reports_fallThroughs (name : Text) (lines : List Text) (hflat : IsFlat lines) :
    switchEnd.verify ⟨name, lines⟩ =
      ((List.range lines.length).filter (IsFallThrough lines)).map (fallThroughAt name) := by
  have hrun : switchEnd.run ⟨name, lines⟩ = _ := run_eq_flatMap (Tracks lines)
    (fun k => if IsFallThrough lines k then [fallsThrough] else []) rfl (tracks_start lines)
    (fun k line st hk h => ⟨h.messages hflat hk, h.step hk⟩) name
  have hfound : ∀ k, (findingsAt (k + 1) (if IsFallThrough lines k then [fallsThrough] else [])).map
      (switchEnd.diagnose name) = if IsFallThrough lines k then [fallThroughAt name k] else [] := by
    intro k
    split <;> rfl
  rw [verify, hrun, List.map_flatMap]
  simp only [hfound]
  induction List.range lines.length with
  | nil => rfl
  | cons k ks ih => by_cases hk : IsFallThrough lines k <;> simp [hk, ih]

/-- Two switches: a label of the first is fallen into, and the closing line of the second. -/
theorem switchEnd_reports_two :
    let lines : List Text := ["switch (a)", "\x7b", "case A:", "\x7b", "f();", "\x7d", "case B:", "return;", "default:",
      "  break;", "\x7d", "g();", "switch (b) \x7b", "case C:", "\x7d while (c);"]
    IsFlat lines ∧ switchEnd.verify ⟨"a.c", lines⟩ = [fallThroughAt "a.c" 6, fallThroughAt "a.c" 14] := by
  intro lines
  have hflat : IsFlat lines := by decide +kernel
  refine ⟨hflat, ?_⟩
  rw [switchEnd_reports_fallThroughs "a.c" lines hflat]
  have hfalls : (List.range lines.length).filter (IsFallThrough lines) = [6, 14] := by decide +kernel
  rw [hfalls]
  rfl

end Rule

end HouseStyle
