import HouseStyle.Proofs.Json.Tokens

/-!
# Values are read as they are written

A value is written over several lines, one for each item and member, and read with fuel that runs out. Both go through
the value in the same order, so the induction is on the value, and on the list of its items or members: **what is
written is read back** (`Plain.readsBack`), with the text that follows left over and with the length of what is written
as fuel. The values are those without fractions, whose texts are well formed (`Plain`).
-/

namespace HouseStyle.Json

variable {t u s rest : Text} {b : UInt8} {j : Json} {fuel depth : Nat}

/-- A value without fractions whose texts are well formed. -/
inductive Plain : Json → Prop where
  | null : Plain .null
  | bool (b : Bool) : Plain (.bool b)
  | number (n : Int) : Plain (.number n 0)
  | string {t : Text} (h : t.isWellFormed) : Plain (.string t)
  | array {items : List Json} (h : ∀ j ∈ items, Plain j) : Plain (.array items)
  | object {members : List (Text × Json)} (hnames : ∀ m ∈ members, m.1.isWellFormed) (h : ∀ m ∈ members, Plain m.2) :
      Plain (.object members)

theorem writeNumber_zero (n : Int) : writeNumber n 0 = Text.ofInt n := by simp [writeNumber]

/-- What is written of a value begins with a byte that tells values from blanks and closing brackets. -/
theorem Plain.exists_prettyAt_eq (h : Plain j) (depth : Nat) : ∃ b tail, prettyAt depth j = b :: tail ∧ begins b := by
  cases h with
  | null => exact ⟨_, _, rfl, by decide⟩
  | bool b => cases b <;> exact ⟨_, _, rfl, by decide⟩
  | number n =>
    obtain ⟨b, tail, htail, hb⟩ := exists_ofInt_eq n
    exact ⟨b, tail, by rw [prettyAt, writeNumber_zero, htail], begins_of_startsNumber hb⟩
  | string h => exact ⟨_, _, rfl, by decide⟩
  | @array items h =>
    cases items with
    | nil => exact ⟨_, _, rfl, by decide⟩
    | cons j items => exact ⟨Text.byte '[', _, by rw [prettyAt]; rfl, by decide⟩
  | @object members hnames h =>
    cases members with
    | nil => exact ⟨_, _, rfl, by decide⟩
    | cons m members => exact ⟨Text.byte '{', _, by rw [prettyAt]; rfl, by decide⟩

/-- The value is read as it is written, whatever follows that does not go on with a number. The length of what is
written is fuel enough. -/
def ReadsBack (j : Json) : Prop :=
  ∀ (depth fuel : Nat) (rest : Text), (prettyAt depth j).length ≤ fuel → EndsNumber rest →
    readValue fuel (prettyAt depth j ++ rest) = some (j, rest)

/-! ## What stands before a value -/

theorem readValue_append (hs : skipBlanks s = []) (t : Text) : readValue fuel (s ++ t) = readValue fuel t := by
  cases fuel with
  | zero => rw [readValue, readValue]
  | succ fuel => rw [readValue, readValue, skipBlanks_append hs]

theorem readValue_skipBlanks (t : Text) : readValue fuel (skipBlanks t) = readValue fuel t := by
  cases fuel with
  | zero => rw [readValue, readValue]
  | succ fuel => rw [readValue, readValue, skipBlanks_skipBlanks]

theorem readItems_skipBlanks (t : Text) (done : List Json) :
    readItems fuel (skipBlanks t) done = readItems fuel t done := by
  cases fuel with
  | zero => rw [readItems, readItems]
  | succ fuel => rw [readItems, readItems, readValue_skipBlanks]

theorem readMembers_skipBlanks (t : Text) (done : List (Text × Json)) :
    readMembers fuel (skipBlanks t) done = readMembers fuel t done := by
  cases fuel with
  | zero => rw [readMembers, readMembers]
  | succ fuel => rw [readMembers, readMembers, skipBlanks_skipBlanks]

/-! ## Single values -/

theorem Plain.exists_fuel (h : Plain j) (hfuel : (prettyAt depth j).length ≤ fuel) : ∃ n, fuel = n + 1 := by
  obtain ⟨b, tail, htail, -⟩ := h.exists_prettyAt_eq depth
  rw [htail, List.length_cons] at hfuel
  exact ⟨fuel - 1, by omega⟩

theorem readLiteral_append (word : Text) (j : Json) (rest : Text) :
    readLiteral word j (word ++ rest) = some (j, rest) := by
  rw [readLiteral, Text.afterPrefix?_eq_some.mpr rfl, Option.map_some]

theorem readValue_null (rest : Text) : readValue (fuel + 1) ("null" ++ rest) = some (.null, rest) := by
  rw [← readLiteral_append "null" .null, readValue]
  rfl

theorem readValue_bool (b : Bool) (rest : Text) :
    readValue (fuel + 1) ((if b then Text.ofString "true" else "false") ++ rest) = some (.bool b, rest) := by
  cases b with
  | true =>
    rw [if_pos rfl, ← readLiteral_append "true" (.bool true), readValue]
    rfl
  | false =>
    rw [if_neg (by decide), ← readLiteral_append "false" (.bool false), readValue]
    rfl

theorem readValue_string (h : t.isWellFormed) (rest : Text) :
    readValue (fuel + 1) (quote t ++ rest) = some (.string t, rest) := by
  obtain ⟨body, hbody, hread⟩ := readString_quote h rest
  rw [hbody, readValue, skipBlanks_cons (by decide)]
  dsimp only
  rw [if_neg (by decide), if_neg (by decide), if_pos rfl, hread, Option.map_some, Text.wellFormed_eq_self h]

theorem readValue_ofInt (n : Int) (h : EndsNumber rest) :
    readValue (fuel + 1) (Text.ofInt n ++ rest) = some (.number n 0, rest) := by
  rw [← readNumber_ofInt n h]
  obtain ⟨b, tail, htail, hb⟩ := exists_ofInt_eq n
  rw [htail, List.cons_append, readValue, skipBlanks_of_begins (begins_of_startsNumber hb)]
  dsimp only
  rw [if_neg (ne_of_startsNumber hb (by decide)), if_neg (ne_of_startsNumber hb (by decide)),
    if_neg (ne_of_startsNumber hb (by decide)), if_neg (ne_of_startsNumber hb (by decide)),
    if_neg (ne_of_startsNumber hb (by decide)), if_neg (ne_of_startsNumber hb (by decide))]

/-! ## Arrays -/

theorem readValue_array (hbody : skipBlanks t = b :: u) (hb : begins b) :
    readValue (fuel + 1) (Text.byte '[' :: t) = readItems fuel t [] := by
  rw [readValue, skipBlanks_cons (by decide)]
  dsimp only
  rw [if_neg (by decide), if_pos rfl, hbody]
  dsimp only
  rw [if_neg (ne_of_begins hb (by decide)), ← hbody, readItems_skipBlanks]

theorem readItems_last {done : List Json} (hread : readValue fuel t = some (j, u))
    (hclose : skipBlanks u = Text.byte ']' :: rest) :
    readItems (fuel + 1) t done = some (.array (j :: done).reverse, rest) := by
  rw [readItems, hread]
  dsimp only
  rw [hclose]
  dsimp only
  rw [if_neg (by decide), if_pos rfl]

theorem readItems_more {done : List Json} (hread : readValue fuel t = some (j, Text.byte ',' :: rest)) :
    readItems (fuel + 1) t done = readItems fuel rest (j :: done) := by
  rw [readItems, hread]
  dsimp only
  rw [skipBlanks_cons (by decide)]
  dsimp only
  rw [if_pos rfl]

theorem length_newline (depth : Nat) : (newline depth).length = 2 * depth + 1 := by
  rw [newline, List.length_append, Text.spaces, List.length_replicate]
  exact Nat.add_comm 1 _

theorem prettyItems_cons_cons (depth : Nat) (j k : Json) (items : List Json) :
    prettyItems depth (j :: k :: items) =
      newline depth ++ prettyAt depth j ++ "," ++ prettyItems depth (k :: items) := by
  rw [prettyItems]
  simp

/-- The items of an array are read as they are written, after those read before. -/
theorem readItems_prettyItems {items : List Json} (hne : items ≠ []) (hitems : ∀ j ∈ items, ReadsBack j)
    (hfuel : (prettyItems depth items).length ≤ fuel) (hu : skipBlanks u = Text.byte ']' :: rest)
    (hend : EndsNumber u) (done : List Json) :
    readItems fuel (prettyItems depth items ++ u) done = some (.array (done.reverse ++ items), rest) := by
  induction items generalizing fuel done with
  | nil => exact absurd rfl hne
  | cons j items ih =>
    obtain ⟨hj, hitems⟩ := List.forall_mem_cons.mp hitems
    cases items with
    | nil =>
      rw [prettyItems, List.length_append, length_newline] at hfuel
      obtain ⟨fuel, rfl⟩ : ∃ n, fuel = n + 1 := ⟨fuel - 1, by omega⟩
      have hread : readValue fuel (newline depth ++ prettyAt depth j ++ u) = some (j, u) := by
        rw [List.append_assoc, readValue_append (skipBlanks_newline depth)]
        exact hj depth fuel u (by omega) hend
      rw [prettyItems, readItems_last hread hu, List.reverse_cons]
    | cons k items =>
      rw [prettyItems_cons_cons] at hfuel ⊢
      simp only [List.length_append, length_newline] at hfuel
      obtain ⟨fuel, rfl⟩ : ∃ n, fuel = n + 1 := ⟨fuel - 1, by omega⟩
      have hread : readValue fuel (newline depth ++ prettyAt depth j ++ "," ++ prettyItems depth (k :: items) ++ u) =
          some (j, Text.byte ',' :: (prettyItems depth (k :: items) ++ u)) := by
        simp only [List.append_assoc]
        rw [readValue_append (skipBlanks_newline depth)]
        exact hj depth fuel _ (by omega) (endsNumber_cons (by decide) _)
      rw [readItems_more hread, ih (by simp) hitems (by omega), List.reverse_cons, List.append_assoc]
      rfl

/-! ## Objects -/

theorem readValue_object (hbody : skipBlanks t = b :: u) (hb : begins b) :
    readValue (fuel + 1) (Text.byte '{' :: t) = readMembers fuel t [] := by
  rw [readValue, skipBlanks_cons (by decide)]
  dsimp only
  rw [if_pos rfl, hbody]
  dsimp only
  rw [if_neg (ne_of_begins hb (by decide)), ← hbody, readMembers_skipBlanks]

/-- With this fuel, the member `m` is read from the front of `t`, and `u` is left. -/
def ReadsMember (fuel : Nat) (t : Text) (m : Text × Json) (u : Text) : Prop :=
  ∃ body mid value, skipBlanks t = Text.byte '"' :: body ∧ readString none body = some (m.1, mid) ∧
    m.1.isWellFormed ∧ skipBlanks mid = Text.byte ':' :: value ∧ readValue fuel value = some (m.2, u)

/-- Once a member is read, what follows it tells whether there are more. -/
theorem ReadsMember.readMembers {m : Text × Json} {done : List (Text × Json)} (h : ReadsMember fuel t m u)
    (hu : skipBlanks u = b :: rest) :
    readMembers (fuel + 1) t done =
      if b = Text.byte ',' then readMembers fuel rest (m :: done)
      else if b = Text.byte '}' then some (.object (m :: done).reverse, rest)
      else none := by
  obtain ⟨body, mid, value, hquote, hname, hwell, hcolon, hvalue⟩ := h
  rw [Json.readMembers, hquote]
  dsimp only
  rw [if_neg (by decide), hname]
  dsimp only
  rw [hcolon]
  dsimp only
  rw [if_neg (by decide), hvalue]
  dsimp only
  rw [hu, Text.wellFormed_eq_self hwell]

/-- What is written of a member. -/
def prettyMember (depth : Nat) (m : Text × Json) : Text := newline depth ++ quote m.1 ++ ": " ++ prettyAt depth m.2

theorem prettyMembers_singleton (depth : Nat) (m : Text × Json) : prettyMembers depth [m] = prettyMember depth m := by
  rw [prettyMembers, prettyMember]

theorem prettyMembers_cons_cons (depth : Nat) (m n : Text × Json) (members : List (Text × Json)) :
    prettyMembers depth (m :: n :: members) = prettyMember depth m ++ "," ++ prettyMembers depth (n :: members) := by
  rw [prettyMembers, prettyMember]
  simp

theorem readsMember_prettyMember {m : Text × Json} (hname : m.1.isWellFormed) (hm : ReadsBack m.2)
    (hfuel : (prettyMember depth m).length ≤ fuel + 1) (hu : EndsNumber u) :
    ReadsMember fuel (prettyMember depth m ++ u) m u := by
  obtain ⟨body, hbody, hread⟩ := readString_quote hname (": " ++ (prettyAt depth m.2 ++ u))
  rw [prettyMember] at hfuel ⊢
  simp only [List.length_append, length_newline] at hfuel
  refine ⟨body, _, Text.byte ' ' :: (prettyAt depth m.2 ++ u), ?_, hread, hname, skipBlanks_cons (by decide) _, ?_⟩
  · simp only [List.append_assoc]
    rw [skipBlanks_append (skipBlanks_newline depth), hbody, skipBlanks_cons (by decide)]
  · have hblank : readValue fuel (Text.byte ' ' :: (prettyAt depth m.2 ++ u)) =
        readValue fuel (prettyAt depth m.2 ++ u) := readValue_append (s := [Text.byte ' ']) (by decide) _
    rw [hblank]
    exact hm depth fuel u (by omega) hu

/-- The members of an object are read as they are written, after those read before. -/
theorem readMembers_prettyMembers {members : List (Text × Json)} (hne : members ≠ [])
    (hnames : ∀ m ∈ members, m.1.isWellFormed) (hmembers : ∀ m ∈ members, ReadsBack m.2)
    (hfuel : (prettyMembers depth members).length ≤ fuel) (hu : skipBlanks u = Text.byte '}' :: rest)
    (hend : EndsNumber u) (done : List (Text × Json)) :
    readMembers fuel (prettyMembers depth members ++ u) done = some (.object (done.reverse ++ members), rest) := by
  induction members generalizing fuel done with
  | nil => exact absurd rfl hne
  | cons m members ih =>
    obtain ⟨hm, hmembers⟩ := List.forall_mem_cons.mp hmembers
    obtain ⟨hname, hnames⟩ := List.forall_mem_cons.mp hnames
    have hpos : 0 < (prettyMember depth m).length := by
      simp only [prettyMember, List.length_append, length_newline]
      omega
    cases members with
    | nil =>
      rw [prettyMembers_singleton] at hfuel ⊢
      obtain ⟨fuel, rfl⟩ : ∃ n, fuel = n + 1 := ⟨fuel - 1, by omega⟩
      rw [(readsMember_prettyMember hname hm hfuel hend).readMembers hu, if_neg (by decide), if_pos rfl,
        List.reverse_cons]
    | cons n members =>
      rw [prettyMembers_cons_cons] at hfuel ⊢
      simp only [List.length_append] at hfuel
      obtain ⟨fuel, rfl⟩ : ∃ n, fuel = n + 1 := ⟨fuel - 1, by omega⟩
      have hcomma : (Text.ofString ",").length = 1 := rfl
      have hmore : ReadsMember fuel (prettyMember depth m ++ ("," ++ (prettyMembers depth (n :: members) ++ u))) m
          (Text.byte ',' :: (prettyMembers depth (n :: members) ++ u)) :=
        readsMember_prettyMember hname hm (by omega) (endsNumber_cons (by decide) _)
      rw [List.append_assoc, List.append_assoc, hmore.readMembers (skipBlanks_cons (by decide) _),
        if_pos rfl, ih (by simp) hnames hmembers (by omega), List.reverse_cons, List.append_assoc]
      rfl

/-! ## All values -/

theorem exists_skipBlanks_items (depth : Nat) (hj : Plain j) (items : List Json) (u : Text) :
    ∃ b tail, skipBlanks (prettyItems depth (j :: items) ++ u) = b :: tail ∧ begins b := by
  obtain ⟨b, tail, htail, hb⟩ := hj.exists_prettyAt_eq depth
  obtain ⟨after, hafter⟩ : ∃ after, prettyItems depth (j :: items) ++ u = newline depth ++ b :: after := by
    cases items with
    | nil => exact ⟨tail ++ u, by rw [prettyItems, htail, List.append_assoc, List.cons_append]⟩
    | cons k items =>
      refine ⟨tail ++ ("," ++ (prettyItems depth (k :: items) ++ u)), ?_⟩
      rw [prettyItems_cons_cons, htail]
      simp only [List.append_assoc, List.cons_append]
  refine ⟨b, after, ?_, hb⟩
  rw [hafter, skipBlanks_append (skipBlanks_newline depth), skipBlanks_of_begins hb]

theorem exists_skipBlanks_members (depth : Nat) (m : Text × Json) (members : List (Text × Json)) (u : Text) :
    ∃ b tail, skipBlanks (prettyMembers depth (m :: members) ++ u) = b :: tail ∧ begins b := by
  obtain ⟨after, hafter⟩ : ∃ after,
      prettyMembers depth (m :: members) ++ u = newline depth ++ Text.byte '"' :: after := by
    cases members with
    | nil =>
      rw [prettyMembers_singleton, prettyMember, quote]
      simp only [List.append_assoc]
      exact ⟨_, rfl⟩
    | cons n members =>
      rw [prettyMembers_cons_cons, prettyMember, quote]
      simp only [List.append_assoc]
      exact ⟨_, rfl⟩
  refine ⟨_, after, ?_, (by decide : begins (Text.byte '"'))⟩
  rw [hafter, skipBlanks_append (skipBlanks_newline depth), skipBlanks_cons (by decide)]

theorem skipBlanks_close (hb : skipBlanks [b] = [b]) (depth : Nat) (rest : Text) :
    skipBlanks (newline depth ++ b :: rest) = b :: rest := by
  rw [skipBlanks_append (skipBlanks_newline depth), skipBlanks_cons hb]

/-- **What is written of a value is read back**, by induction on the value. -/
theorem Plain.readsBack (h : Plain j) : ReadsBack j := by
  induction h with
  | null =>
    intro depth fuel rest hfuel _
    obtain ⟨fuel, rfl⟩ := Plain.null.exists_fuel hfuel
    rw [prettyAt, readValue_null]
  | bool b =>
    intro depth fuel rest hfuel _
    obtain ⟨fuel, rfl⟩ := (Plain.bool b).exists_fuel hfuel
    rw [prettyAt, readValue_bool]
  | number n =>
    intro depth fuel rest hfuel hrest
    obtain ⟨fuel, rfl⟩ := (Plain.number n).exists_fuel hfuel
    rw [prettyAt, writeNumber_zero, readValue_ofInt n hrest]
  | string h =>
    intro depth fuel rest hfuel _
    obtain ⟨fuel, rfl⟩ := (Plain.string h).exists_fuel hfuel
    rw [prettyAt, readValue_string h]
  | @array items h ih =>
    intro depth fuel rest hfuel _
    obtain ⟨fuel, rfl⟩ := (Plain.array h).exists_fuel hfuel
    cases items with
    | nil =>
      rw [prettyAt, readValue]
      rfl
    | cons j items =>
      have htext : prettyAt depth (.array (j :: items)) ++ rest =
          Text.byte '[' :: (prettyItems (depth + 1) (j :: items) ++ (newline depth ++ Text.byte ']' :: rest)) := by
        rw [prettyAt]
        simp only [List.append_assoc]
        rfl
      obtain ⟨b, tail, htail, hb⟩ := exists_skipBlanks_items (depth + 1) (h j List.mem_cons_self) items
        (newline depth ++ Text.byte ']' :: rest)
      rw [prettyAt, List.length_append, List.length_append, List.length_append] at hfuel
      have hopen : (Text.ofString "[").length = 1 := rfl
      rw [htext, readValue_array htail hb,
        readItems_prettyItems (by simp) ih (by omega) (skipBlanks_close (by decide) depth rest)
          (endsNumber_newline depth _) []]
      rfl
  | @object members hnames h ih =>
    intro depth fuel rest hfuel _
    obtain ⟨fuel, rfl⟩ := (Plain.object hnames h).exists_fuel hfuel
    cases members with
    | nil =>
      rw [prettyAt, readValue]
      rfl
    | cons m members =>
      have htext : prettyAt depth (.object (m :: members)) ++ rest =
          Text.byte '{' :: (prettyMembers (depth + 1) (m :: members) ++ (newline depth ++ Text.byte '}' :: rest)) := by
        rw [prettyAt]
        simp only [List.append_assoc]
        rfl
      obtain ⟨b, tail, htail, hb⟩ := exists_skipBlanks_members (depth + 1) m members
        (newline depth ++ Text.byte '}' :: rest)
      rw [prettyAt, List.length_append, List.length_append, List.length_append] at hfuel
      have hopen : (Text.ofString "\x7b").length = 1 := rfl
      rw [htext, readValue_object htail hb,
        readMembers_prettyMembers (by simp) hnames ih (by omega) (skipBlanks_close (by decide) depth rest)
          (endsNumber_newline depth _) []]
      rfl

/-- **A value that is written over several lines is read as the value.** -/
theorem parse?_pretty (h : Plain j) : parse? (j.pretty ++ "\n") = some j := by
  have hread : readValue (2 * (j.pretty ++ "\n").length + 2) (j.pretty ++ "\n") = some (j, Text.ofString "\n") := by
    apply h.readsBack 0
    · rw [List.length_append, pretty]
      omega
    · exact endsNumber_cons (by decide) []
  rw [parse?, hread]
  rfl

end HouseStyle.Json
