import HouseStyle.Proofs.Text.Boundary
import HouseStyle.Proofs.Text.Digits
import HouseStyle.Proofs.Text.Ink
import HouseStyle.Proofs.Text.Pieces
import HouseStyle.Source.Directive

/-!
# Reading directives

* What the readers of a directive take, one after the other, are the parts of the line (`Directive.parse?_eq_some`).
* A line that is, between white space, a hash, a name and what cannot continue the name, is read as a directive of that
  name (`Directive.parse?_of_trim`).
* The argument of a directive is an identifier: it does not begin with a digit (`Directive.head?_arg`).
* A directive is read from a line exactly as the line spells it: every part is the longest one of its kind at its place
  (`Directive.Spelling`). What is written with single spaces between its parts is read back
  (`Directive.parse?_iff_spelling`).
-/

namespace HouseStyle

namespace Text

/-! ## Trimmed texts -/

variable {q q' : UInt8 → Bool} {front rest t : Text}

/-- A text that begins and ends with ASCII characters which are not white space is its own trimmed form. -/
theorem trim_eq_self {b c : UInt8} (t : Text) (hb : isInk b) (hc : isInk c) :
    trim (b :: (t ++ [c])) = b :: (t ++ [c]) := by
  rw [trim, trimLeft_cons hb, ← List.cons_append, trimRight_append hc]
  rfl

theorem mem_of_mem_trim {b : UInt8} (h : b ∈ t.trim) : b ∈ t := by
  obtain ⟨blanks, ht, -⟩ := exists_append_trimLeft t
  rw [ht]
  exact List.mem_append_right blanks ((trim_isPrefix t).subset h)

/-- A trimmed text does not begin with an ASCII character that is white space. -/
theorem head?_trim (hq : ∀ b, q b → b < 0x80 ∧ Glyph.isBlankCode b.toNat) (t : Text) : t.trim.head?.any q = false := by
  cases h : t.trim with
  | nil => rfl
  | cons b rest =>
    rw [List.head?_cons, Option.any_some, ← Bool.not_eq_true]
    intro hb
    obtain ⟨hascii, hblank⟩ := hq b hb
    have hink := isBlank_of_trimLeft (t := t.trim) (by rw [trimLeft_trim, h, glyphs_ascii hascii])
    rw [Glyph.isBlank, hblank] at hink
    cases hink

/-- A text whose end, after an ASCII character, is a trimmed text has no white space at its end. -/
theorem trimRight_append_trimmed {c : UInt8} (hc : c < 0x80) (hne : rest ≠ []) (hrest : rest.trim = rest)
    (front : Text) : (front ++ c :: rest).trimRight = front ++ c :: rest := by
  have hlast := getLast?_trim rest
  rw [hrest] at hlast
  have hglyphs : rest.glyphs ≠ [] := by
    intro h
    rw [← ofGlyphs_glyphs rest, h] at hne
    exact hne rfl
  apply trimRight_eq_self
  rw [glyphs_append (Glyph.isTail_of_ascii hc), glyphs_ascii hc, List.append_cons,
    List.getLast?_append_of_ne_nil _ hglyphs, hlast]

/-! ## Longest runs -/

/-- The first text is the longest run of bytes of a class at the front of both texts in a row. -/
structure Longest (q : UInt8 → Bool) (front rest : Text) : Prop where
  all : ∀ b ∈ front, q b
  stops : rest.head?.any q = false

theorem Longest.span (h : Longest q front rest) : (front ++ rest).span q = (front, rest) := span_append h.all h.stops

theorem Longest.dropWhile (h : Longest q front rest) : (front ++ rest).dropWhile q = rest := by
  have hspan := h.span
  rw [List.span_eq_takeWhile_dropWhile, Prod.mk.injEq] at hspan
  exact hspan.2

theorem longest_takeWhile (q : UInt8 → Bool) (t : Text) : Longest q (t.takeWhile q) (t.dropWhile q) where
  all _ hb := List.mem_takeWhile_imp hb
  stops := by
    have hhead := List.head?_dropWhile_not q t
    cases hdrop : (t.dropWhile q).head? with
    | none => rfl
    | some b =>
      rw [hdrop] at hhead
      simpa using hhead

/-- Classes that agree on two texts have the same longest run at their front. -/
theorem Longest.congr (h : Longest q front rest) (hq : ∀ b ∈ front ++ rest, q b = q' b) : Longest q' front rest where
  all b hb := by rw [← hq b (List.mem_append_left _ hb), h.all b hb]
  stops := by
    have hstops := h.stops
    cases rest with
    | nil => rfl
    | cons b rest =>
      rw [List.head?_cons, Option.any_some] at hstops ⊢
      rw [← hq b (by simp), hstops]

end Text

namespace Directive

/-! ## Parts -/

variable {line name arg t after gap : Text} {d : Directive}

theorem isIdent_of_isNameByte {b : UInt8} (h : isNameByte b) : Text.isIdent b := by
  rw [isNameByte, Bool.or_eq_true] at h
  rw [Text.isIdent, Bool.or_eq_true, Bool.or_eq_true]
  exact .inl h.symm

theorem isGap_of_isNameByte {b : UInt8} (h : isNameByte b) : isGap b = false := by
  rw [← Bool.not_eq_true]
  intro hgap
  simp only [isGap, Bool.or_eq_true, beq_iff_eq] at hgap
  rcases hgap with ((rfl | rfl) | rfl) | rfl <;> exact absurd h (by decide)

theorem isBlank_of_isGap {b : UInt8} (h : isGap b) : b < 0x80 ∧ Glyph.isBlankCode b.toNat := by
  simp only [isGap, Bool.or_eq_true, beq_iff_eq] at h
  rcases h with ((rfl | rfl) | rfl) | rfl <;> decide

theorem isDigit_of_isNameByte {b : UInt8} (h : isNameByte b) : Text.isDigit b = false := by
  have hbytes : (Text.byte '_').toNat = 95 ∧ (Text.byte 'a').toNat = 97 ∧ (Text.byte 'A').toNat = 65 := by decide
  simp only [isNameByte, Text.isLetter, Bool.or_eq_true, Bool.and_eq_true, beq_iff_eq, decide_eq_true_eq,
    UInt8.le_iff_toNat_le, ← UInt8.toNat_inj] at h
  rw [← Bool.not_eq_true, Text.isDigit_iff]
  omega

/-! ## Arguments -/

/-- The longest identifier at the front of both texts in a row, or nothing where no identifier begins. -/
inductive LongestArg : (arg after : Text) → Prop where
  | absent {after : Text} (h : after.head?.any isNameByte = false) : LongestArg [] after
  | present {arg after : Text} (h : arg.head?.any isNameByte) (hlongest : Text.Longest Text.isIdent arg after) :
    LongestArg arg after

theorem LongestArg.takeArg (h : LongestArg arg after) : takeArg (arg ++ after) = (arg, after) := by
  cases h with
  | absent h =>
    cases after with
    | nil => rfl
    | cons b after =>
      have hb : ¬isNameByte b := by simpa using h
      rw [List.nil_append, Directive.takeArg, if_neg hb]
  | present h hlongest =>
    cases arg with
    | nil => cases h
    | cons b arg =>
      have hb : isNameByte b := by simpa using h
      rw [List.cons_append, Directive.takeArg, if_pos hb, ← List.cons_append, hlongest.span]

theorem longestArg_takeArg (t : Text) :
    (takeArg t).1 ++ (takeArg t).2 = t ∧ LongestArg (takeArg t).1 (takeArg t).2 := by
  fun_cases takeArg t with
  | case1 => exact ⟨rfl, .absent rfl⟩
  | case2 b t hb =>
    have hlongest := Text.longest_takeWhile Text.isIdent (b :: t)
    rw [List.span_eq_takeWhile_dropWhile]
    refine ⟨List.takeWhile_append_dropWhile, .present ?_ hlongest⟩
    rw [List.takeWhile_cons_of_pos (isIdent_of_isNameByte hb)]
    exact hb
  | case3 b t hb => exact ⟨rfl, .absent (by simpa using hb)⟩

theorem LongestArg.head? (h : LongestArg arg after) : arg = [] ∨ arg.head?.any isNameByte := by
  cases h with
  | absent => exact .inl rfl
  | present h => exact .inr h

/-- An identifier that stands alone is taken whole. -/
theorem takeArg_eq_self (hfirst : t.head?.any isNameByte) (ht : ∀ b ∈ t, Text.isIdent b) : takeArg t = (t, []) := by
  have hlongest : LongestArg t [] := .present hfirst ⟨ht, rfl⟩
  rw [← hlongest.takeArg, List.append_nil]

/-! ## Readers -/

section Readers

variable {α β : Type} {a : α} {b : β} {found rest : Text} {pattern : Text → Text × Text}

theorem Reader.and_eq_some {p : Reader α} {q : Reader β} :
    p.and q t = some ((a, b), rest) ↔ ∃ between, p t = some (a, between) ∧ q between = some (b, rest) := by
  simp [Reader.and, Option.bind_eq_some_iff]

theorem Reader.token_eq_some :
    Reader.token pattern t = some (found, rest) ↔ pattern (t.dropWhile isGap) = (found, rest) ∧ found ≠ [] := by
  simp only [Reader.token, List.isEmpty_iff, Option.ite_none_left_eq_some, Option.some_inj]
  constructor
  · rintro ⟨hne, heq⟩
    exact ⟨heq, by rwa [heq] at hne⟩
  · rintro ⟨heq, hne⟩
    exact ⟨by rwa [heq], heq⟩

theorem Reader.word_hash (t : Text) : Reader.word "#" (Text.byte '#' :: t) = some (Text.ofString "#", t) := by
  have hgap : (Text.byte '#' :: t).dropWhile isGap = Text.ofString "#" ++ t := List.dropWhile_cons_of_neg (by decide)
  rw [Reader.word, hgap, Text.afterPrefix?_eq_some.mpr rfl, Option.map_some]

/-- An optional token takes what its pattern matches after the gap, perhaps nothing, and stops after that or, if it has
taken nothing, before the gap. -/
theorem Reader.maybe_token (hpattern : ∀ t, (pattern t).1 ++ (pattern t).2 = t) (t : Text) :
    ∃ found rest, (Reader.token pattern).maybe t = some (found, rest) ∧
      found.getD [] = (pattern (t.dropWhile isGap)).1 ∧
      rest.dropWhile isGap = (pattern (t.dropWhile isGap)).2.dropWhile isGap := by
  cases h : Reader.token pattern t with
  | some r =>
    obtain ⟨heq, -⟩ := Reader.token_eq_some.mp h
    exact ⟨some r.1, r.2, by rw [Reader.maybe, h], by rw [heq]; rfl, by rw [heq]⟩
  | none =>
    have hnothing : (pattern (t.dropWhile isGap)).1 = [] := by
      by_contra hne
      have hsome := Reader.token_eq_some.mpr ⟨Prod.mk.eta.symm, hne⟩
      rw [h] at hsome
      cases hsome
    have hstays := hpattern (t.dropWhile isGap)
    rw [hnothing, List.nil_append] at hstays
    exact ⟨none, t, by rw [Reader.maybe, h], hnothing.symm, by rw [hstays, List.dropWhile_idempotent]⟩

/-- What follows the name of a directive is always read: an identifier or nothing, and the rest of the line. -/
theorem operands_eq (t : Text) : ∃ arg rest after, operands t = some ((arg, rest), after) ∧
    arg.getD [] = (takeArg (t.dropWhile isGap)).1 ∧
    rest.getD [] = ((takeArg (t.dropWhile isGap)).2.dropWhile isGap).takeWhile (· != Text.byte '\n') := by
  obtain ⟨arg, between, harg, hfound, hbetween⟩ := Reader.maybe_token (fun t => (longestArg_takeArg t).1) t
  have hspan (t : Text) : (t.span (· != Text.byte '\n')).1 ++ (t.span (· != Text.byte '\n')).2 = t := by
    rw [List.span_eq_takeWhile_dropWhile, List.takeWhile_append_dropWhile]
  obtain ⟨rest, after, hrest, htaken, -⟩ := Reader.maybe_token hspan between
  refine ⟨arg, rest, after, Reader.and_eq_some.mpr ⟨between, harg, hrest⟩, hfound, ?_⟩
  rw [htaken, hbetween, List.span_eq_takeWhile_dropWhile]

end Readers

/-! ## Names -/

/-- **A line is read by its parts.** After a hash and a gap stands a name, and what follows the name is the longest
identifier after a gap and the rest. -/
theorem parse?_eq_some : parse? line = some d ↔ ∃ t name after, line.trim = Text.byte '#' :: t ∧
    (t.dropWhile isGap).span isNameByte = (name, after) ∧ name ≠ [] ∧
    d = ⟨name, (takeArg (after.dropWhile isGap)).1,
      Text.trim (((takeArg (after.dropWhile isGap)).2.dropWhile isGap).takeWhile (· != Text.byte '\n'))⟩ := by
  have hhash : Text.ofString "#" = [Text.byte '#'] := rfl
  constructor
  · intro h
    rw [parse?] at h
    split at h
    · next hstarts =>
      rw [hhash, Text.startsWith_singleton, List.head?_eq_some_iff] at hstarts
      obtain ⟨t, ht⟩ := hstarts
      rw [ht, Option.map_eq_some_iff] at h
      obtain ⟨⟨⟨word, name, arg, rest⟩, last⟩, hparts, rfl⟩ := h
      obtain ⟨between, hword, hparts⟩ := Reader.and_eq_some.mp hparts
      rw [Reader.word_hash] at hword
      cases hword
      obtain ⟨after, hname, hoperands⟩ := Reader.and_eq_some.mp hparts
      obtain ⟨hspan, hne⟩ := Reader.token_eq_some.mp hname
      obtain ⟨arg', rest', last', heq, harg, hrest⟩ := operands_eq after
      rw [hoperands] at heq
      cases heq
      exact ⟨t, name, after, ht, hspan, hne, by dsimp only; rw [harg, hrest]⟩
    · cases h
  · rintro ⟨t, name, after, ht, hspan, hne, rfl⟩
    obtain ⟨arg, rest, last, hoperands, harg, hrest⟩ := operands_eq after
    have hname := Reader.token_eq_some.mpr ⟨hspan, hne⟩
    have hparts : parts line.trim = some ((Text.ofString "#", name, arg, rest), last) := by
      rw [ht]
      exact Reader.and_eq_some.mpr ⟨t, Reader.word_hash t, Reader.and_eq_some.mpr ⟨after, hname, hoperands⟩⟩
    rw [parse?, if_pos (by rw [ht]; rfl), hparts, Option.map_some]
    dsimp only
    rw [harg, hrest]

/-- What is read from a hash, a gap and a name, if what follows does not continue the name. -/
theorem parse?_of_gap (gap : Text) (hline : line.trim = Text.byte '#' :: (gap ++ (name ++ t)))
    (hgap : ∀ b ∈ gap, isGap b) (hne : name ≠ []) (hname : Text.Longest isNameByte name t) :
    parse? line = some
      ⟨name, (takeArg (t.dropWhile isGap)).1,
        Text.trim (((takeArg (t.dropWhile isGap)).2.dropWhile isGap).takeWhile (· != Text.byte '\n'))⟩ := by
  have hstops : (name ++ t).head?.any isGap = false := by
    obtain ⟨b, name, rfl⟩ := List.exists_cons_of_ne_nil hne
    exact isGap_of_isNameByte (hname.all b List.mem_cons_self)
  have hlongest : Text.Longest isGap gap (name ++ t) := ⟨hgap, hstops⟩
  exact parse?_eq_some.mpr ⟨_, name, t, hline, by rw [hlongest.dropWhile, hname.span], hne, rfl⟩

/-- **A hash and a name are read as a directive of that name.** -/
theorem parse?_of_trim (hline : line.trim = Text.byte '#' :: (name ++ t)) (hne : name ≠ [])
    (hname : ∀ b ∈ name, isNameByte b) (ht : t.head?.any isNameByte = false) :
    parse? line = some
      ⟨name, (takeArg (t.dropWhile isGap)).1,
        Text.trim (((takeArg (t.dropWhile isGap)).2.dropWhile isGap).takeWhile (· != Text.byte '\n'))⟩ :=
  parse?_of_gap [] hline (by simp) hne ⟨hname, ht⟩

/-- **The argument of a directive does not begin with a digit.** -/
theorem head?_arg (h : parse? line = some d) : d.arg = [] ∨ d.arg.head?.any isNameByte := by
  obtain ⟨t, name, after, -, -, -, rfl⟩ := parse?_eq_some.mp h
  exact (longestArg_takeArg _).2.head?

/-! ## Lines that spell a directive -/

/-- A space, a tab or a carriage return. -/
def isSpacing (b : UInt8) : Bool := b == Text.byte ' ' || b == Text.byte '\t' || b == Text.byte '\r'

/-- The text is a directive: a hash, a name, perhaps an identifier, and the rest, with a gap before each. Gaps, name and
identifier reach as far as they can. -/
structure Spelling (t : Text) where
  {gap₁ name gap₂ arg gap₃ tail : Text}
  text_eq : t = Text.byte '#' :: (gap₁ ++ (name ++ (gap₂ ++ (arg ++ (gap₃ ++ tail)))))
  name_ne_nil : name ≠ []
  gap₁_longest : Text.Longest isSpacing gap₁ (name ++ (gap₂ ++ (arg ++ (gap₃ ++ tail))))
  name_longest : Text.Longest isNameByte name (gap₂ ++ (arg ++ (gap₃ ++ tail)))
  gap₂_longest : Text.Longest isSpacing gap₂ (arg ++ (gap₃ ++ tail))
  arg_longest : LongestArg arg (gap₃ ++ tail)
  gap₃_longest : Text.Longest isSpacing gap₃ tail

/-- The directive that is spelled. -/
def Spelling.directive (s : Spelling t) : Directive := ⟨s.name, s.arg, s.tail.trim⟩

/-! ## Lines without newlines -/

theorem isGap_of_isSpacing {b : UInt8} (h : isSpacing b) : isGap b := by
  rw [isGap, Bool.or_eq_true]
  exact .inl h

theorem isGap_eq {b : UInt8} (hb : b ≠ Text.byte '\n') : isGap b = isSpacing b := by
  rw [isGap, beq_eq_false_iff_ne.mpr hb, Bool.or_false, isSpacing]

theorem longest_gap (ht : Text.byte '\n' ∉ t) : Text.Longest isSpacing (t.takeWhile isGap) (t.dropWhile isGap) := by
  refine (Text.longest_takeWhile isGap t).congr fun b hb => isGap_eq ?_
  rintro rfl
  rw [List.takeWhile_append_dropWhile] at hb
  exact ht hb

theorem longest_isGap (h : Text.Longest isSpacing gap after) (ht : Text.byte '\n' ∉ gap ++ after) :
    Text.Longest isGap gap after :=
  h.congr fun _ hb => (isGap_eq fun hnewline => ht (hnewline ▸ hb)).symm

theorem takeWhile_newline (ht : Text.byte '\n' ∉ t) : t.takeWhile (· != Text.byte '\n') = t := by
  rw [List.takeWhile_eq_self_iff]
  intro b hb
  rw [bne_iff_ne]
  rintro rfl
  exact ht hb

/-- **A directive is read as it is spelled.** -/
theorem Spelling.parse? (s : Spelling line.trim) (hline : Text.byte '\n' ∉ line) : parse? line = some s.directive := by
  have htrim : Text.byte '\n' ∉ line.trim := fun h => hline (Text.mem_of_mem_trim h)
  rw [s.text_eq, List.mem_cons, List.mem_append, List.mem_append, not_or, not_or, not_or] at htrim
  obtain ⟨-, -, -, hgap₂⟩ := htrim
  have hgap₃ : Text.byte '\n' ∉ s.gap₃ ++ s.tail := by
    intro h
    rw [List.mem_append, List.mem_append, not_or, not_or] at hgap₂
    exact hgap₂.2.2 h
  have htail := takeWhile_newline fun h => hgap₃ (List.mem_append_right s.gap₃ h)
  have hgap₁ : ∀ b ∈ s.gap₁, isGap b := fun b hb => isGap_of_isSpacing (s.gap₁_longest.all b hb)
  rw [parse?_of_gap s.gap₁ s.text_eq hgap₁ s.name_ne_nil s.name_longest,
    (longest_isGap s.gap₂_longest hgap₂).dropWhile, s.arg_longest.takeArg]
  simp only [(longest_isGap s.gap₃_longest hgap₃).dropWhile, htail, Spelling.directive]

/-- What stands after the name of a directive is a gap, perhaps an identifier, a gap, and the rest. -/
theorem exists_parts (ht : Text.byte '\n' ∉ t) : ∃ gap₂ arg gap₃ tail : Text,
    t = gap₂ ++ (arg ++ (gap₃ ++ tail)) ∧ Text.Longest isSpacing gap₂ (arg ++ (gap₃ ++ tail)) ∧
      LongestArg arg (gap₃ ++ tail) ∧ Text.Longest isSpacing gap₃ tail := by
  have hgap₂ := longest_gap ht
  obtain ⟨harg, hlongest⟩ := longestArg_takeArg (t.dropWhile isGap)
  have hafter : Text.byte '\n' ∉ (takeArg (t.dropWhile isGap)).2 := by
    intro h
    refine ht ((List.dropWhile_suffix isGap).subset ?_)
    rw [← harg]
    exact List.mem_append_right _ h
  have hgap₃ := longest_gap hafter
  refine ⟨t.takeWhile isGap, (takeArg (t.dropWhile isGap)).1, _, _, ?_, ?_, ?_, hgap₃⟩
  · rw [List.takeWhile_append_dropWhile, harg, List.takeWhile_append_dropWhile]
  · rwa [List.takeWhile_append_dropWhile, harg]
  · rwa [List.takeWhile_append_dropWhile]

/-- The text begins with a hash, a gap and a byte of a name. -/
def Begins (t : Text) : Prop :=
  ∃ gap b rest, t = Text.byte '#' :: (gap ++ b :: rest) ∧ (∀ c ∈ gap, isSpacing c) ∧ isNameByte b

theorem Begins.exists_spelling (h : Begins t) (ht : Text.byte '\n' ∉ t) : Nonempty (Spelling t) := by
  obtain ⟨gap, b, rest, rfl, hgap, hb⟩ := h
  have hname := Text.longest_takeWhile isNameByte (b :: rest)
  have hne : (b :: rest).takeWhile isNameByte ≠ [] := by simp [List.takeWhile_cons_of_pos hb]
  have hrest : Text.byte '\n' ∉ (b :: rest).dropWhile isNameByte := by
    intro h
    rw [List.mem_cons, List.mem_append, not_or, not_or] at ht
    exact ht.2.2 ((List.dropWhile_suffix isNameByte).subset h)
  have hstops : isSpacing b = false := by
    rw [← Bool.not_eq_true]
    intro h
    have hno := isGap_of_isNameByte hb
    rw [isGap_of_isSpacing h] at hno
    cases hno
  have hsplit := List.takeWhile_append_dropWhile (p := isNameByte) (l := b :: rest)
  obtain ⟨gap₂, arg, gap₃, tail, hparts, hgap₂, harg, hgap₃⟩ := exists_parts hrest
  rw [hparts] at hname hsplit
  exact ⟨⟨by rw [hsplit], hne, ⟨hgap, by rw [hsplit]; exact hstops⟩, hname, hgap₂, harg, hgap₃⟩⟩

theorem begins_of_isSome (hline : Text.byte '\n' ∉ line) (h : (parse? line).isSome) : Begins line.trim := by
  have htrim : Text.byte '\n' ∉ line.trim := fun h => hline (Text.mem_of_mem_trim h)
  obtain ⟨d, hd⟩ := Option.isSome_iff_exists.mp h
  obtain ⟨t, name, after, ht, hspan, hne, -⟩ := parse?_eq_some.mp hd
  rw [ht, List.mem_cons, not_or] at htrim
  rw [List.span_eq_takeWhile_dropWhile, Prod.mk.injEq] at hspan
  obtain ⟨hfront, -⟩ := hspan
  obtain ⟨b, name, rfl⟩ := List.exists_cons_of_ne_nil hne
  have hsplit := List.takeWhile_append_dropWhile (p := isNameByte) (l := t.dropWhile isGap)
  rw [hfront, List.cons_append] at hsplit
  have hb : isNameByte b := List.mem_takeWhile_imp (hfront ▸ List.mem_cons_self)
  refine ⟨t.takeWhile isGap, b, name ++ (t.dropWhile isGap).dropWhile isNameByte, ?_, (longest_gap htrim.2).all, hb⟩
  rw [ht, hsplit, List.takeWhile_append_dropWhile]

/-- **A line is read as a directive exactly if it spells it.** -/
theorem parse?_eq_some_iff (hline : Text.byte '\n' ∉ line) :
    parse? line = some d ↔ ∃ s : Spelling line.trim, s.directive = d := by
  constructor
  · intro h
    have htrim : Text.byte '\n' ∉ line.trim := fun h => hline (Text.mem_of_mem_trim h)
    obtain ⟨s⟩ := (begins_of_isSome hline (by rw [h]; rfl)).exists_spelling htrim
    rw [s.parse? hline] at h
    exact ⟨s, Option.some.inj h⟩
  · rintro ⟨s, rfl⟩
    exact s.parse? hline

/-- A line can be read exactly if it begins as a directive. -/
theorem isSome_parse?_iff (hline : Text.byte '\n' ∉ line) : (parse? line).isSome ↔ Begins line.trim := by
  constructor
  · exact begins_of_isSome hline
  · intro h
    obtain ⟨s⟩ := h.exists_spelling fun h => hline (Text.mem_of_mem_trim h)
    rw [s.parse? hline]
    rfl

/-! ## Writing and reading -/

/-- A line with one space before the identifier and before the rest spells the directive. -/
theorem parse?_spaced {rest : Text} (hne : name ≠ []) (hname : ∀ b ∈ name, isNameByte b)
    (hfirst : arg.head?.any isNameByte) (harg : ∀ b ∈ arg, Text.isIdent b) (hrest : rest ≠ [])
    (hnewline : Text.byte '\n' ∉ rest) (htrim : rest.trim = rest) :
    parse? (Text.byte '#' :: (name ++ Text.byte ' ' :: (arg ++ Text.byte ' ' :: rest))) = some ⟨name, arg, rest⟩ := by
  have hself : Text.trim (Text.byte '#' :: (name ++ Text.byte ' ' :: (arg ++ Text.byte ' ' :: rest))) =
      Text.byte '#' :: (name ++ Text.byte ' ' :: (arg ++ Text.byte ' ' :: rest)) := by
    have hend := Text.trimRight_append_trimmed (c := Text.byte ' ') (by decide) hrest htrim
      (Text.byte '#' :: (name ++ Text.byte ' ' :: arg))
    rw [Text.trim, Text.trimLeft_cons (by decide)]
    simpa using hend
  have hgap₂ : Text.Longest isGap [Text.byte ' '] (arg ++ Text.byte ' ' :: rest) := by
    refine ⟨List.forall_mem_singleton.mpr rfl, ?_⟩
    obtain ⟨b, arg, rfl⟩ := List.exists_cons_of_ne_nil (l := arg) (by rintro rfl; cases hfirst)
    exact isGap_of_isNameByte hfirst
  have hgap₃ : Text.Longest isGap [Text.byte ' '] rest := by
    refine ⟨List.forall_mem_singleton.mpr rfl, ?_⟩
    rw [← htrim]
    exact Text.head?_trim (fun _ => isBlank_of_isGap) rest
  have harg' : takeArg (arg ++ Text.byte ' ' :: rest) = (arg, Text.byte ' ' :: rest) :=
    LongestArg.takeArg (.present hfirst ⟨harg, rfl⟩)
  have hdrop₂ : (Text.byte ' ' :: (arg ++ Text.byte ' ' :: rest)).dropWhile isGap = _ := hgap₂.dropWhile
  have hdrop₃ : (Text.byte ' ' :: rest).dropWhile isGap = rest := hgap₃.dropWhile
  rw [parse?_of_gap [] hself (by simp) hne ⟨hname, rfl⟩]
  simp only [hdrop₂, harg', hdrop₃, takeWhile_newline hnewline, htrim]

/-- **Reading a line and writing a directive.** A line without newlines can be read exactly if, between white space, it
begins with a hash, spacing and a byte of a name. What is read is what the line spells: the longest name, the longest
identifier or none, and the trimmed rest, with spacing between them. And a directive written with single spaces between
its parts is read back as it was. -/
theorem parse?_iff_spelling :
    (∀ line, Text.byte '\n' ∉ line →
      ((parse? line).isSome ↔ ∃ gap b rest, line.trim = Text.byte '#' :: (gap ++ b :: rest) ∧
        (∀ c ∈ gap, isSpacing c) ∧ isNameByte b) ∧
      ∀ d, parse? line = some d ↔ ∃ s : Spelling line.trim, s.directive = d) ∧
    ∀ name arg rest : Text, name ≠ [] → (∀ b ∈ name, isNameByte b) → arg.head?.any isNameByte →
      (∀ b ∈ arg, Text.isIdent b) → rest ≠ [] → Text.byte '\n' ∉ rest → rest.trim = rest →
      parse? ("#" ++ name ++ " " ++ arg ++ " " ++ rest) = some ⟨name, arg, rest⟩ := by
  refine ⟨fun line hline => ⟨isSome_parse?_iff hline, fun d => parse?_eq_some_iff hline⟩, ?_⟩
  intro name arg rest hne hname hfirst harg hrest hnewline htrim
  have hwritten : "#" ++ name ++ " " ++ arg ++ " " ++ rest =
      Text.byte '#' :: (name ++ Text.byte ' ' :: (arg ++ Text.byte ' ' :: rest)) := by
    have hhash : Text.ofString "#" = [Text.byte '#'] := rfl
    have hspace : Text.ofString " " = [Text.byte ' '] := rfl
    simp [hhash, hspace]
  rw [hwritten, parse?_spaced hne hname hfirst harg hrest hnewline htrim]

/-- A line with tabs and a no-break space is read as it is spelled, and a definition is read back as it was written. -/
theorem parse?_iff_spelling_define :
    let line := Text.ofString "\t#\tif X\u00a0/* a */\r"
    (∃ s : Spelling line.trim, s.directive = ⟨"if", "X", "/* a */"⟩) ∧
      parse? "#define MAX_2 (a * b)" = some ⟨"define", "MAX_2", "(a * b)"⟩ := by
  intro line
  obtain ⟨hread, hback⟩ := parse?_iff_spelling
  refine ⟨((hread line (by decide)).2 _).mp (by decide +kernel), ?_⟩
  exact hback "define" "MAX_2" "(a * b)" (by decide) (List.all_eq_true.mp rfl) (by decide) (List.all_eq_true.mp rfl)
    (by decide) (by decide) (by decide +kernel)

end Directive

end HouseStyle
