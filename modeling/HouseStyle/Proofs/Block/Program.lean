import HouseStyle.Proofs.Block.Machine

/-!
# Programs and their layout

A program is a tree of statements: plain lines, blank lines, blocks between braces, control lines with a block or with a
body of one line, and the arms of a `switch`. Its layout (`Program.render`) indents every line by a fixed number of
spaces per level of the tree.

**The layout of a program is clean** (`verify_render`): no line of it is reported. The proof follows the tree: the
machine reads the layout of a statement list without a report and comes back to the frames it started from
(`quiet_render`), each construct by the steps of its lines.
-/

namespace HouseStyle

/-! ## Texts of lines -/

/-- The text begins with a character that is not white space. -/
def Text.Inked (t : Text) : Prop := t ≠ [] ∧ t.leadingWidth = 0

instance (t : Text) : Decidable t.Inked := inferInstanceAs (Decidable (_ ∧ _))

namespace Line

/-- A plain line: no brace, no label, no control line. -/
def Plain (t : Text) : Prop :=
  t.Inked ∧ isOpeningBrace t = false ∧ isClosingBrace t = false ∧ isLabel t = false ∧ controlKeyword? t = none

/-- A line that begins with a control keyword. -/
def Control (t : Text) : Prop := t.Inked ∧ (controlKeyword? t).isSome

instance (t : Text) : Decidable (Plain t) := inferInstanceAs (Decidable (_ ∧ _))

instance (t : Text) : Decidable (Control t) := inferInstanceAs (Decidable (_ ∧ _))

end Line

/-! ## Programs -/

/-- The body of a control line without braces: a line, or a control line with a body of its own. -/
inductive Governed where
  | line (text : Text)
  | control (text : Text) (body : Governed)

/-- A list of statements. -/
inductive Program where
  /-- No statement. -/
  | done
  | plain (text : Text) (rest : Program)
  | blank (line : Text) (rest : Program)
  /-- A block between braces. -/
  | block (opening : Text) (body : Program) (closing : Text) (rest : Program)
  /-- A control line before a block, which is the first statement of the rest. -/
  | guard (text : Text) (rest : Program)
  /-- A control line with a body without braces. -/
  | control (text : Text) (body : Governed) (rest : Program)
  /-- A label, the statements of its arm, and the line that ends the arm, if there is one. -/
  | arm (label : Text) (body : Program) (last : Option Text) (rest : Program)

/-- The text at a level of the tree. -/
def indent (unit depth : Nat) (text : Text) : Text := Text.spaces (depth * unit) ++ text

/-- The lines of a body at a level. -/
def Governed.render (unit : Nat) : (depth : Nat) → Governed → List Text
  | depth, .line text => [indent unit depth text]
  | depth, .control text body => indent unit depth text :: body.render unit (depth + 1)

/-- The line that a body begins with. -/
def Governed.first : Governed → Text
  | .line text => text
  | .control text _ => text

/-- A body is plain, and does not begin with a brace. -/
def Governed.Legal : Governed → Prop
  | .line text => Line.Plain text ∧ text.startsWith "\x7b" = false
  | .control text body => Line.Control text ∧ body.Legal

namespace Program

/-- The lines of a statement list at a level. -/
def render (unit : Nat) : (depth : Nat) → Program → List Text
  | _, done => []
  | depth, plain text rest => indent unit depth text :: rest.render unit depth
  | depth, blank line rest => line :: rest.render unit depth
  | depth, block opening body closing rest =>
    indent unit depth opening :: (body.render unit (depth + 1) ++
      indent unit depth closing :: rest.render unit depth)
  | depth, guard text rest => indent unit depth text :: rest.render unit depth
  | depth, control text body rest =>
    indent unit depth text :: (body.render unit (depth + 1) ++ rest.render unit depth)
  | depth, arm label body last rest =>
    indent unit depth label :: (body.render unit (depth + 1) ++
      ((last.map (indent unit (depth + 1))).toList ++ rest.render unit depth))

/-- The line that a statement list begins with. -/
def first? : Program → Option Text
  | done => none
  | plain text _ => some text
  | blank line _ => some line
  | block opening _ _ _ => some opening
  | guard text _ => some text
  | control text _ _ => some text
  | arm label _ _ _ => some label

/-- The statement list begins with a block. -/
def beginsWithBlock : Program → Bool
  | block _ _ _ _ => true
  | _ => false

/-- An arm may end so before the line `next`: with a line that ends it, or else before a label, a closing brace or the
end of the file. -/
def EndsArm (last next : Option Text) : Prop :=
  match last with
  | some text => text.Inked ∧ Line.endsCase text next
  | none => next.all fun line => Line.isLabel line || Line.isClosingBrace line

/-- The statement list is well-formed where the line `after` follows it. In an arm, neither a label nor a plain line
that ends the arm stands between its statements. -/
def Legal (inArm : Bool) (after : Option Text) : Program → Prop
  | done => True
  | plain text rest =>
    Line.Plain text ∧ (inArm → Line.beginsWith text "break" = false ∧ Line.beginsWith text "return" = false) ∧
      rest.Legal inArm after
  | blank line rest => line.isBlank ∧ rest.Legal inArm after
  | block opening body closing rest =>
    (opening.Inked ∧ Line.isOpeningBrace opening) ∧ body.Legal false (some closing) ∧
      (closing.Inked ∧ Line.isClosingBrace closing) ∧ rest.Legal inArm after
  | guard text rest => Line.Control text ∧ rest.beginsWithBlock ∧ rest.Legal inArm after
  | control text body rest => Line.Control text ∧ body.Legal ∧ rest.Legal inArm after
  | arm label body last rest =>
    inArm = false ∧ (label.Inked ∧ Line.isLabel label) ∧ body.Legal true (last.or (rest.first?.or after)) ∧
      EndsArm last (rest.first?.or after) ∧ rest.Legal inArm after

end Program

instance Governed.decidableLegal : (body : Governed) → Decidable body.Legal
  | .line _ => inferInstanceAs (Decidable (_ ∧ _))
  | .control _ body =>
    have := decidableLegal body
    inferInstanceAs (Decidable (_ ∧ _))

instance (last next : Option Text) : Decidable (Program.EndsArm last next) :=
  match last with
  | some _ => inferInstanceAs (Decidable (_ ∧ _))
  | none => inferInstanceAs (Decidable (_ = true))

instance Program.decidableLegal : (inArm : Bool) → (after : Option Text) → (p : Program) →
    Decidable (p.Legal inArm after)
  | _, _, .done => inferInstanceAs (Decidable True)
  | inArm, after, .plain _ rest =>
    have := decidableLegal inArm after rest
    inferInstanceAs (Decidable (_ ∧ (_ → _ ∧ _) ∧ _))
  | inArm, after, .blank _ rest =>
    have := decidableLegal inArm after rest
    inferInstanceAs (Decidable (_ ∧ _))
  | inArm, after, .block _ body closing rest =>
    have := decidableLegal false (some closing) body
    have := decidableLegal inArm after rest
    inferInstanceAs (Decidable ((_ ∧ _) ∧ _ ∧ (_ ∧ _) ∧ _))
  | inArm, after, .guard _ rest =>
    have := decidableLegal inArm after rest
    inferInstanceAs (Decidable (_ ∧ _ ∧ _))
  | inArm, after, .control _ _ rest =>
    have := decidableLegal inArm after rest
    inferInstanceAs (Decidable (_ ∧ _ ∧ _))
  | inArm, after, .arm _ body last rest =>
    have := decidableLegal true (last.or (rest.first?.or after)) body
    have := decidableLegal inArm after rest
    inferInstanceAs (Decidable (_ ∧ (_ ∧ _) ∧ _ ∧ _ ∧ _))

/-! ## Shapes of the lines of a layout -/

theorem trimLeft_indent (unit depth : Nat) {t : Text} (ht : t.Inked) : (indent unit depth t).trimLeft = t := by
  rw [indent, Text.trimLeft_spaces, Text.trimLeft_eq_self ht.2]

theorem leadingWidth_indent (unit depth : Nat) {t : Text} (ht : t.Inked) :
    (indent unit depth t).leadingWidth = depth * unit := by
  rw [indent, Text.leadingWidth_spaces, ht.2, Nat.add_zero]

namespace Shape

/-- The shape of a line at any level is that of its text. -/
theorem ofLine_indent (unit depth : Nat) {t : Text} (ht : t.Inked) {next after : Option Text}
    (h : next.map Text.trimLeft = after.map Text.trimLeft) : ofLine (indent unit depth t) next = ofLine t after := by
  rw [← ofLine_trimLeft, trimLeft_indent unit depth ht, h, ← ofLine_trimLeft t after, Text.trimLeft_eq_self ht.2]

/-- The line neither opens nor ends a region, unless it ends an arm. -/
def Neutral (s : Shape) : Prop := s.opens = false ∧ s.closes = false ∧ s.labels = false ∧ s.governs = false

theorem neutral_of_plain {t : Text} (ht : Line.Plain t) (next : Option Text) : (ofLine t next).Neutral := by
  obtain ⟨_, ho, hc, hl, hk⟩ := ht
  refine ⟨ho, hc, hl, ?_⟩
  cases next with
  | none => rfl
  | some next => simp [ofLine, Line.governedBy?, hk]

/-- A blank line has no property. -/
theorem of_blank {line : Text} (h : line.isBlank) (next : Option Text) :
    (ofLine line next).Neutral ∧ (ofLine line next).terminates = false := by
  have hall : ∀ p ∈ (ofLine line next).leads, p.1 = false := by
    intro p hp
    by_contra hne
    obtain ⟨b, _, hb⟩ := lead_of_mem_leads hp (by simpa using hne)
    rw [Line.lead_of_isBlank h] at hb
    cases hb
  simpa [Neutral, leads, and_assoc] using hall

/-- A control line governs the line after it, unless that begins with a brace. -/
theorem governs_of_control {t next : Text} (ht : Line.Control t) (h : next.trimLeft.startsWith "\x7b" = false) :
    (ofLine t (some next)).governs := by
  simpa [ofLine, Line.governedBy?, h] using ht.2

/-- A control line has no other role. -/
theorem of_control {t : Text} (ht : Line.Control t) (next : Option Text) :
    (ofLine t next).opens = false ∧ (ofLine t next).closes = false ∧ (ofLine t next).labels = false ∧
      (ofLine t next).terminates = false := by
  -- Before an empty line it governs, and its other roles do not depend on the line after it.
  have hg : (ofLine t (some [])).governs := governs_of_control ht rfl
  obtain ⟨ho, hc, hl, hend⟩ := (ofLine_exclusive t (some [])).of_governs hg
  have hempty : Line.beginsWith [] "break" = false := by decide
  have hword : Line.beginsWith t "break" = false ∧ Line.beginsWith t "return" = false := by
    simpa [ofLine, Line.endsCase, hempty] using hend
  refine ⟨ho, hc, hl, ?_⟩
  simp [ofLine, Line.endsCase, hword]

end Shape

theorem Governed.inked_first {body : Governed} (h : body.Legal) : body.first.Inked := by
  cases body with
  | line text => exact h.1.1
  | control text body => exact h.1.1

/-- A body does not begin with a brace. -/
theorem Governed.startsWith_first {body : Governed} (h : body.Legal) : body.first.startsWith "\x7b" = false := by
  cases body with
  | line text => exact h.2
  | control text body =>
    by_contra hne
    obtain ⟨rest, hrest⟩ : Text.ofString "\x7b" <+: text := by simpa [first, Text.startsWith] using hne
    obtain ⟨word, hword⟩ := Option.isSome_iff_exists.mp h.1.2
    obtain ⟨b, hb, hlead⟩ := Line.lead_of_controlKeyword? hword
    rw [Line.lead, Text.trimLeft_eq_self h.1.1.2, ← hrest] at hlead
    obtain rfl : Text.byte '{' = b := Option.some.inj hlead
    revert hb
    decide

namespace Rule

open Block

/-! ## Reading without a report -/

variable {unit depth : Nat} {f : Frame} {stack stack' stack'' outer : List Frame}
variable {lines lines' lines'' rest : List Text}

/-- The machine comes from the frames `stack` at the lines `lines` to the frames `stack'` at the lines `lines'` without
a report. -/
def Quiet (unit : Nat) (stack : List Frame) (lines : List Text) (stack' : List Frame) (lines' : List Text) : Prop :=
  ∀ n, ∃ m, stackFindings unit n stack lines = stackFindings unit m stack' lines'

namespace Quiet

theorem refl (stack : List Frame) (lines : List Text) : Quiet unit stack lines stack lines := fun n => ⟨n, rfl⟩

theorem trans (h : Quiet unit stack lines stack' lines') (h' : Quiet unit stack' lines' stack'' lines'') :
    Quiet unit stack lines stack'' lines'' := by
  intro n
  obtain ⟨m, hm⟩ := h n
  obtain ⟨k, hk⟩ := h' m
  exact ⟨k, hm.trans hk⟩

/-- A line that the innermost region takes and that is indented as the verdict on it says. -/
theorem take {line : Text} (hp : f.passes (Shape.ofLine line rest.head?) = false)
    (hlevel : line.isBlank ∨ line.leadingWidth = (f.judge (Shape.ofLine line rest.head?)).level * unit)
    (hbrace : (f.judge (Shape.ofLine line rest.head?)).unexpected = false) :
    Quiet unit (f :: outer) (line :: rest) (f.take (Shape.ofLine line rest.head?) outer) rest := by
  intro n
  refine ⟨n + 1, ?_⟩
  have hnone : stackMessages unit line (f.judge (Shape.ofLine line rest.head?)) = [] := by
    have hwidth : line.isBlank ∨
        measuredWidth line = word ((f.judge (Shape.ofLine line rest.head?)).level * (unit : Int)) := by
      refine hlevel.imp_right fun h => ?_
      rw [measuredWidth, h, Int.natCast_mul]
    rw [stackMessages, if_pos hwidth, hbrace]
    rfl
  rw [stackFindings, judge_take hp, advance_take hp, hnone]
  rfl

/-- A region that ends before a line. -/
theorem pass {line : Text} (hp : f.passes (Shape.ofLine line rest.head?)) :
    Quiet unit (f :: outer) (line :: rest) outer (line :: rest) := by
  intro n
  refine ⟨n, ?_⟩
  simp only [stackFindings, judge, advance, settle_pass hp]

end Quiet

/-! ## The lines of each construct -/

/-- The region of a statement list: an arm, or a block. -/
def listFrame (inArm : Bool) (depth : Nat) : Frame := ⟨if inArm then .arm else .block, depth⟩

/-- The lines begin with the line `after`, up to its indentation. -/
def Ahead (lines : List Text) (after : Option Text) : Prop :=
  lines.head?.map Text.trimLeft = after.map Text.trimLeft

theorem judge_other {s : Shape} (hc : s.closes = false) : f.judge s = ⟨f.depth, false⟩ := by
  simp [Frame.judge, hc]

theorem passes_other {s : Shape} (hc : s.closes = false) (hl : s.labels = false) : f.passes s = false := by
  simp [Frame.passes, hc, hl]

/-- A line that leaves the regions as they are. -/
theorem take_neutral {s : Shape} {inArm : Bool} (hs : s.Neutral) (hend : inArm → s.terminates = false) :
    (listFrame inArm depth).take s outer = listFrame inArm depth :: outer := by
  obtain ⟨ho, hc, hl, hg⟩ := hs
  cases inArm with
  | false => simp [listFrame, Frame.take, ho, hc, hl, hg]
  | true => simp [listFrame, Frame.take, ho, hg, hend rfl]

namespace Quiet

theorem blank {inArm : Bool} {line : Text} (h : line.isBlank) :
    Quiet unit (listFrame inArm depth :: outer) (line :: rest) (listFrame inArm depth :: outer) rest := by
  obtain ⟨hs, hend⟩ := Shape.of_blank h rest.head?
  have ⟨_, hc, hl, _⟩ := hs
  have hq : Quiet unit (listFrame inArm depth :: outer) (line :: rest) _ rest :=
    take (passes_other hc hl) (Or.inl h) (by rw [judge_other hc])
  rw [take_neutral hs fun _ => hend] at hq
  exact hq

variable {inArm : Bool} {t : Text} {after : Option Text} (hafter : Ahead rest after)
include hafter

/-- A text at the level that the verdict on it says. -/
theorem text (ht : t.Inked) (hp : f.passes (Shape.ofLine t after) = false)
    (hjudge : f.judge (Shape.ofLine t after) = ⟨depth, false⟩) (htake : f.take (Shape.ofLine t after) outer = stack') :
    Quiet unit (f :: outer) (indent unit depth t :: rest) stack' rest := by
  have hshape := Shape.ofLine_indent unit depth ht hafter
  have h : Quiet unit (f :: outer) (indent unit depth t :: rest) _ rest := take (hshape ▸ hp) (Or.inr ?_) ?_
  · rw [hshape, htake] at h
    exact h
  · rw [hshape, hjudge, leadingWidth_indent unit depth ht]
  · rw [hshape, hjudge]

theorem neutral (ht : t.Inked) (hs : (Shape.ofLine t after).Neutral)
    (hend : inArm → (Shape.ofLine t after).terminates = false) :
    Quiet unit (listFrame inArm depth :: outer) (indent unit depth t :: rest)
      (listFrame inArm depth :: outer) rest := by
  have ⟨_, hc, hl, _⟩ := hs
  exact text hafter ht (passes_other hc hl) (judge_other hc) (take_neutral hs hend)

theorem plain (ht : Line.Plain t)
    (hword : inArm → Line.beginsWith t "break" = false ∧ Line.beginsWith t "return" = false) :
    Quiet unit (listFrame inArm depth :: outer) (indent unit depth t :: rest)
      (listFrame inArm depth :: outer) rest := by
  refine neutral hafter ht.1 (Shape.neutral_of_plain ht after) ?_
  intro harm
  simp [Shape.ofLine, Line.endsCase, hword harm]

theorem opening (ht : t.Inked) (ho : Line.isOpeningBrace t) :
    Quiet unit (listFrame inArm depth :: outer) (indent unit depth t :: rest)
      (⟨.block, depth + 1⟩ :: listFrame inArm depth :: outer) rest := by
  have ho : (Shape.ofLine t after).opens := ho
  obtain ⟨hc, hl, hg, _⟩ := (Shape.ofLine_exclusive t after).of_opens ho
  refine text hafter ht (passes_other hc hl) (judge_other hc) ?_
  cases inArm with
  | false => simp [listFrame, Frame.take, ho, hg]
  | true => simp [listFrame, Frame.take, ho, hg]

theorem closing (ht : t.Inked) (hc : Line.isClosingBrace t) :
    Quiet unit (⟨.block, depth + 1⟩ :: outer) (indent unit depth t :: rest) outer rest := by
  have hc : (Shape.ofLine t after).closes := hc
  obtain ⟨ho, _, hg, _⟩ := (Shape.ofLine_exclusive t after).of_closes hc
  refine text hafter ht ?_ ?_ ?_
  · simp [Frame.passes]
  · simp [Frame.judge, hc]
  · simp [Frame.take, ho, hc, hg]

/-- A control line before a block. -/
theorem guard (ht : Line.Control t) (hbrace : ∃ next ∈ after, next.trimLeft.startsWith "\x7b") :
    Quiet unit (listFrame inArm depth :: outer) (indent unit depth t :: rest)
      (listFrame inArm depth :: outer) rest := by
  obtain ⟨ho, hc, hl, hend⟩ := Shape.of_control ht after
  refine neutral hafter ht.1 ⟨ho, hc, hl, ?_⟩ fun _ => hend
  obtain ⟨next, hnext, hstart⟩ := hbrace
  rw [Option.mem_def.mp hnext]
  simp [Shape.ofLine, Line.governedBy?, hstart]

/-- A control line before its body. -/
theorem control {next : Text} (hnext : after = some next) (ht : Line.Control t)
    (hbrace : next.trimLeft.startsWith "\x7b" = false) (hdepth : f.depth = depth) :
    Quiet unit (f :: outer) (indent unit depth t :: rest) (⟨.governed, depth + 1⟩ :: f.keep outer) rest := by
  have hg : (Shape.ofLine t after).governs := hnext ▸ Shape.governs_of_control ht hbrace
  obtain ⟨_, hc, hl, _⟩ := (Shape.ofLine_exclusive t after).of_governs hg
  subst hdepth
  exact text hafter ht.1 (passes_other hc hl) (judge_other hc) (by rw [Frame.take, if_pos hg])

/-- The one line of a body. -/
theorem governed (ht : Line.Plain t) :
    Quiet unit (⟨.governed, depth⟩ :: outer) (indent unit depth t :: rest) outer rest := by
  obtain ⟨_, hc, hl, hg⟩ := Shape.neutral_of_plain ht after
  exact text hafter ht.1 (passes_other hc hl) (judge_other hc) (by simp [Frame.take, Frame.keep, hg])

theorem label (ht : t.Inked) (hl : Line.isLabel t) :
    Quiet unit (⟨.block, depth⟩ :: outer) (indent unit depth t :: rest)
      (⟨.arm, depth + 1⟩ :: ⟨.block, depth⟩ :: outer) rest := by
  have hl : (Shape.ofLine t after).labels := hl
  obtain ⟨ho, hc, hg, _⟩ := (Shape.ofLine_exclusive t after).of_labels hl
  refine text hafter ht ?_ (judge_other hc) ?_
  · simp [Frame.passes]
  · simp [Frame.take, ho, hc, hl, hg]

/-- The line that ends an arm. -/
theorem last (ht : t.Inked) (hend : Line.endsCase t after) :
    Quiet unit (⟨.arm, depth⟩ :: outer) (indent unit depth t :: rest) outer rest := by
  have hend : (Shape.ofLine t after).terminates := hend
  obtain ⟨ho, hc, hl, hg⟩ := (Shape.ofLine_exclusive t after).of_terminates hend
  exact text hafter ht (passes_other hc hl) (judge_other hc) (by simp [Frame.take, ho, hg, hend])

/-- An arm without such a line, before a label, a closing brace or the end of the file. -/
theorem leave (hnext : after.all fun line => Line.isLabel line || Line.isClosingBrace line) :
    Quiet unit (⟨.arm, depth⟩ :: outer) rest outer rest := by
  cases rest with
  | nil =>
    intro n
    refine ⟨n, ?_⟩
    simp [stackFindings, openBlocks]
  | cons line rest =>
    obtain ⟨next, rfl⟩ : ∃ next, after = some next := by
      cases after with
      | none => cases hafter
      | some next => exact ⟨next, rfl⟩
    have htrim : line.trimLeft = next.trimLeft := Option.some.inj hafter
    refine pass ?_
    simp only [Frame.passes, Shape.ofLine, ← Line.isClosingBrace_trimLeft line, ← Line.isLabel_trimLeft line, htrim,
      Line.isClosingBrace_trimLeft next, Line.isLabel_trimLeft next]
    have hor : Line.isLabel next ∨ Line.isClosingBrace next := by simpa using hnext
    simp [or_comm.mp hor]

end Quiet

/-! ## The tree -/

theorem ahead_cons {t : Text} (ht : t.Inked) : Ahead (indent unit depth t :: rest) (some t) := by
  simp only [Ahead, List.head?_cons, Option.map_some, trimLeft_indent unit depth ht, Text.trimLeft_eq_self ht.2]

/-- The layout of a body begins with its first line. -/
theorem ahead_body {body : Governed} (h : body.Legal) :
    Ahead (body.render unit depth ++ rest) (some body.first) := by
  cases body with
  | line text => exact ahead_cons (Governed.inked_first h)
  | control text body => exact ahead_cons (Governed.inked_first h)

/-- The layout of a statement list begins with its first line, or with the line after it. -/
theorem ahead_render {inArm : Bool} {after : Option Text} {p : Program} (h : p.Legal inArm after)
    (hafter : Ahead rest after) : Ahead (p.render unit depth ++ rest) (p.first?.or after) := by
  cases p with
  | done => exact hafter
  | plain text rest => exact ahead_cons h.1.1
  | blank line rest => rfl
  | block opening body closing rest => exact ahead_cons h.1.1
  | guard text rest => exact ahead_cons h.1.1
  | control text body rest => exact ahead_cons h.1.1
  | arm label body last rest => exact ahead_cons h.2.1.1

theorem startsWith_body {body : Governed} (h : body.Legal) : body.first.trimLeft.startsWith "\x7b" = false := by
  rw [Text.trimLeft_eq_self (Governed.inked_first h).2]
  exact Governed.startsWith_first h

/-- The machine reads a body and takes its frame off. -/
theorem quiet_body {body : Governed} (h : body.Legal) {after : Option Text} (hafter : Ahead rest after) :
    Quiet unit (⟨.governed, depth⟩ :: outer) (body.render unit depth ++ rest) outer rest := by
  induction body generalizing depth with
  | line text => exact Quiet.governed hafter h.1
  | control text body ih => exact (Quiet.control (ahead_body h.2) rfl h.1 (startsWith_body h.2) rfl).trans (ih h.2)

/-- **The machine reads the layout of a statement list without a report** and comes back to the frames it started from.
The line `after` is what follows the list. -/
theorem quiet_render {p : Program} {inArm : Bool} {after : Option Text} (h : p.Legal inArm after)
    (hafter : Ahead rest after) :
    Quiet unit (listFrame inArm depth :: outer) (p.render unit depth ++ rest)
      (listFrame inArm depth :: outer) rest := by
  induction p generalizing inArm after depth outer rest with
  | done => exact Quiet.refl _ _
  | plain text p ih =>
    obtain ⟨ht, hword, h⟩ := h
    exact (Quiet.plain (ahead_render h hafter) ht hword).trans (ih h hafter)
  | blank line p ih => exact (Quiet.blank h.1).trans (ih h.2 hafter)
  | block opening body closing p ihb ih =>
    obtain ⟨⟨hi, ho⟩, hbody, ⟨hi', hc⟩, h⟩ := h
    simp only [Program.render, List.cons_append, List.append_assoc]
    have hclose : Ahead (indent unit depth closing :: (p.render unit depth ++ rest)) (some closing) := ahead_cons hi'
    refine (Quiet.opening (ahead_render hbody hclose) hi ho).trans ?_
    refine (ihb hbody hclose).trans ?_
    exact (Quiet.closing (ahead_render h hafter) hi' hc).trans (ih h hafter)
  | guard text p ih =>
    obtain ⟨ht, hblock, h⟩ := h
    refine (Quiet.guard (ahead_render h hafter) ht ?_).trans (ih h hafter)
    cases p with
    | block opening body closing p => exact ⟨opening, rfl, Line.startsWith_of_isOpeningBrace h.1.2⟩
    | _ => cases hblock
  | control text body p ih =>
    obtain ⟨ht, hbody, h⟩ := h
    simp only [Program.render, List.cons_append, List.append_assoc]
    have hkeep : (listFrame inArm depth).keep outer = listFrame inArm depth :: outer := by cases inArm <;> rfl
    refine (Quiet.control (ahead_body hbody) rfl ht (startsWith_body hbody) rfl).trans ?_
    rw [hkeep]
    exact (quiet_body hbody (ahead_render h hafter)).trans (ih h hafter)
  | arm label body last p ihb ih =>
    obtain ⟨rfl, ⟨hi, hl⟩, hbody, hlast, h⟩ := h
    simp only [Program.render, List.cons_append, List.append_assoc]
    have hnext : Ahead (p.render unit depth ++ rest) (p.first?.or after) := ahead_render h hafter
    cases last with
    | some text =>
      have hend : Ahead (indent unit (depth + 1) text :: (p.render unit depth ++ rest)) (some text) :=
        ahead_cons hlast.1
      refine (Quiet.label (ahead_render hbody hend) hi hl).trans ?_
      refine (ihb hbody hend).trans ?_
      exact (Quiet.last hnext hlast.1 hlast.2).trans (ih h hafter)
    | none =>
      refine (Quiet.label (ahead_render hbody hnext) hi hl).trans ?_
      refine (ihb hbody hnext).trans ?_
      exact (Quiet.leave hnext hlast).trans (ih h hafter)

/-- **The layout of a program is clean.** -/
theorem verify_render (unit : Nat) (name : Text) (p : Program) (h : p.Legal false none) :
    (indentationLevel unit).verify ⟨name, p.render unit 0⟩ = [] := by
  have hquiet : Quiet unit [Frame.file] (p.render unit 0 ++ []) [Frame.file] [] := quiet_render h rfl
  obtain ⟨m, hm⟩ := hquiet 1
  rw [List.append_nil] at hm
  rw [verify, run_eq_stackFindings, hm]
  rfl

/-- A program with every construct: a block with control lines and an arm that `return` ends, an arm that the next label
ends, and one that the closing brace ends. -/
theorem verify_render_switch :
    let p : Program :=
      .plain "int f(int n)" (.block "\x7b"
        (.guard "switch (n)" (.block "\x7b"
          (.arm "case 1:" (.control "if (n)" (.control "while (n)" (.line "break;")) .done) (some "return 1;")
            (.arm "case 2:" (.block "\x7b" (.plain "break;" .done) "\x7d" (.blank " " .done)) none
              (.arm "default:" (.plain "g();" .done) none .done)))
          "\x7d" .done))
        "\x7d;" .done)
    p.Legal false none ∧ (indentationLevel (4 : Nat)).verify ⟨"a.c", p.render 4 0⟩ = [] := by
  intro p
  have h : p.Legal false none := by decide
  exact ⟨h, verify_render 4 "a.c" p h⟩

end Rule

end HouseStyle
