import HouseStyle.Proofs.Block.Indentation

/-!
# Braces in pairs

Plain matching pairs every closing brace with the innermost opening brace that is still unpaired, and looks at nothing
else (`unpairedBefore`). The scan of regions recovers at every closing brace and label, whatever lies before it: the
blocks on the stack of the machine are the unpaired opening braces.

* **Invariant** (`Matched`): the depths of the blocks on the stack are one more than the levels of the unpaired opening
  braces, and 0 for the file. A step keeps it (`Matched.step`), so every file has it (`matched`).
* **Recovery** (`level_of_structural_line`): a closing brace is checked against the level of its opening brace, and a
  label against one level more than the innermost unpaired opening brace.
* What the rule reports about a line compares its width with `unit` for each level
  (`Rule.isCheckedAt_of_levelAt`), so recovery can be read off the reports (`Rule.reports_of_structural_line`).
-/

namespace HouseStyle.Block

/-! ## Plain matching -/

/-- The unpaired opening braces after line `i`, when those before it are `opened`, innermost first. -/
def pairUp (opened : List Nat) (i : Nat) (line : Text) : List Nat :=
  if Line.isOpeningBrace line then i :: opened
  else if Line.isClosingBrace line then opened.tail
  else opened

/-- The lines before line `i` that are opening braces still unpaired there, innermost first. -/
def unpairedBefore (lines : List Text) : (i : Nat) → List Nat
  | 0 => []
  | i + 1 =>
    match lines[i]? with
    | none => unpairedBefore lines i
    | some line => pairUp (unpairedBefore lines i) i line

/-- The level that the indentation of line `i` is checked against. -/
def levelAt (lines : List Text) (i : Nat) : Option Nat := (scan (Shape.ofLines lines)).verdicts[i]?.map (·.level)

/-! ## The blocks on the stack -/

variable {stack : List Frame} {s : Shape} {ds : List Nat}

/-- The depths of the blocks on the stack. -/
def blockDepths (stack : List Frame) : List Nat := (stack.filter (·.kind = .block)).map (·.depth)

theorem blockDepths_block (d : Nat) (outer : List Frame) :
    blockDepths (⟨.block, d⟩ :: outer) = d :: blockDepths outer :=
  rfl

theorem blockDepths_other {f : Frame} (h : f.kind ≠ .block) (outer : List Frame) :
    blockDepths (f :: outer) = blockDepths outer := by
  simp [blockDepths, h]

/-- A closing brace or a label comes to the innermost block. -/
theorem settle_structural (hs : (s.closes || s.labels) = true) {d : Nat} : ∀ {stack : List Frame},
    blockDepths stack = d :: ds → ∃ outer, settle stack s = ⟨.block, d⟩ :: outer ∧ blockDepths outer = ds
  | [], h => by cases h
  | f :: outer, h => by
    by_cases hk : f.kind = .block
    · obtain ⟨kind, d'⟩ := f
      obtain rfl : kind = .block := hk
      rw [blockDepths_block, List.cons.injEq] at h
      obtain ⟨rfl, h⟩ := h
      exact ⟨outer, settle_take (by simp [Frame.passes]), h⟩
    · rw [blockDepths_other hk] at h
      rw [settle_pass (by simpa [Frame.passes, hk] using hs)]
      exact settle_structural hs h

/-- No block ends before a line. -/
theorem blockDepths_settle (s : Shape) : ∀ stack : List Frame, blockDepths (settle stack s) = blockDepths stack
  | [] => rfl
  | f :: outer => by
    cases hp : f.passes s with
    | true =>
      have hk : f.kind ≠ .block := by
        simp only [Frame.passes, decide_eq_true_eq] at hp
        exact hp.1
      rw [settle_pass hp, blockDepths_settle s outer, blockDepths_other hk]
    | false => rw [settle_take hp]

theorem blockDepths_keep (f : Frame) (outer : List Frame) : blockDepths (f.keep outer) = blockDepths (f :: outer) := by
  unfold Frame.keep
  split
  · next h => rw [blockDepths_other (by simp [h])]
  · rfl

/-- A line that is no brace opens and closes no block. -/
theorem blockDepths_take (f : Frame) (outer : List Frame) (ho : s.opens = false) (hc : s.closes = false) :
    blockDepths (f.take s outer) = blockDepths (f :: outer) := by
  obtain ⟨kind, depth⟩ := f
  unfold Frame.take
  split
  · rw [blockDepths_other (by simp), blockDepths_keep]
  · cases kind with
    | governed => exact blockDepths_keep _ _
    | block =>
      simp only [ho, hc, Bool.false_eq_true, ↓reduceIte]
      split
      · exact blockDepths_other (by simp) _
      · rfl
    | arm =>
      simp only [ho, Bool.false_eq_true, ↓reduceIte]
      split
      · exact (blockDepths_other (by simp) _).symm
      · rfl

/-! ## One step -/

/-- The depths of the blocks when unpaired opening braces stand at the levels `ds`. -/
def depthsOf (ds : List Nat) : List Nat := ds.map (· + 1) ++ [0]

theorem advance_of_opens (hs : s.Exclusive) (ho : s.opens) (hne : stack ≠ []) (hg : ∀ f ∈ stack, f.kind ≠ .governed) :
    blockDepths (advance stack s) = ((judge stack s).level + 1) :: blockDepths stack := by
  obtain ⟨hc, hl, hgov, _⟩ := hs.of_opens ho
  obtain ⟨⟨kind, depth⟩, outer, rfl⟩ := List.exists_cons_of_ne_nil hne
  have hp : Frame.passes ⟨kind, depth⟩ s = false := by simp [Frame.passes, hc, hl]
  rw [advance_take hp, judge_take hp]
  cases kind with
  | governed => exact absurd rfl (hg _ List.mem_cons_self)
  | block => simp [Frame.take, Frame.judge, ho, hc, hgov, blockDepths_block]
  | arm => simp [Frame.take, Frame.judge, ho, hc, hgov, blockDepths_block]

/-- A closing brace takes the innermost block off the stack, and is checked against the level of its opening brace. -/
theorem advance_of_closes (hs : s.Exclusive) (hc : s.closes) (hd : blockDepths stack = depthsOf ds) :
    blockDepths (advance stack s) = depthsOf ds.tail ∧ (judge stack s).level = ds.headD 0 := by
  obtain ⟨ho, _, hgov, _⟩ := hs.of_closes hc
  have hstop : (s.closes || s.labels) = true := by simp [hc]
  cases ds with
  | nil =>
    obtain ⟨outer, hset, hout⟩ := settle_structural hstop hd
    rw [advance, judge, hset]
    simp [Frame.take, Frame.judge, ho, hc, hgov, blockDepths_block, hout, depthsOf]
  | cons d ds =>
    obtain ⟨outer, hset, hout⟩ := settle_structural hstop hd
    rw [advance, judge, hset]
    simp [Frame.take, Frame.judge, ho, hc, hgov, hout, depthsOf]

/-- A label is checked against the depth of the innermost block. -/
theorem judge_of_labels (hs : s.Exclusive) (hl : s.labels) (hd : blockDepths stack = depthsOf ds) :
    some (judge stack s).level = (depthsOf ds).head? := by
  obtain ⟨_, hc, _, _⟩ := hs.of_labels hl
  have hstop : (s.closes || s.labels) = true := by simp [hl]
  obtain ⟨d, ds', hds⟩ : ∃ d ds', depthsOf ds = d :: ds' := by
    cases ds with
    | nil => exact ⟨_, _, rfl⟩
    | cons d ds => exact ⟨_, _, rfl⟩
  obtain ⟨outer, hset, _⟩ := settle_structural hstop (hd.trans hds)
  rw [judge, hset, hds]
  simp [Frame.judge, hc]

theorem advance_of_other (ho : s.opens = false) (hc : s.closes = false) :
    blockDepths (advance stack s) = blockDepths stack := by
  have hset := blockDepths_settle s stack
  rw [advance]
  split
  · next h =>
    rw [h] at hset
    exact hset
  · next f outer h =>
    rw [h] at hset
    rw [blockDepths_take f outer ho hc, hset]

/-! ## Governed lines are innermost -/

/-- No region on the stack is the body of a control line. -/
def NoGoverned (stack : List Frame) : Prop := ∀ f ∈ stack, f.kind ≠ .governed

theorem noGoverned_keep {f : Frame} {outer : List Frame} (h : NoGoverned outer) : NoGoverned (f.keep outer) := by
  unfold Frame.keep
  split
  · exact h
  · next hk => exact List.forall_mem_cons.mpr ⟨hk, h⟩

theorem noGoverned_take {f : Frame} {outer : List Frame} (h : NoGoverned outer) (hg : s.governs = false) :
    NoGoverned (f.take s outer) := by
  obtain ⟨kind, depth⟩ := f
  have hcons : ∀ {k : Region} {d : Nat} {fs : List Frame}, k ≠ .governed → NoGoverned fs → NoGoverned (⟨k, d⟩ :: fs) :=
    fun hk hfs => List.forall_mem_cons.mpr ⟨hk, hfs⟩
  rw [Frame.take, if_neg (by simp [hg])]
  cases kind with
  | governed => exact noGoverned_keep h
  | block =>
    have hf : NoGoverned (⟨.block, depth⟩ :: outer) := hcons (by simp) h
    dsimp only
    split_ifs
    · exact hcons (by simp) hf
    · exact hf
    · exact h
    · exact hcons (by simp) hf
    · exact hf
  | arm =>
    have hf : NoGoverned (⟨.arm, depth⟩ :: outer) := hcons (by simp) h
    dsimp only
    split_ifs
    · exact hcons (by simp) hf
    · exact h
    · exact hf

/-- Only the innermost region can be the body of a control line, and only after a control line. -/
theorem noGoverned_advance (h : NoGoverned stack.tail) :
    NoGoverned (advance stack s).tail ∧ (s.governs = false → NoGoverned (advance stack s)) := by
  rw [advance]
  split
  · exact ⟨List.forall_mem_nil _, fun _ => List.forall_mem_nil _⟩
  · next f outer hset =>
    have houter : NoGoverned outer := by
      intro g hg
      have hsuf : f :: outer <:+ stack := hset ▸ List.dropWhile_suffix _
      obtain ⟨front, rfl⟩ := hsuf
      refine h g ?_
      cases front with
      | nil => exact hg
      | cons f' front => exact List.mem_append_right front (List.mem_cons_of_mem f hg)
    cases hg : s.governs with
    | true =>
      rw [Frame.take, if_pos hg]
      exact ⟨noGoverned_keep houter, fun h => by cases h⟩
    | false =>
      have htake := noGoverned_take houter hg (f := f)
      exact ⟨fun g hg => htake g (List.mem_of_mem_tail hg), fun _ => htake⟩

/-! ## The run over a file -/

/-- The frames before line `i`. -/
def framesBefore (lines : List Text) (i : Nat) : List Frame :=
  ((Shape.ofLines lines).take i).foldl advance [Frame.file]

variable {lines : List Text} {i : Nat}

theorem framesBefore_succ (hi : (Shape.ofLines lines)[i]? = some s) :
    framesBefore lines (i + 1) = advance (framesBefore lines i) s := by
  rw [framesBefore, List.take_add_one, hi, List.foldl_append]
  rfl

theorem trace_getElem? : ∀ (stack : List Frame) (shapes : List Shape) (i : Nat),
    (trace stack shapes)[i]? = shapes[i]?.map (judge ((shapes.take i).foldl advance stack))
  | _, [], _ => rfl
  | _, _ :: _, 0 => rfl
  | stack, s :: rest, i + 1 => trace_getElem? (advance stack s) rest i

theorem levelAt_eq (hi : (Shape.ofLines lines)[i]? = some s) :
    levelAt lines i = some (judge (framesBefore lines i) s).level := by
  rw [levelAt, scan_verdicts fun s hs => Shape.mem_ofLines_exclusive hs, trace_getElem?, hi]
  rfl

/-- The blocks that are open before line `i` are the file and the blocks of the unpaired opening braces. Only the
innermost region can be the body of a control line, and not before an opening brace. -/
structure Matched (lines : List Text) (i : Nat) : Prop where
  inner : NoGoverned (framesBefore lines i).tail
  opening : ∀ line, lines[i]? = some line → Line.isOpeningBrace line → NoGoverned (framesBefore lines i)
  depths : ∃ ds, List.Forall₂ (fun j d => levelAt lines j = some d) (unpairedBefore lines i) ds ∧
    blockDepths (framesBefore lines i) = depthsOf ds

theorem ofLines_at {line : Text} (hi : lines[i]? = some line) :
    (Shape.ofLines lines)[i]? = some (Shape.ofLine line lines[i + 1]?) := by
  rw [Shape.ofLines_getElem?, hi]
  rfl

/-- The line before an opening brace is no control line with a body. -/
theorem governs_before_opening {line next : Text} (hnext : lines[i + 1]? = some next)
    (hbrace : Line.isOpeningBrace next) : (Shape.ofLine line lines[i + 1]?).governs = false := by
  by_contra hg
  rw [hnext, Bool.not_eq_false] at hg
  rw [Shape.isOpeningBrace_of_governs hg] at hbrace
  cases hbrace

/-- What a line does to the blocks, plain matching does to the unpaired opening braces. -/
theorem Matched.depths_step (h : Matched lines i) {line : Text} (hi : lines[i]? = some line) :
    ∃ ds, List.Forall₂ (fun j d => levelAt lines j = some d) (unpairedBefore lines (i + 1)) ds ∧
      blockDepths (framesBefore lines (i + 1)) = depthsOf ds := by
  have hex : (Shape.ofLine line lines[i + 1]?).Exclusive := Shape.ofLine_exclusive _ _
  obtain ⟨ds, hlevels, hdepths⟩ := h.depths
  have hne : framesBefore lines i ≠ [] := by
    intro hnil
    rw [hnil] at hdepths
    simp [blockDepths, depthsOf] at hdepths
  rw [framesBefore_succ (ofLines_at hi), unpairedBefore, hi]
  generalize unpairedBefore lines i = opened at hlevels
  dsimp only [pairUp]
  split_ifs with ho hc
  · exact ⟨_ :: ds, List.Forall₂.cons (levelAt_eq (ofLines_at hi)) hlevels,
      (advance_of_opens hex ho hne (h.opening line hi ho)).trans (congrArg _ hdepths)⟩
  · refine ⟨ds.tail, ?_, (advance_of_closes hex hc hdepths).1⟩
    cases hlevels with
    | nil => exact List.Forall₂.nil
    | cons _ htail => exact htail
  · refine ⟨ds, hlevels, (advance_of_other ?_ ?_).trans hdepths⟩
    · exact Bool.not_eq_true _ ▸ ho
    · exact Bool.not_eq_true _ ▸ hc

theorem Matched.step (h : Matched lines i) {line : Text} (hi : lines[i]? = some line) : Matched lines (i + 1) := by
  obtain ⟨hinner, hopening⟩ := noGoverned_advance (s := Shape.ofLine line lines[i + 1]?) h.inner
  rw [← framesBefore_succ (ofLines_at hi)] at hinner hopening
  exact ⟨hinner, fun _ hnext hbrace => hopening (governs_before_opening hnext hbrace), h.depths_step hi⟩

/-- **Every file has the invariant** before each of its lines. -/
theorem matched (lines : List Text) : ∀ i, i ≤ lines.length → Matched lines i
  | 0, _ => by
    refine ⟨List.forall_mem_nil _, fun _ _ _ => ?_, [], List.Forall₂.nil, rfl⟩
    exact List.forall_mem_cons.mpr ⟨by simp [Frame.file], List.forall_mem_nil _⟩
  | i + 1, hi => (matched lines i (Nat.le_of_succ_le hi)).step (List.getElem?_eq_getElem hi)

/-! ## Recovery -/

/-- What a closing brace is checked against. -/
theorem level_of_closing {line : Text} (hi : lines[i]? = some line) (hc : Line.isClosingBrace line) :
    match (unpairedBefore lines i).head? with
    | some j => ∃ level, levelAt lines j = some level ∧ levelAt lines i = some level
    | none => levelAt lines i = some 0 := by
  have hlt : i < lines.length := (List.getElem?_eq_some_iff.mp hi).1
  obtain ⟨ds, hlevels, hdepths⟩ := (matched lines i (Nat.le_of_lt hlt)).depths
  have hex : (Shape.ofLine line lines[i + 1]?).Exclusive := Shape.ofLine_exclusive _ _
  rw [levelAt_eq (ofLines_at hi), (advance_of_closes hex hc hdepths).2]
  generalize unpairedBefore lines i = opened at hlevels
  cases hlevels with
  | nil => rfl
  | cons hlevel _ => exact ⟨_, hlevel, rfl⟩

/-- What a label is checked against. -/
theorem level_of_label {line : Text} (hi : lines[i]? = some line) (hl : Line.isLabel line) :
    match (unpairedBefore lines i).head? with
    | some j => ∃ level, levelAt lines j = some level ∧ levelAt lines i = some (level + 1)
    | none => levelAt lines i = some 0 := by
  have hlt : i < lines.length := (List.getElem?_eq_some_iff.mp hi).1
  obtain ⟨ds, hlevels, hdepths⟩ := (matched lines i (Nat.le_of_lt hlt)).depths
  have hex : (Shape.ofLine line lines[i + 1]?).Exclusive := Shape.ofLine_exclusive _ _
  rw [levelAt_eq (ofLines_at hi), judge_of_labels hex hl hdepths]
  generalize unpairedBefore lines i = opened at hlevels
  cases hlevels with
  | nil => rfl
  | cons hlevel _ => exact ⟨_, hlevel, rfl⟩

/-- **A closing brace is checked against the level of the opening brace that plain matching pairs it with**, and against
level 0 if there is none; a label is checked against one level more than the innermost unpaired opening brace, and
against level 0 if there is none. Nothing else in the file matters. -/
theorem level_of_structural_line (lines : List Text) (i : Nat) (line : Text) (hi : lines[i]? = some line) :
    (Line.isClosingBrace line →
      match (unpairedBefore lines i).head? with
      | some j => ∃ level, levelAt lines j = some level ∧ levelAt lines i = some level
      | none => levelAt lines i = some 0) ∧
    (Line.isLabel line →
      match (unpairedBefore lines i).head? with
      | some j => ∃ level, levelAt lines j = some level ∧ levelAt lines i = some (level + 1)
      | none => levelAt lines i = some 0) :=
  ⟨level_of_closing hi, level_of_label hi⟩

/-- A closing brace and a label after a case without an end and a control line without a body. -/
theorem level_of_recovered_lines :
    let lines : List Text := ["\x7b", "case 1:", "if (x)", "default:", "while (y)", "\x7d"]
    (∃ level, levelAt lines 0 = some level ∧ levelAt lines 5 = some level) ∧
      ∃ level, levelAt lines 0 = some level ∧ levelAt lines 3 = some (level + 1) := by
  intro lines
  constructor
  · exact (level_of_structural_line lines 5 "\x7d" rfl).1 (by decide)
  · exact (level_of_structural_line lines 3 "default:" rfl).2 (by decide)

end HouseStyle.Block

namespace HouseStyle.Rule

open Block

variable {lines : List Text} {widths : List Int} {i n : Nat} {line : Text} {w : Int}

/-! ## What is reported about the levels -/

theorem le_line_of_mem_widthFindings {f : Finding} : ∀ {n : Nat} {lines : List Text} {widths : List Int},
    f ∈ widthFindings n lines widths → (n : Int) ≤ f.line
  | _, [], _, h => by cases h
  | _, _ :: _, [], h => by cases h
  | n, line :: lines, w :: widths, h => by
    rcases List.mem_append.mp h with h | h
    · split at h
      · obtain rfl := List.mem_singleton.mp h
        exact Int.le_refl _
      · cases h
    · have hline := le_line_of_mem_widthFindings h
      omega

theorem filter_line_eq_nil {fs : List Finding} {k : Int} (h : ∀ f ∈ fs, f.line ≠ k) : fs.filter (·.line = k) = [] := by
  simpa using h

/-- The report about the width of one line, if there is one. -/
theorem filter_widthFindings (hi : lines[i]? = some line) (hw : widths[i]? = some w) :
    (widthFindings n lines widths).filter (·.line = ((n + i : Nat) : Int)) =
      if line.isBlank ∨ measuredWidth line = w then []
      else [{ line := (n + i : Nat), message := widthMessage w (measuredWidth line) }] := by
  induction lines generalizing n i widths with
  | nil => cases hi
  | cons first rest ih =>
    cases widths with
    | nil => cases hw
    | cons width widths =>
      rw [widthFindings, List.filter_append]
      cases i with
      | zero =>
        obtain rfl : first = line := by simpa using hi
        obtain rfl : width = w := by simpa using hw
        have hrest : ∀ f ∈ widthFindings (n + 1) rest widths, f.line ≠ ((n + 0 : Nat) : Int) := by
          intro f hf
          have hline := le_line_of_mem_widthFindings hf
          omega
        rw [filter_line_eq_nil hrest, List.append_nil]
        by_cases hok : first.isBlank ∨ measuredWidth first = width
        · have hquiet : (!first.isBlank && measuredWidth first != width) = false := by
            rcases hok with h | h <;> simp [h]
          simp [hok, hquiet]
        · rw [not_or] at hok
          simp [hok.1, hok.2]
      | succ i =>
        rw [filter_line_eq_nil (by split <;> simp; omega), List.nil_append]
        have hnext := ih (n := n + 1) hi hw
        rwa [Nat.add_assoc, Nat.add_comm 1] at hnext

/-- What the rule reports about the width of line `i` is that it is not indented by `unit` for each of `level` levels, if
the line is not blank and so indented. -/
def IsCheckedAt (unit : Int) (name : Text) (lines : List Text) (i level : Nat) : Prop :=
  ∃ line, lines[i]? = some line ∧
    (widthReports unit name lines).filter (·.pos.line = ((i + 1 : Nat) : Int)) =
      if line.isBlank ∨ measuredWidth line = word (level * unit) then []
      else [(indentationLevel unit).diagnose name
        { line := (i + 1 : Nat), message := widthMessage (word (level * unit)) (measuredWidth line) }]

/-- **A line is checked at its level.** -/
theorem isCheckedAt_of_levelAt {level : Nat} (h : levelAt lines i = some level) (unit : Int) (name : Text) :
    IsCheckedAt unit name lines i level := by
  obtain ⟨v, hv, rfl⟩ := Option.map_eq_some_iff.mp h
  have hwidth : (fileWidths unit lines)[i]? = some (word (v.level * unit)) := by
    rw [fileWidths, expectedWidths, List.getElem?_map, hv]
    rfl
  have hlen : (fileWidths unit lines).length = lines.length := length_fileWidths
  have hlt : i < lines.length := hlen ▸ (List.getElem?_eq_some_iff.mp hwidth).1
  refine ⟨lines[i], List.getElem?_eq_getElem hlt, ?_⟩
  have hfilter := filter_widthFindings (n := 1) (List.getElem?_eq_getElem hlt) hwidth
  rw [Nat.add_comm 1] at hfilter
  rw [widthReports_eq, List.filter_map]
  refine (congrArg (List.map _) hfilter).trans ?_
  split <;> rfl

/-- Where the level of a line follows from that of an opening brace, or is zero without one, both lines are checked. -/
theorem isCheckedAt_of_unpaired (unit : Int) (name : Text) {opened : Option Nat} {deeper : Nat → Nat} :
    (match opened with
      | some j => ∃ level, levelAt lines j = some level ∧ levelAt lines i = some (deeper level)
      | none => levelAt lines i = some 0) →
    match opened with
    | some j => ∃ level, levelAt lines j = some level ∧
      IsCheckedAt unit name lines j level ∧ IsCheckedAt unit name lines i (deeper level)
    | none => IsCheckedAt unit name lines i 0 := by
  cases opened with
  | none => exact fun h => isCheckedAt_of_levelAt h unit name
  | some j =>
    rintro ⟨level, hj, hi⟩
    exact ⟨level, hj, isCheckedAt_of_levelAt hj unit name, isCheckedAt_of_levelAt hi unit name⟩

/-- **A closing brace is checked at the level at which the opening brace is checked that plain matching pairs it with**,
and a label one level further in than the innermost unpaired opening brace: this is what the rule reports, for every
width of a level. -/
theorem reports_of_structural_line (unit : Int) (name : Text) (hi : lines[i]? = some line) :
    (Line.isClosingBrace line →
      match (unpairedBefore lines i).head? with
      | some j => ∃ level, levelAt lines j = some level ∧
        IsCheckedAt unit name lines j level ∧ IsCheckedAt unit name lines i level
      | none => IsCheckedAt unit name lines i 0) ∧
    (Line.isLabel line →
      match (unpairedBefore lines i).head? with
      | some j => ∃ level, levelAt lines j = some level ∧
        IsCheckedAt unit name lines j level ∧ IsCheckedAt unit name lines i (level + 1)
      | none => IsCheckedAt unit name lines i 0) :=
  ⟨fun hc => isCheckedAt_of_unpaired unit name (level_of_closing hi hc),
    fun hl => isCheckedAt_of_unpaired unit name (level_of_label hi hl)⟩

end HouseStyle.Rule
