import HouseStyle.Proofs.Source.Shape
import HouseStyle.Rule.Block

/-!
# Regions on a stack

The scan of regions as a machine that reads the lines once, from left to right, and keeps the regions that are open in
a stack of frames, the innermost on top.

* `judge` and `advance` are one step: the verdict on a line, and the frames after it.
* **Simulation** (`region_simulates`): where the scan of a region consumes lines and returns, the machine consumes the
  same lines with the same verdicts and takes the frame of the region off the stack. A region that the end of the file
  cuts off leaves its frames on the stack, and the blocks among them are those that the scan counts as unclosed.
* **The scan is the machine** (`scan_verdicts`, `scan_unclosed`). The machine compares widths and words its messages
  itself (`stackMessages`); both report the same (`run_eq_stackFindings`).
-/

namespace HouseStyle

namespace Block

/-! ## The machine -/

/-- An open region: its kind and its depth. -/
structure Frame where
  kind : Region
  depth : Nat
  deriving DecidableEq

namespace Frame

/-- The block that is the file itself. -/
def file : Frame := ⟨.block, 0⟩

/-- The region ends before the line: only a block takes a closing brace or a label. -/
def passes (f : Frame) (s : Shape) : Bool := f.kind ≠ .block ∧ (s.closes || s.labels)

/-- The verdict of a region on a line that it takes. A closing brace stands one level further out than the block that
it closes. -/
def judge (f : Frame) (s : Shape) : Verdict where
  level := if f.kind = .block ∧ s.closes ∧ 0 < f.depth then f.depth - 1 else f.depth
  unexpected := f.kind = .block ∧ s.closes ∧ f.depth = 0

/-- The frames after a line that is not the last of its region, unless the region is a single line. -/
def keep (f : Frame) (outer : List Frame) : List Frame := if f.kind = .governed then outer else f :: outer

/-- The frames after the region `f` inside `outer` has taken a line. -/
def take (f : Frame) (s : Shape) (outer : List Frame) : List Frame :=
  if s.governs then ⟨.governed, f.depth + 1⟩ :: f.keep outer
  else
    match f.kind with
    | .governed => f.keep outer
    | .block =>
      if s.opens then ⟨.block, f.depth + 1⟩ :: f :: outer
      else if s.closes then if f.depth = 0 then f :: outer else outer
      else if s.labels then ⟨.arm, f.depth + 1⟩ :: f :: outer
      else f :: outer
    | .arm =>
      if s.opens then ⟨.block, f.depth + 1⟩ :: f :: outer
      else if s.terminates then outer
      else f :: outer

end Frame

/-- The frames that are left when those that end before a line are gone; the first takes the line. -/
def settle (stack : List Frame) (s : Shape) : List Frame := stack.dropWhile (·.passes s)

/-- The verdict on a line. -/
def judge (stack : List Frame) (s : Shape) : Verdict :=
  match settle stack s with
  | [] => ⟨0, false⟩
  | f :: _ => f.judge s

/-- The frames after a line. -/
def advance (stack : List Frame) (s : Shape) : List Frame :=
  match settle stack s with
  | [] => []
  | f :: outer => f.take s outer

/-- The verdicts on lines, one after another. -/
def trace : List Frame → List Shape → List Verdict
  | _, [] => []
  | stack, s :: rest => judge stack s :: trace (advance stack s) rest

/-- How many blocks wait for their closing braces. -/
def openBlocks (stack : List Frame) : Nat := stack.countP fun f => f.kind = .block ∧ 0 < f.depth

/-! ## One step -/

variable {f : Frame} {stack outer : List Frame} {s : Shape}

theorem settle_pass (h : f.passes s) : settle (f :: outer) s = settle outer s := List.dropWhile_cons_of_pos h

theorem settle_take (h : f.passes s = false) : settle (f :: outer) s = f :: outer :=
  List.dropWhile_cons_of_neg (by simp [h])

theorem judge_take (h : f.passes s = false) : judge (f :: outer) s = f.judge s := by
  rw [judge, settle_take h]

theorem advance_take (h : f.passes s = false) : advance (f :: outer) s = f.take s outer := by
  rw [advance, settle_take h]

theorem trace_pass {rest : List Shape} (h : f.passes s) : trace (f :: outer) (s :: rest) = trace outer (s :: rest) := by
  simp only [trace, judge, advance, settle_pass h]

theorem advance_pass (h : f.passes s) : advance (f :: outer) s = advance outer s := by
  rw [advance, settle_pass h, ← advance]

/-! ## Simulation -/

/-- On `lines`, the machine goes from the frames `stack` to the frames `stack'` while it gives the verdicts of the scan
`r`, and stands then at the lines that `r` leaves. Blocks that are open at the end of the file and that the frames
`stack'` do not account for are the unclosed blocks of `r`. -/
structure Simulates (stack : List Frame) (lines : List Shape) (r : Scan) (stack' : List Frame) : Prop where
  rest_suffix : r.rest <:+ lines
  trace_eq : trace stack lines = r.verdicts ++ trace stack' r.rest
  open_eq : openBlocks (lines.foldl advance stack) = r.unclosed + openBlocks (r.rest.foldl advance stack')

namespace Simulates

variable {stack' stack'' : List Frame} {lines rest : List Shape} {r : Scan}

/-- A region that takes a line. -/
theorem take (h : f.passes s = false) (outer : List Frame) (rest : List Shape) :
    Simulates (f :: outer) (s :: rest) ⟨[f.judge s], rest, false, 0⟩ (f.take s outer) where
  rest_suffix := List.suffix_cons s rest
  trace_eq := by
    rw [trace, judge_take h, advance_take h]
    rfl
  open_eq := by
    rw [List.foldl_cons, advance_take h]
    exact (Nat.zero_add _).symm

/-- A region that ends before a line. -/
theorem pass (h : f.passes s) : Simulates (f :: outer) (s :: rest) (.idle (s :: rest)) outer where
  rest_suffix := List.suffix_refl _
  trace_eq := trace_pass h
  open_eq := by
    rw [List.foldl_cons, advance_pass h]
    exact (Nat.zero_add _).symm

theorem andThen {next : List Shape → Scan} (h : Simulates stack lines r stack')
    (hn : Simulates stack' r.rest (next r.rest) stack'') : Simulates stack lines (r.andThen next) stack'' where
  rest_suffix := hn.rest_suffix.trans h.rest_suffix
  trace_eq := by
    rw [h.trace_eq, hn.trace_eq, ← List.append_assoc]
    rfl
  open_eq := by
    rw [h.open_eq, hn.open_eq, ← Nat.add_assoc]
    rfl

/-- How a scan ended does not matter to the machine. -/
theorem withClosed (h : Simulates stack lines r stack') (closed : Bool) :
    Simulates stack lines { r with closed := closed } stack' :=
  ⟨h.rest_suffix, h.trace_eq, h.open_eq⟩

end Simulates

/-- A region seen from outside: a block between braces counts as unclosed unless its closing brace was found. -/
def Frame.seen (f : Frame) (r : Scan) : Scan := if f.kind = .block ∧ 0 < f.depth then r.enclosed else r

theorem Frame.seen_andThen (f : Frame) (r : Scan) (next : List Shape → Scan) :
    f.seen (r.andThen next) = r.andThen fun lines => f.seen (next lines) := by
  unfold Frame.seen
  split
  · exact congrArg (Scan.mk _ _ _) (Nat.add_assoc _ _ _)
  · rfl

/-- The end of the file cuts a region off. -/
theorem Simulates.atEnd (f : Frame) (outer : List Frame) : Simulates (f :: outer) [] (f.seen (.idle [])) outer := by
  unfold Frame.seen
  split
  · next h =>
    refine ⟨List.suffix_refl _, rfl, ?_⟩
    simp [openBlocks, h, Scan.enclosed, Scan.idle, Nat.add_comm]
  · next h =>
    refine ⟨List.suffix_refl _, rfl, ?_⟩
    simp [openBlocks, h, Scan.idle]

/-- With fuel for `fuel` lines, the machine takes the frame of a region off the stack when the scan of it returns. -/
def Follows (fuel : Nat) : Prop :=
  ∀ (f : Frame) (outer : List Frame) (lines : List Shape), lines.length ≤ fuel → (∀ s ∈ lines, s.Exclusive) →
    Simulates (f :: outer) lines (f.seen (region fuel f.kind f.depth lines)) outer

namespace Follows

variable {fuel : Nat} {lines rest : List Shape} {r : Scan}

/-- After `r`, the rest of the region. -/
theorem resume (ih : Follows fuel) (hlen : rest.length ≤ fuel) (hex : ∀ s ∈ rest, s.Exclusive)
    (h : Simulates (f :: outer) lines r (f :: outer)) (hr : r.rest <:+ rest) :
    Simulates (f :: outer) lines (f.seen (r.andThen (region fuel f.kind f.depth))) outer := by
  rw [Frame.seen_andThen]
  refine h.andThen (ih f outer r.rest (hr.length_le.trans hlen) ?_)
  intro s hs
  exact hex s (hr.subset hs)

/-- After one line, a region of its own and then the rest of the region. -/
theorem nest (ih : Follows fuel) (hlen : rest.length ≤ fuel) (hex : ∀ s ∈ rest, s.Exclusive) {v : Verdict} (g : Frame)
    (h : Simulates (f :: outer) lines ⟨[v], rest, false, 0⟩ (g :: f :: outer)) :
    Simulates (f :: outer) lines (f.seen (((⟨[v], rest, false, 0⟩ : Scan).andThen
      fun ls => g.seen (region fuel g.kind g.depth ls)).andThen (region fuel f.kind f.depth))) outer := by
  have hg := ih g (f :: outer) rest hlen hex
  exact ih.resume hlen hex (h.andThen hg) hg.rest_suffix

end Follows

/-- A region that takes a line: the verdict on it, the body of a control line, and what the line does to the region. -/
theorem region_take (fuel : Nat) (rest : List Shape) (h : f.passes s = false) (hex : s.Exclusive) :
    region (fuel + 1) f.kind f.depth (s :: rest) =
      let here : Scan := ⟨[f.judge s], rest, false, 0⟩
      let next := region fuel f.kind f.depth
      if s.governs then
        let here := here.andThen (region fuel .governed (f.depth + 1))
        if f.kind = .governed then { here with closed := false } else here.andThen next
      else
        match f.kind with
        | .governed => here
        | .block =>
          if s.opens then (here.andThen fun ls => (region fuel .block (f.depth + 1) ls).enclosed).andThen next
          else if s.closes then if f.depth = 0 then here.andThen next else { here with closed := true }
          else if s.labels then (here.andThen (region fuel .arm (f.depth + 1))).andThen next
          else here.andThen next
        | .arm =>
          if s.opens then (here.andThen fun ls => (region fuel .block (f.depth + 1) ls).enclosed).andThen next
          else if s.terminates then here
          else here.andThen next := by
  obtain ⟨kind, depth⟩ := f
  have hv : (Frame.mk kind depth).judge s =
      ⟨if kind = .block ∧ s.closes then depth - 1 else depth, (kind = .block ∧ s.closes) ∧ depth = 0⟩ := by
    simp only [Frame.judge, and_assoc]
    congr 1
    by_cases hd : 0 < depth
    · simp [hd]
    · obtain rfl : depth = 0 := by omega
      simp
  simp only [Frame.passes, decide_eq_false_iff_not] at h
  rw [region, if_neg h, hv]
  cases hg : s.governs with
  | true =>
    obtain ⟨ho, hc, hl, ht⟩ := hex.of_governs hg
    cases kind <;> simp [ho, hc, hl, ht]
  | false => cases kind <;> simp

namespace Follows

variable {fuel depth : Nat} {rest : List Shape} (ih : Follows fuel) (hlen : rest.length ≤ fuel)
  (hrest : ∀ s ∈ rest, s.Exclusive) (hs : s.Exclusive)
include ih hlen hrest hs

/-- A control line: its body is a region of its own, after which the region around it goes on. -/
theorem governs (hp : f.passes s = false) (hg : s.governs) :
    Simulates (f :: outer) (s :: rest) (f.seen (region (fuel + 1) f.kind f.depth (s :: rest))) outer := by
  have hstep := Simulates.take hp outer rest
  rw [Frame.take, if_pos hg] at hstep
  have hbody := ih ⟨.governed, f.depth + 1⟩ (f.keep outer) rest hlen hrest
  have hboth := hstep.andThen hbody
  simp only [region_take fuel rest hp hs, hg, ↓reduceIte]
  split
  · next hk =>
    rw [Frame.keep, if_pos hk] at hboth
    rw [Frame.seen, if_neg (by simp [hk])]
    exact hboth.withClosed false
  · next hk =>
    rw [Frame.keep, if_neg hk] at hboth hbody
    exact ih.resume hlen hrest hboth hbody.rest_suffix

theorem block (hg : s.governs = false) :
    Simulates (⟨.block, depth⟩ :: outer) (s :: rest)
      (Frame.seen ⟨.block, depth⟩ (region (fuel + 1) .block depth (s :: rest))) outer := by
  have hp : Frame.passes ⟨.block, depth⟩ s = false := by simp [Frame.passes]
  have hstep := Simulates.take hp outer rest
  rw [Frame.take, if_neg (by simp [hg])] at hstep
  have heq := region_take fuel rest hp hs
  simp only [hg, Bool.false_eq_true, ↓reduceIte] at heq hstep
  rw [heq]
  split_ifs at hstep ⊢ with ho hc hd hl
  · exact ih.nest hlen hrest ⟨.block, depth + 1⟩ hstep
  · exact ih.resume hlen hrest hstep (List.suffix_refl rest)
  · rw [Frame.seen, if_pos ⟨rfl, Nat.pos_of_ne_zero hd⟩]
    exact hstep
  · exact ih.nest hlen hrest ⟨.arm, depth + 1⟩ hstep
  · exact ih.resume hlen hrest hstep (List.suffix_refl rest)

theorem arm (hp : Frame.passes ⟨.arm, depth⟩ s = false) (hg : s.governs = false) :
    Simulates (⟨.arm, depth⟩ :: outer) (s :: rest)
      (Frame.seen ⟨.arm, depth⟩ (region (fuel + 1) .arm depth (s :: rest))) outer := by
  have hstep := Simulates.take hp outer rest
  rw [Frame.take, if_neg (by simp [hg])] at hstep
  have heq := region_take fuel rest hp hs
  simp only [hg, Bool.false_eq_true, ↓reduceIte] at heq hstep
  rw [heq]
  split_ifs at hstep ⊢ with ho ht
  · exact ih.nest hlen hrest ⟨.block, depth + 1⟩ hstep
  · exact hstep
  · exact ih.resume hlen hrest hstep (List.suffix_refl rest)

end Follows

/-- **The simulation.** -/
theorem region_simulates : ∀ fuel, Follows fuel := by
  intro fuel
  induction fuel with
  | zero =>
    intro f outer lines hlen _
    obtain rfl : lines = [] := List.eq_nil_of_length_eq_zero (Nat.le_zero.mp hlen)
    exact Simulates.atEnd f outer
  | succ fuel ih =>
    intro f outer lines hlen hex
    cases lines with
    | nil => exact Simulates.atEnd f outer
    | cons s rest =>
      obtain ⟨hs, hrest⟩ := List.forall_mem_cons.mp hex
      have hlen' : rest.length ≤ fuel := Nat.le_of_succ_le_succ hlen
      cases hp : f.passes s with
      | true =>
        have hk : f.kind ≠ .block ∧ (s.closes || s.labels) := by simpa [Frame.passes] using hp
        rw [region, if_pos hk, Frame.seen, if_neg (fun h => hk.1 h.1)]
        exact Simulates.pass hp
      | false =>
        cases hg : s.governs with
        | true => exact ih.governs hlen' hrest hs hp hg
        | false =>
          obtain ⟨kind, depth⟩ := f
          cases kind with
          | block => exact ih.block hlen' hrest hs hg
          | arm => exact ih.arm hlen' hrest hs hp hg
          | governed =>
            have hstep := Simulates.take hp outer rest
            rw [Frame.take, if_neg (by simp [hg])] at hstep
            have heq := region_take fuel rest hp hs
            simp only [hg, Bool.false_eq_true, ↓reduceIte] at heq
            rw [heq]
            exact hstep

/-! ## The whole file -/

theorem length_rest_le (fuel : Nat) (kind : Region) (depth : Nat) (lines : List Shape) :
    (region fuel kind depth lines).rest.length ≤ lines.length := by
  have := length_region fuel kind depth lines
  omega

/-- A block ends at its closing brace or at the end of the file, and no brace closes the file. -/
theorem region_block_end (fuel depth : Nat) (lines : List Shape) (hlen : lines.length ≤ fuel) :
    ((region fuel .block depth lines).closed ∧ 0 < depth) ∨ (region fuel .block depth lines).rest = [] := by
  induction fuel generalizing lines with
  | zero =>
    obtain rfl : lines = [] := List.eq_nil_of_length_eq_zero (Nat.le_zero.mp hlen)
    exact Or.inr rfl
  | succ fuel ih =>
    cases lines with
    | nil => exact Or.inr rfl
    | cons s rest =>
      -- Whatever is scanned before, the region ends as its last part does.
      have hlast (r : Scan) (hr : r.rest.length ≤ rest.length) :
          ((r.andThen (region fuel .block depth)).closed ∧ 0 < depth) ∨
            (r.andThen (region fuel .block depth)).rest = [] :=
        ih r.rest (hr.trans (Nat.le_of_succ_le_succ hlen))
      rw [region, if_neg (by simp)]
      dsimp only
      generalize hh : (if s.governs = true then _ else _ : Scan) = here
      have hhere : here.rest.length ≤ rest.length := by
        subst hh
        split
        · exact length_rest_le _ _ _ _
        · exact Nat.le_refl _
      split_ifs with ho hc hd hl
      · exact hlast _ ((length_rest_le _ _ _ _).trans hhere)
      · exact hlast _ hhere
      · exact Or.inl ⟨rfl, Nat.pos_of_ne_zero hd⟩
      · exact hlast _ ((length_rest_le _ _ _ _).trans hhere)
      · exact hlast _ hhere

/-- The scan of a file reads all of it. -/
theorem scan_rest (lines : List Shape) : (scan lines).rest = [] := by
  rcases region_block_end lines.length 0 lines (Nat.le_refl _) with ⟨_, h⟩ | h
  · cases h
  · exact h

/-- The scan of a file gives a verdict on each of its lines. -/
theorem length_scan (lines : List Shape) : (scan lines).verdicts.length = lines.length := by
  have h := length_region lines.length .block 0 lines
  have hrest := scan_rest lines
  rw [scan] at hrest ⊢
  rw [hrest, List.length_nil, Nat.add_zero] at h
  exact h

/-- The machine reads a file as the scan does. -/
theorem scan_simulates {lines : List Shape} (hex : ∀ s ∈ lines, s.Exclusive) :
    Simulates [Frame.file] lines (scan lines) [] := by
  have h := region_simulates lines.length Frame.file [] lines (Nat.le_refl _) hex
  rw [Frame.seen, if_neg (by simp [Frame.file])] at h
  exact h

theorem scan_verdicts {lines : List Shape} (hex : ∀ s ∈ lines, s.Exclusive) :
    (scan lines).verdicts = trace [Frame.file] lines := by
  rw [(scan_simulates hex).trace_eq, scan_rest, trace, List.append_nil]

theorem scan_unclosed {lines : List Shape} (hex : ∀ s ∈ lines, s.Exclusive) :
    (scan lines).unclosed = openBlocks (lines.foldl advance [Frame.file]) := by
  rw [(scan_simulates hex).open_eq, scan_rest]
  rfl

end Block

namespace Rule

open Block

/-- What is reported at line `n`, the one after the last, when `count` blocks are open. -/
def endFindings (n count : Nat) : List Finding :=
  if count > 0 then [{ line := n, message := "Expected " ++ Text.ofNat count ++ " more closing brace" }] else []

/-- The width of the white space at the front of a line, as a number of the machine. -/
def measuredWidth (line : Text) : Int := word line.leadingWidth

/-- The message about a line that is indented by another width than expected. -/
def widthMessage (expected actual : Int) : Text :=
  "Wrong indentation level. Expected " ++ Text.ofInt expected ++ " whitespaces got " ++ Text.ofInt actual

/-- What the machine says about a line: one that is not blank is to be indented by `unit` for each level, and a closing
brace is to close a block. -/
def stackMessages (unit : Int) (line : Text) (v : Verdict) : List Text :=
  (if line.isBlank ∨ measuredWidth line = word (v.level * unit) then []
    else [widthMessage (word (v.level * unit)) (measuredWidth line)]) ++
  if v.unexpected then [Text.ofString "Unexpected closing brace"] else []

/-- What the machine reports about lines from number `n` on, where the frames `stack` are open. -/
def stackFindings (unit : Int) : (n : Nat) → (stack : List Frame) → List Text → List Finding
  | n, stack, [] => endFindings n (openBlocks stack)
  | n, stack, line :: rest =>
    let s := Shape.ofLine line rest.head?
    (stackMessages unit line (judge stack s)).map (fun m => { line := n, message := m }) ++
      stackFindings unit (n + 1) (advance stack s) rest

theorem messagesWhere_pair (a b : Bool) (m k : Text) :
    messagesWhere [(a, m), (b, k)] = (if a then [m] else []) ++ (if b then [k] else []) := by
  cases a <;> cases b <;> rfl

/-- The messages about a line: first its width, then its brace. -/
theorem indentMessages_eq (unit : Int) (line : Text) (v : Verdict) :
    indentMessages unit line v =
      (if !line.isBlank && measuredWidth line != expectedWidth unit v.level then
        [widthMessage (expectedWidth unit v.level) (measuredWidth line)] else []) ++
      (if v.unexpected then [Text.ofString "Unexpected closing brace"] else []) :=
  messagesWhere_pair _ _ _ _

/-- **The rule says the same about a line as the machine**, if both give the same verdict on it. -/
theorem stackMessages_eq (unit : Int) (line : Text) (v : Verdict) :
    stackMessages unit line v = indentMessages unit line v := by
  have hexpected : word (v.level * unit) = expectedWidth unit v.level := rfl
  rw [indentMessages_eq, stackMessages, hexpected]
  congr 1
  by_cases hblank : line.isBlank
  · simp [hblank]
  · by_cases hwidth : measuredWidth line = expectedWidth unit v.level <;> simp [hblank, hwidth]

/-- What the machine reports are its verdicts on the lines, and at the end the blocks that are open. -/
theorem stackFindings_eq (unit : Int) : ∀ (n : Nat) (stack : List Frame) (lines : List Text),
    stackFindings unit n stack lines =
      indentFindings unit n lines (trace stack (Shape.ofLines lines)) ++
        endFindings (n + lines.length) (openBlocks ((Shape.ofLines lines).foldl advance stack))
  | _, _, [] => rfl
  | n, stack, line :: rest => by
    rw [stackFindings, stackMessages_eq, stackFindings_eq unit (n + 1), Shape.ofLines, trace, indentFindings,
      List.foldl_cons, List.append_assoc, List.length_cons, Nat.add_assoc, Nat.add_comm 1]

/-- The rule reports the verdicts of the scan, and at the end the blocks that it leaves unclosed. -/
theorem run_indentationLevel (unit : Int) (src : Source) :
    (indentationLevel unit).run src =
      indentFindings unit 1 src.lines (scan (Shape.ofLines src.lines)).verdicts ++
        endFindings (src.lines.length + 1) (scan (Shape.ofLines src.lines)).unclosed :=
  rfl

theorem run_eq_stackFindings (unit : Int) (src : Source) :
    (indentationLevel unit).run src = stackFindings unit 1 [Frame.file] src.lines := by
  have hex : ∀ s ∈ Shape.ofLines src.lines, s.Exclusive := fun s hs => Shape.mem_ofLines_exclusive hs
  rw [run_indentationLevel, stackFindings_eq, ← scan_verdicts hex, ← scan_unclosed hex, Nat.add_comm 1]

/-- **The scan of regions and the stack of frames report the same.** -/
theorem verify_eq_stackFindings (unit : Int) (src : Source) :
    (indentationLevel unit).verify src =
      (stackFindings unit 1 [Frame.file] src.lines).map ((indentationLevel unit).diagnose src.name) := by
  rw [verify, run_eq_stackFindings]

end Rule

end HouseStyle
