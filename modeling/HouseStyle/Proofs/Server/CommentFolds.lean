import HouseStyle.Proofs.Source.Comment
import HouseStyle.Server.Folding

/-!
# Comments fold as a whole

What can be folded is said without the scan. A line is outside block comments if it is reached from the top over lines
that open none and over block comments as a whole (`Outside`), so a block comment hides all that is in it. What folds is
a maximal run of line comments outside block comments (`IsRun`), or a block comment that ends (`IsBlock`).

* **Where the scan stands before a line** is what these notions say of the line: inside a block comment exactly if one
  was opened and not closed (`stateBefore_eq_block_iff`), and in a run exactly if a run reaches there
  (`stateBefore_eq_run_iff`). The state after a line follows from the state before it (`stands`).
* A fold is found at the line where it ends, or at the line after it (`comments_eq`, `mem_endings`), and the next one
  starts after it (`stop_lt_front`, `front_le_front`).

Hence **the folds of comments are the runs and the block comments, one after the other** (`comments_exact`).
-/

namespace HouseStyle.Server.Fold

variable {lines : List Text} {line : Text} {start stop i k s : Nat} {state : CommentState} {f g : Fold}

/-! ## Lines -/

/-- The line is a line comment. -/
def isLineComment (line : Text) : Bool := line.trim.startsWith "//"

/-- The line begins with a block comment that does not end on it. -/
def opensBlock (line : Text) : Bool := line.trim.startsWith "/*" && !(Text.includes (line.trim.drop 2) "*/")

/-- The line holds the end of a block comment. -/
def closesBlock (line : Text) : Bool := line.includes "*/"

theorem opensBlock_of_isLineComment (h : isLineComment line) : opensBlock line = false := by
  obtain ⟨rest, hrest⟩ := List.isPrefixOf_iff_prefix.mp h
  rw [opensBlock, ← hrest]
  rfl

/-- Dropping what comes before a word loses no occurrence of it. -/
theorem infix_dropWhile_iff {α : Type} {p : α → Bool} {a : α} {word : List α} (ha : p a = false) (l : List α) :
    a :: word <:+: l.dropWhile p ↔ a :: word <:+: l := by
  induction l with
  | nil => rfl
  | cons b l ih =>
    cases hb : p b with
    | false => rw [List.dropWhile_cons_of_neg (by simp [hb])]
    | true =>
      have hne : ¬a :: word <+: b :: l := by
        intro hfront
        rw [List.cons_prefix_cons] at hfront
        rw [hfront.1, hb] at ha
        cases ha
      rw [List.dropWhile_cons_of_pos hb, ih, List.infix_cons_iff, or_iff_right hne]

theorem closesBlock_eq (line : Text) : line.trim.includes "*/" = closesBlock line := by
  have hleft : ∀ gs : List Glyph, [Comment.star, Comment.slash] <:+: gs.dropWhile (·.isBlank) ↔
      [Comment.star, Comment.slash] <:+: gs := infix_dropWhile_iff rfl
  have hright : ∀ gs : List Glyph, [Comment.star, Comment.slash] <:+: gs.rdropWhile (·.isBlank) ↔
      [Comment.star, Comment.slash] <:+: gs := by
    intro gs
    have hback : [Comment.star, Comment.slash].reverse <:+: gs.reverse.dropWhile (·.isBlank) ↔
        [Comment.star, Comment.slash].reverse <:+: gs.reverse := infix_dropWhile_iff rfl gs.reverse
    rw [← List.reverse_infix, List.rdropWhile, List.reverse_reverse]
    exact hback.trans List.reverse_infix
  rw [closesBlock, Bool.eq_iff_iff, Comment.includes_closer, Comment.includes_closer, Text.trim, Text.glyphs_trimRight,
    Text.glyphs_trimLeft, hright, hleft]

/-! ## Runs and block comments -/

/-- A block comment that begins on line `start` has not ended before line `i`. -/
structure Unclosed (lines : List Text) (start i : Nat) : Prop where
  lt : start < i
  opens : lines[start]?.any opensBlock
  inside : ∀ k, start < k → k < i → lines[k]?.any closesBlock = false

/-- Line `i` is outside block comments, reading from the top. -/
inductive Outside (lines : List Text) : Nat → Prop
  | top : Outside lines 0
  | line {i : Nat} {line : Text} (h : Outside lines i) (hline : lines[i]? = some line)
      (hopens : opensBlock line = false) : Outside lines (i + 1)
  | block {start stop : Nat} (h : Outside lines start) (hopen : Unclosed lines start stop)
      (hclose : lines[stop]?.any closesBlock) : Outside lines (stop + 1)

/-- The lines from `start` to `stop` are a block comment: the first line opens it, and of the later ones `stop` is the
first that ends it. -/
structure IsBlock (lines : List Text) (start stop : Nat) : Prop extends Unclosed lines start stop where
  outside : Outside lines start
  closes : lines[stop]?.any closesBlock

/-- Line `i` is a line comment outside block comments. -/
structure IsComment (lines : List Text) (i : Nat) : Prop where
  outside : Outside lines i
  comment : lines[i]?.any isLineComment

/-- Line comments reach from line `start` to the line before line `i`, and no line comment is before them. -/
structure RunsTo (lines : List Text) (start i : Nat) : Prop where
  lt : start < i
  comments : ∀ k, start ≤ k → k < i → IsComment lines k
  first : ∀ k, k + 1 = start → ¬IsComment lines k

/-- The lines from `start` to `stop` are a maximal run of line comments, and they are two lines at least. -/
structure IsRun (lines : List Text) (start stop : Nat) : Prop extends RunsTo lines start (stop + 1) where
  two : start < stop
  last : ¬IsComment lines (stop + 1)

theorem IsComment.next (h : IsComment lines i) : Outside lines (i + 1) := by
  obtain ⟨line, hline, hcomment⟩ := (Option.any_eq_true _ _).mp h.comment
  exact .line h.outside hline (opensBlock_of_isLineComment hcomment)

theorem isComment_of (hline : lines[i]? = some line) (h : Outside lines i) (hcomment : isLineComment line) :
    IsComment lines i := by
  refine ⟨h, ?_⟩
  rw [hline]
  exact hcomment

theorem RunsTo.single (hfirst : ∀ k, k + 1 = i → ¬IsComment lines k) (h : IsComment lines i) :
    RunsTo lines i (i + 1) := by
  refine ⟨Nat.lt_succ_self i, ?_, hfirst⟩
  intro k hk hki
  obtain rfl : k = i := by omega
  exact h

theorem RunsTo.more (h : RunsTo lines start i) (hcomment : IsComment lines i) : RunsTo lines start (i + 1) := by
  refine ⟨Nat.lt_succ_of_lt h.lt, ?_, h.first⟩
  intro k hk hki
  rcases Nat.lt_succ_iff_lt_or_eq.mp hki with hlt | rfl
  · exact h.comments k hk hlt
  · exact hcomment

theorem Unclosed.more (h : Unclosed lines start i) (hline : lines[i]? = some line) (hclose : closesBlock line = false) :
    Unclosed lines start (i + 1) := by
  refine ⟨Nat.lt_succ_of_lt h.lt, h.opens, ?_⟩
  intro k hk hki
  rcases Nat.lt_succ_iff_lt_or_eq.mp hki with hlt | rfl
  · exact h.inside k hk hlt
  · rw [hline]
    exact hclose

theorem RunsTo.outside (h : RunsTo lines start i) : Outside lines i := by
  obtain ⟨k, rfl⟩ : ∃ k, i = k + 1 := ⟨i - 1, by have := h.lt; omega⟩
  have hlt := h.lt
  exact (h.comments k (by omega) (Nat.lt_succ_self k)).next

/-! ## The state before a line -/

/-- The state after line `i`. -/
def CommentState.next (i : Nat) (line : Text) : CommentState → CommentState
  | .block start => if closesBlock line then .outside else .block start
  | .run start => if isLineComment line then .run start else if opensBlock line then .block i else .outside
  | .outside => if isLineComment line then .run i else if opensBlock line then .block i else .outside

/-- The folds that are found when line `i` is read, or the end of the file in its place. -/
def CommentState.ended (i : Nat) (line : Option Text) : CommentState → List Fold
  | .block start => if line.any closesBlock then [⟨start, i, .comment⟩] else []
  | .run start => if line.any isLineComment then [] else endRun i (.run start)
  | .outside => []

/-- Where the scan stands before line `i`. -/
def stateBefore (lines : List Text) : (i : Nat) → CommentState
  | 0 => .outside
  | i + 1 =>
    match lines[i]? with
    | none => stateBefore lines i
    | some line => (stateBefore lines i).next i line

/-- The folds that are found at line `i`. -/
def endings (lines : List Text) (i : Nat) : List Fold := (stateBefore lines i).ended i lines[i]?

theorem stateBefore_succ (hi : lines[i]? = some line) :
    stateBefore lines (i + 1) = (stateBefore lines i).next i line := by
  rw [stateBefore, hi]

theorem commentsFrom_cons (i : Nat) (state : CommentState) (line : Text) (rest : List Text) :
    commentsFrom i state (line :: rest) =
      state.ended i (some line) ++ commentsFrom (i + 1) (state.next i line) rest := by
  rw [commentsFrom.eq_def]
  dsimp only
  rw [closesBlock_eq, ← isLineComment, ← opensBlock]
  cases state with
  | outside =>
    rw [CommentState.next]
    split_ifs <;> rfl
  | block start =>
    rw [CommentState.next, CommentState.ended, Option.any_some]
    split_ifs <;> rfl
  | run start =>
    rw [CommentState.next, CommentState.ended, Option.any_some]
    split_ifs <;> rfl

theorem commentsFrom_eq : ∀ (rest : List Text) (i : Nat), lines.drop i = rest →
    commentsFrom i (stateBefore lines i) rest = (List.range' i (rest.length + 1)).flatMap (endings lines)
  | [], i, hdrop => by
    have hi : lines[i]? = none := by
      rw [← List.head?_drop, hdrop]
      rfl
    rw [commentsFrom, List.length_nil, List.range'_one, List.flatMap_singleton, endings, hi]
    cases stateBefore lines i <;> rfl
  | line :: rest, i, hdrop => by
    have hi : lines[i]? = some line := by
      rw [← List.head?_drop, hdrop]
      rfl
    have hrest : lines.drop (i + 1) = rest := by
      rw [← List.tail_drop, hdrop]
      rfl
    have hrange : List.range' i (rest.length + 1 + 1) = i :: List.range' (i + 1) (rest.length + 1) := List.range'_succ
    rw [commentsFrom_cons, ← stateBefore_succ hi, commentsFrom_eq rest (i + 1) hrest, List.length_cons, hrange,
      List.flatMap_cons, endings, hi]

/-- The folds of comments, by the lines at which they are found. -/
theorem comments_eq (lines : List Text) : comments lines = (List.range (lines.length + 1)).flatMap (endings lines) := by
  rw [List.range_eq_range']
  exact commentsFrom_eq lines 0 rfl

/-! ## What the state says -/

theorem next_eq_block (h : ∀ s, state ≠ .block s) (hopens : opensBlock line) : state.next i line = .block i := by
  have hcomment : isLineComment line = false := by
    by_contra hcomment
    rw [opensBlock_of_isLineComment (Bool.not_eq_false _ ▸ hcomment)] at hopens
    cases hopens
  cases state with
  | block s => exact absurd rfl (h s)
  | outside => simp [CommentState.next, hcomment, hopens]
  | run s => simp [CommentState.next, hcomment, hopens]

theorem next_ne_block (h : ∀ s, state ≠ .block s) (hopens : opensBlock line = false) (s : Nat) :
    state.next i line ≠ .block s := by
  cases state with
  | block s => exact absurd rfl (h s)
  | outside => cases hc : isLineComment line <;> simp [CommentState.next, hc, hopens]
  | run s => cases hc : isLineComment line <;> simp [CommentState.next, hc, hopens]

/-- Once a block comment is open, the scan is inside it until it ends. -/
theorem stateBefore_of_unclosed (hstart : ∀ s, stateBefore lines start ≠ .block s) (h : Unclosed lines start i)
    (hi : i ≤ lines.length) : stateBefore lines i = .block start := by
  have hinside : ∀ k, start + 1 ≤ k → k ≤ i → stateBefore lines k = .block start := by
    intro k hk
    induction k, hk using Nat.le_induction with
    | base =>
      intro _
      obtain ⟨line, hline, hopens⟩ := (Option.any_eq_true _ _).mp h.opens
      rw [stateBefore_succ hline, next_eq_block hstart hopens]
    | succ k hk ih =>
      intro hki
      have hline : lines[k]? = some lines[k] := List.getElem?_eq_getElem (by omega)
      have hopen := h.inside k (by omega) (by omega)
      rw [hline, Option.any_some] at hopen
      rw [stateBefore_succ hline, ih (by omega), CommentState.next, hopen]
      rfl
  exact hinside i h.lt le_rfl

/-- Outside block comments the scan is inside none. -/
theorem Outside.stateBefore_ne (h : Outside lines i) : ∀ s, stateBefore lines i ≠ .block s := by
  induction h with
  | top =>
    intro s hs
    cases hs
  | line _ hline hopens ih =>
    rw [stateBefore_succ hline]
    exact next_ne_block ih hopens
  | block _ hopen hclose ih =>
    obtain ⟨line, hline, hcloses⟩ := (Option.any_eq_true _ _).mp hclose
    have hlen := (List.getElem?_eq_some_iff.mp hline).1
    rw [stateBefore_succ hline, stateBefore_of_unclosed ih hopen hlen.le, CommentState.next, if_pos hcloses]
    intro s hs
    cases hs

/-- What a state says of the lines before line `i`. -/
def Stands (lines : List Text) (i : Nat) : CommentState → Prop
  | .outside => Outside lines i ∧ ∀ k, k + 1 = i → ¬IsComment lines k
  | .run start => RunsTo lines start i
  | .block start => Outside lines start ∧ Unclosed lines start i

theorem Stands.outside (h : Stands lines i state) (hstate : ∀ s, state ≠ .block s) : Outside lines i := by
  cases state with
  | block s => exact absurd rfl (hstate s)
  | outside => exact h.1
  | run s => exact RunsTo.outside h

/-- A line that is no line comment, outside block comments. -/
theorem stands_of_outside (hline : lines[i]? = some line) (h : Outside lines i)
    (hcomment : isLineComment line = false) :
    Stands lines (i + 1) (if opensBlock line then .block i else .outside) := by
  split
  · next hopens =>
    refine ⟨h, Nat.lt_succ_self i, ?_, ?_⟩
    · rw [hline]
      exact hopens
    · intro k hk hki
      omega
  · next hopens =>
    refine ⟨.line h hline (Bool.not_eq_true _ ▸ hopens), ?_⟩
    intro k hk hk'
    obtain rfl : k = i := by omega
    have hno := hk'.comment
    rw [hline, Option.any_some, hcomment] at hno
    cases hno

/-- A line keeps the state right. -/
theorem stands_succ (hline : lines[i]? = some line) (h : Stands lines i (stateBefore lines i)) :
    Stands lines (i + 1) (stateBefore lines (i + 1)) := by
  rw [stateBefore_succ hline]
  cases hstate : stateBefore lines i with
  | outside =>
    rw [hstate] at h
    obtain ⟨hout, hfirst⟩ := h
    cases hc : isLineComment line with
    | true =>
      rw [CommentState.next, if_pos hc]
      exact .single hfirst (isComment_of hline hout hc)
    | false =>
      rw [CommentState.next, hc]
      exact stands_of_outside hline hout hc
  | run start =>
    rw [hstate] at h
    have hruns : RunsTo lines start i := h
    cases hc : isLineComment line with
    | true =>
      rw [CommentState.next, if_pos hc]
      exact hruns.more (isComment_of hline hruns.outside hc)
    | false =>
      rw [CommentState.next, hc]
      exact stands_of_outside hline hruns.outside hc
  | block start =>
    rw [hstate] at h
    obtain ⟨hout, hopen⟩ := h
    cases hc : closesBlock line with
    | true =>
      rw [CommentState.next, if_pos hc]
      refine ⟨.block hout hopen ?_, ?_⟩
      · rw [hline]
        exact hc
      · -- The line that ends a block comment is inside it.
        intro k hk hcomment
        obtain rfl : k = i := by omega
        exact hcomment.outside.stateBefore_ne start hstate
    | false =>
      rw [CommentState.next, hc]
      exact ⟨hout, hopen.more hline hc⟩

/-- **The state before each line says what is true of the lines before it.** -/
theorem stands : ∀ i ≤ lines.length, Stands lines i (stateBefore lines i)
  | 0, _ => ⟨.top, fun _ hk => by cases hk⟩
  | i + 1, hi => stands_succ (List.getElem?_eq_getElem hi) (stands i (Nat.le_of_succ_le hi))

/-- **The scan is inside a block comment exactly if one is open.** -/
theorem stateBefore_eq_block_iff (hi : i ≤ lines.length) :
    stateBefore lines i = .block start ↔ Outside lines start ∧ Unclosed lines start i := by
  constructor
  · intro hstate
    have h := stands i hi
    rwa [hstate] at h
  · rintro ⟨hout, hopen⟩
    exact stateBefore_of_unclosed hout.stateBefore_ne hopen hi

/-- **The scan is in a run exactly if a run reaches the line.** -/
theorem stateBefore_eq_run_iff (hi : i ≤ lines.length) : stateBefore lines i = .run start ↔ RunsTo lines start i := by
  constructor
  · intro hstate
    have h := stands i hi
    rwa [hstate] at h
  · intro hruns
    have hlt := hruns.lt
    have hreach : ∀ k, start + 1 ≤ k → k ≤ i → stateBefore lines k = .run start := by
      intro k hk
      induction k, hk using Nat.le_induction with
      | base =>
        intro _
        have hfirst := hruns.comments start le_rfl hlt
        obtain ⟨line, hline, hcomment⟩ := (Option.any_eq_true _ _).mp hfirst.comment
        have hstands : Stands lines start (stateBefore lines start) := stands start (by omega)
        rw [stateBefore_succ hline]
        cases hstate : stateBefore lines start with
        | outside => rw [CommentState.next, if_pos hcomment]
        | block s => exact absurd hstate (hfirst.outside.stateBefore_ne s)
        | run s =>
          rw [hstate] at hstands
          have hs : s < start := hstands.lt
          exact absurd (hstands.comments (start - 1) (by omega) (by omega)) (hruns.first (start - 1) (by omega))
      | succ k hk ih =>
        intro hki
        obtain ⟨line, hline, hcomment⟩ := (Option.any_eq_true _ _).mp (hruns.comments k (by omega) hki).comment
        rw [stateBefore_succ hline, ih (by omega), CommentState.next, if_pos hcomment]
    exact hreach i hlt le_rfl

/-! ## What is found at a line -/

theorem mem_ended {after : Option Text} : f ∈ state.ended i after ↔
    (∃ s, state = .run s ∧ after.any isLineComment = false ∧ s + 1 < i ∧ f = ⟨s, i - 1, .comment⟩) ∨
      ∃ s, state = .block s ∧ after.any closesBlock ∧ f = ⟨s, i, .comment⟩ := by
  cases state with
  | outside => simp [CommentState.ended]
  | run s => simp [CommentState.ended, endRun]
  | block s => simp [CommentState.ended]

/-- **What is found at a line** is the block comment that ends there, or the run that ends before. -/
theorem mem_endings (hi : i ≤ lines.length) : f ∈ endings lines i ↔ f.kind = .comment ∧
    ((IsRun lines f.start f.stop ∧ f.stop + 1 = i) ∨ (IsBlock lines f.start f.stop ∧ f.stop = i)) := by
  obtain ⟨start, stop, kind⟩ := f
  rw [endings, mem_ended]
  simp only [stateBefore_eq_run_iff hi, stateBefore_eq_block_iff hi, Fold.mk.injEq]
  constructor
  · rintro (⟨_, hruns, hnext, htwo, rfl, rfl, rfl⟩ | ⟨_, ⟨hout, hopen⟩, hclose, rfl, rfl, rfl⟩)
    · have hstop : i - 1 + 1 = i := by omega
      refine ⟨rfl, .inl ⟨⟨hstop.symm ▸ hruns, by omega, ?_⟩, hstop⟩⟩
      rw [hstop]
      intro hcomment
      rw [hcomment.comment] at hnext
      cases hnext
    · exact ⟨rfl, .inr ⟨⟨hopen, hout, hclose⟩, rfl⟩⟩
  · rintro ⟨rfl, ⟨hrun, rfl⟩ | ⟨hblock, rfl⟩⟩
    · have htwo := hrun.two
      refine .inl ⟨start, hrun.toRunsTo, ?_, by omega, rfl, rfl, rfl⟩
      by_contra hnext
      exact hrun.last ⟨hrun.toRunsTo.outside, Bool.not_eq_false _ ▸ hnext⟩
    · exact .inr ⟨start, ⟨hblock.outside, hblock.toUnclosed⟩, hblock.closes, rfl, rfl, rfl⟩

/-! ## The order of the folds -/

/-- The first line of a fold that is not found yet before line `i`. -/
def CommentState.front (i : Nat) : CommentState → Nat
  | .outside => i
  | .run start => start
  | .block start => start

theorem CommentState.front_le_next (line : Text) (h : state.front i ≤ i) :
    state.front i ≤ (state.next i line).front (i + 1) := by
  cases state with
  | outside =>
    rw [CommentState.next]
    split_ifs
    · exact le_rfl
    · exact le_rfl
    · exact Nat.le_succ i
  | run start =>
    rw [CommentState.next]
    split_ifs
    · exact le_rfl
    · exact h
    · exact Nat.le_succ_of_le h
  | block start =>
    rw [CommentState.next]
    split_ifs
    · exact Nat.le_succ_of_le h
    · exact le_rfl

theorem front_le (hi : i ≤ lines.length) : (stateBefore lines i).front i ≤ i := by
  have h := stands i hi
  cases hstate : stateBefore lines i with
  | outside => exact le_rfl
  | run s =>
    rw [hstate] at h
    exact h.lt.le
  | block s =>
    rw [hstate] at h
    exact h.2.lt.le

theorem front_le_front (hik : i ≤ k) (hk : k ≤ lines.length) :
    (stateBefore lines i).front i ≤ (stateBefore lines k).front k := by
  induction k, hik using Nat.le_induction with
  | base => exact le_rfl
  | succ k hik ih =>
    have hle : (stateBefore lines k).front k ≤ k := front_le (by omega)
    refine (ih (by omega)).trans ?_
    rw [stateBefore_succ (List.getElem?_eq_getElem hk)]
    exact CommentState.front_le_next lines[k] hle

theorem front_le_start (hf : f ∈ endings lines i) : (stateBefore lines i).front i ≤ f.start := by
  rcases mem_ended.mp hf with ⟨s, hstate, _, _, rfl⟩ | ⟨s, hstate, _, rfl⟩ <;> rw [hstate] <;> exact le_rfl

/-- No line of a fold is in a later one. -/
theorem stop_lt_front (hi : i < lines.length) (hf : f ∈ endings lines i) :
    f.stop < (stateBefore lines (i + 1)).front (i + 1) := by
  have hline : lines[i]? = some lines[i] := List.getElem?_eq_getElem hi
  rw [stateBefore_succ hline]
  rcases mem_ended.mp hf with ⟨s, hstate, hcomment, htwo, rfl⟩ | ⟨s, hstate, hclose, rfl⟩
  · rw [hline, Option.any_some] at hcomment
    rw [hstate, CommentState.next, hcomment, if_neg Bool.false_ne_true]
    show i - 1 < _
    split
    · show i - 1 < i
      omega
    · show i - 1 < i + 1
      omega
  · rw [hline, Option.any_some] at hclose
    rw [hstate, CommentState.next, if_pos hclose]
    exact Nat.lt_succ_self i

theorem pairwise_comments (lines : List Text) : (comments lines).Pairwise fun f g => f.stop < g.start := by
  rw [comments_eq, List.pairwise_flatMap]
  constructor
  · intro i _
    rw [endings]
    cases stateBefore lines i with
    | outside => exact List.Pairwise.nil
    | run s =>
      rw [CommentState.ended, endRun]
      split_ifs <;> simp
    | block s =>
      rw [CommentState.ended]
      split_ifs <;> simp
  · refine List.pairwise_lt_range.imp_of_mem ?_
    intro i k hi hk hik f hf g hg
    have hk : k ≤ lines.length := Nat.le_of_lt_succ (List.mem_range.mp hk)
    calc f.stop < (stateBefore lines (i + 1)).front (i + 1) := stop_lt_front (by omega) hf
      _ ≤ (stateBefore lines k).front k := front_le_front hik hk
      _ ≤ g.start := front_le_start hg

/-! ## All folds of comments -/

theorem IsRun.lt_length (h : IsRun lines start stop) : stop < lines.length := by
  have htwo := h.two
  obtain ⟨_, hline, _⟩ := (Option.any_eq_true _ _).mp (h.comments stop htwo.le (Nat.lt_succ_self stop)).comment
  exact (List.getElem?_eq_some_iff.mp hline).1

theorem IsBlock.lt_length (h : IsBlock lines start stop) : stop < lines.length := by
  obtain ⟨_, hline, _⟩ := (Option.any_eq_true _ _).mp h.closes
  exact (List.getElem?_eq_some_iff.mp hline).1

theorem mem_comments : f ∈ comments lines ↔
    f.kind = .comment ∧ (IsRun lines f.start f.stop ∨ IsBlock lines f.start f.stop) := by
  rw [comments_eq, List.mem_flatMap]
  constructor
  · rintro ⟨i, hi, hf⟩
    obtain ⟨hkind, hf⟩ := (mem_endings (Nat.le_of_lt_succ (List.mem_range.mp hi))).mp hf
    exact ⟨hkind, hf.imp And.left And.left⟩
  · rintro ⟨hkind, hrun | hblock⟩
    · have hlen := hrun.lt_length
      exact ⟨f.stop + 1, List.mem_range.mpr (by omega), (mem_endings hlen).mpr ⟨hkind, .inl ⟨hrun, rfl⟩⟩⟩
    · have hlen := hblock.lt_length
      exact ⟨f.stop, List.mem_range.mpr (by omega), (mem_endings hlen.le).mpr ⟨hkind, .inr ⟨hblock, rfl⟩⟩⟩

/-- **The folds of comments are the comments.** They are the maximal runs of at least two line comments outside block
comments, and the block comments that end; each has two lines at least, in the file, and they have no line in common and
stand in the order of the lines. -/
theorem comments_exact (lines : List Text) :
    (∀ f, f ∈ comments lines ↔ f.kind = .comment ∧ (IsRun lines f.start f.stop ∨ IsBlock lines f.start f.stop)) ∧
    (∀ f ∈ comments lines, f.start < f.stop ∧ f.stop < lines.length) ∧
    (comments lines).Pairwise fun f g => f.stop < g.start := by
  refine ⟨fun f => mem_comments, ?_, pairwise_comments lines⟩
  intro f hf
  rcases (mem_comments.mp hf).2 with hrun | hblock
  · exact ⟨hrun.two, hrun.lt_length⟩
  · exact ⟨hblock.lt, hblock.lt_length⟩

/-- A run that a block comment ends, line comments that the block comment hides, and a run at the end of the file. -/
example :
    let lines : List Text := ["// a", " // b", "/*/", "// c", "// d", "*/ // e", "// f", "//"]
    comments lines = [⟨0, 1, .comment⟩, ⟨2, 5, .comment⟩, ⟨6, 7, .comment⟩] := by
  decide +kernel

end HouseStyle.Server.Fold
