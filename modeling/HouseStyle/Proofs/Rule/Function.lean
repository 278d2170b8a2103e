import HouseStyle.Proofs.Rule.Scan
import HouseStyle.Proofs.Source.Comment
import HouseStyle.Rule.Function

/-!
# Code lines of a function

A line of a body is a code line if it holds a character outside block comments that is not white space, and does not
begin with `//` (`Line.reading`). The rule about the size of a function does not read characters: it looks for `/*` and
`*/` anywhere on a line, at its front and at its end (`codeLine`).

* **On one line the two agree exactly if the line is legible** (`codeLine_eq_iff`): a comment that begins after
  something else stays open, with code beside it, and where a line begins in a comment that ends on it, no other comment
  is open at its end, and no code stands before a final `*/`.
* In a body the brace depth stays above that of its header, so no line is judged before the closing brace
  (`counts_body`). Hence **the rule counts the code lines** of a function whose lines are legible
  (`functionMaxLines_counts`).
* One line that is not legible is enough to go wrong: the rule takes a comment behind code to be open after its line
  (`trailing_comment_hides_code`).
-/

namespace HouseStyle

namespace Line

variable {isOpen : Bool} {line : Text}

/-! ## Lines with comments -/

/-- A delimiter of block comments stands on the line. -/
def isDelimited (line : Text) : Bool := line.includes "/*" || line.includes "*/"

/-- The line does not hold both `//` and a delimiter of block comments. -/
def IsUnmixed (line : Text) : Prop := line.includes "//" → isDelimited line = false

instance (line : Text) : Decidable (IsUnmixed line) := inferInstanceAs (Decidable (_ → _))

/-- Whether the line holds code, and whether a block comment is open after it; `isOpen` says whether one is open before
it. -/
def reading (isOpen : Bool) (line : Text) : Bool × Bool :=
  let seen := Comment.outside isOpen line.glyphs
  (seen.1.any (!·.isBlank) && !line.trimLeft.startsWith "//", seen.2)

theorem includes_of_startsWith {s : Text} (h : line.trimLeft.startsWith s) : line.includes s := by
  obtain ⟨blanks, hline, _⟩ := Text.exists_append_trimLeft line
  have hinfix := (List.isPrefixOf_iff_prefix.mp h).isInfix
  rw [Text.includes_iff, hline]
  exact hinfix.trans (List.suffix_append blanks _).isInfix

theorem not_isBlank_of_closer (h : line.includes "*/") : line.isBlank = false := by
  rw [← Bool.not_eq_true]
  intro hblank
  exact Text.not_mem_of_isBlank hblank (c := Text.byte '*') (by decide)
    ((Text.includes_iff.mp h).subset List.mem_cons_self)

theorem reading_of_no_opener (h : line.includes "/*" = false) :
    reading false line = (!(line.isBlank || line.trimLeft.startsWith "//"), false) := by
  have hnone : ¬[Comment.slash, Comment.star] <:+: line.glyphs := by
    rw [← Comment.includes_opener, h]
    decide
  have hink : line.glyphs.any (!·.isBlank) = !line.isBlank := by
    rw [← Bool.not_inj_iff, Bool.not_not, List.not_any_eq_all_not, Bool.eq_iff_iff, Text.isBlank_iff_forall]
    simp
  rw [reading, Comment.outside_of_no_opener hnone, hink, Bool.not_or]

theorem reading_of_no_closer (h : line.includes "*/" = false) : reading true line = (false, true) := by
  have hnone : ¬[Comment.star, Comment.slash] <:+: line.glyphs := by
    rw [← Comment.includes_closer, h]
    decide
  rw [reading, Comment.outside_of_no_closer hnone]
  rfl

/-- A line that begins with a comment that does not end. -/
theorem reading_of_front (hfront : line.trimLeft.startsWith "/*") (h : line.includes "*/" = false) :
    reading isOpen line = (false, true) := by
  cases isOpen with
  | true => exact reading_of_no_closer h
  | false =>
    obtain ⟨blanks, rest, hglyphs, hblank⟩ := Comment.exists_of_startsWith hfront
    have hnone : ¬[Comment.star, Comment.slash] <:+: rest := by
      intro hrest
      refine absurd (Comment.includes_closer.mpr ?_) (Bool.eq_false_iff.mp h)
      rw [hglyphs]
      exact hrest.trans ((List.suffix_append _ _).trans (List.suffix_append _ _)).isInfix
    have hopen : Comment.outside false ([Comment.slash, Comment.star] ++ rest) = ([], true) := by
      rw [List.cons_append, List.singleton_append, Comment.outside, if_pos ⟨rfl, rfl⟩,
        Comment.outside_of_no_closer hnone]
    have hink : blanks.any (!·.isBlank) = false := by simpa using hblank
    rw [reading, hglyphs, Comment.outside_blanks hblank, hopen, List.append_nil, hink]
    rfl

/-- A line that begins in a comment, ends outside every comment and does not end with one holds code. -/
theorem reading_closed (h : (reading isOpen line).2 = false) (hfront : isOpen ∨ line.trimLeft.startsWith "/*")
    (hslashes : line.trimLeft.startsWith "//" = false) (hend : line.trimRight.endsWith "*/" = false) :
    (reading isOpen line).1 = true := by
  have hink : (Comment.outside isOpen line.glyphs).1.any (!·.isBlank) := by
    rcases Comment.outside_closed h with hink | hlast | ⟨hopen, hblank⟩
    · exact hink
    · rw [hlast.endsWith] at hend
      cases hend
    · rw [hopen] at hfront
      obtain ⟨blanks, rest, hglyphs, _⟩ := Comment.exists_of_startsWith (hfront.resolve_left Bool.false_ne_true)
      exact absurd (hblank Comment.slash (by simp [hglyphs])) (by decide)
  rw [reading, hink, hslashes]
  rfl

end Line

namespace Rule

open Line

/-! ## One line -/

/-- The line is one that the rule reads as it is. If a comment begins on it after something else, it holds code and a
comment is open at its end. If it begins in a comment and one ends on it, none is open at its end, and no code stands on
it if it ends in `*/`. -/
def isLegible (isOpen : Bool) (line : Text) : Bool :=
  if line.includes "/*" && !line.trimLeft.startsWith "/*" then reading isOpen line == (true, true)
  else if line.includes "*/" && (line.trimLeft.startsWith "/*" || isOpen) then
    !(reading isOpen line).2 && !(line.trimRight.endsWith "*/" && (reading isOpen line).1)
  else true

variable {isOpen : Bool} {line : Text}

theorem codeLine_of_opener (h : line.includes "/*") (hfront : line.trimLeft.startsWith "/*" = false) :
    codeLine isOpen line = (true, true) := by
  simp [codeLine, h, hfront]

/-- A line that begins in a comment. -/
theorem codeLine_of_inside (h : line.trimLeft.startsWith "/*" ∨ (isOpen ∧ line.includes "/*" = false)) :
    codeLine isOpen line = if line.includes "*/" then (!line.trimRight.endsWith "*/", false) else (false, true) := by
  rcases h with hfront | ⟨hopen, hnone⟩
  · simp [codeLine, hfront, includes_of_startsWith hfront]
  · simp [codeLine, hopen, hnone]

/-- A line without a comment. -/
theorem codeLine_of_no_opener (h : line.includes "/*" = false)
    (hslashes : line.includes "*/" → line.trimLeft.startsWith "//" = false) :
    codeLine false line = (!(line.isBlank || line.trimLeft.startsWith "//"), false) := by
  cases hcloser : line.includes "*/" with
  | false => simp [codeLine, h, hcloser]
  | true => simp [codeLine, h, hcloser, hslashes hcloser, not_isBlank_of_closer hcloser]

/-- On a line that begins in a comment. -/
theorem codeLine_eq_iff_of_inside (h : line.trimLeft.startsWith "/*" ∨ (isOpen ∧ line.includes "/*" = false))
    (hslashes : line.includes "*/" → line.trimLeft.startsWith "//" = false) :
    codeLine isOpen line = reading isOpen line ↔ isLegible isOpen line := by
  have hfront : (line.includes "/*" && !line.trimLeft.startsWith "/*") = false := by
    rcases h with hfront | ⟨_, hnone⟩
    · rw [hfront, Bool.not_true, Bool.and_false]
    · rw [hnone, Bool.false_and]
  have hinside : (line.trimLeft.startsWith "/*" || isOpen) = true := by
    rw [Bool.or_eq_true]
    exact h.imp_right And.left
  rw [codeLine_of_inside h, isLegible, hfront, hinside, Bool.and_true, if_neg Bool.false_ne_true]
  cases hcloser : line.includes "*/" with
  | false =>
    have hreading : reading isOpen line = (false, true) := by
      rcases h with hfront | ⟨hopen, _⟩
      · exact reading_of_front hfront hcloser
      · rw [hopen]
        exact reading_of_no_closer hcloser
    simp [hreading]
  | true =>
    rw [if_pos rfl, if_pos rfl]
    have hclosed : (reading isOpen line).2 = false → line.trimRight.endsWith "*/" = false →
        (reading isOpen line).1 = true :=
      fun hafter => reading_closed hafter (h.symm.imp_left And.left) (hslashes hcloser)
    generalize reading isOpen line = r at hclosed ⊢
    obtain ⟨code, after⟩ := r
    cases after <;> cases code <;> cases hend : line.trimRight.endsWith "*/" <;> simp_all

/-- **On one line the rule counts as it should exactly if the line is legible.** -/
theorem codeLine_eq_iff (h : IsUnmixed line) :
    codeLine isOpen line = reading isOpen line ↔ isLegible isOpen line := by
  have hslashes : line.includes "*/" → line.trimLeft.startsWith "//" = false := by
    intro hcloser
    rw [← Bool.not_eq_true]
    intro hstart
    have hnone := h (includes_of_startsWith hstart)
    rw [isDelimited, hcloser, Bool.or_true] at hnone
    cases hnone
  by_cases hinside : line.trimLeft.startsWith "/*" ∨ (isOpen ∧ line.includes "/*" = false)
  · exact codeLine_eq_iff_of_inside hinside hslashes
  · obtain ⟨hfront, hopener⟩ := not_or.mp hinside
    rw [Bool.not_eq_true] at hfront
    rw [isLegible, hfront, Bool.not_false, Bool.and_true, Bool.false_or]
    cases hnone : line.includes "/*" with
    | true =>
      rw [codeLine_of_opener hnone hfront, if_pos rfl, beq_iff_eq, eq_comm]
    | false =>
      have hclosed : isOpen = false := by
        rw [← Bool.not_eq_true]
        exact fun hopen => hopener ⟨hopen, hnone⟩
      rw [hclosed, codeLine_of_no_opener hnone hslashes, reading_of_no_opener hnone, Bool.and_false]
      simp

end Rule

/-! ## Functions -/

/-- Every line with a brace is a lone brace, and these close `d` blocks more than they open. -/
inductive Balanced : (d : Nat) → List Text → Prop where
  | done : Balanced 0 []
  | plain {d : Nat} {line : Text} {rest : List Text} (h : Line.Braceless line) (hrest : Balanced d rest) :
    Balanced d (line :: rest)
  | opening {d : Nat} {line : Text} {rest : List Text} (h : Line.isOpeningBrace line) (hrest : Balanced (d + 1) rest) :
    Balanced d (line :: rest)
  | closing {d : Nat} {line : Text} {rest : List Text} (h : Line.isLoneClosing line) (hrest : Balanced d rest) :
    Balanced (d + 1) (line :: rest)

/-- A file that is one function. -/
structure FunctionFile where
  header : List Text
  opening : Text
  body : List Text
  closing : Text
  header_plain : ∀ line ∈ header, Line.Braceless line ∧ Line.isDelimited line = false
  opening_lone : Line.isOpeningBrace opening
  body_balanced : Balanced 0 body
  body_unmixed : ∀ line ∈ body, Line.IsUnmixed line
  closing_lone : Line.isLoneClosing closing

namespace FunctionFile

/-- The lines of the file. -/
def lines (f : FunctionFile) : List Text := f.header ++ f.opening :: (f.body ++ [f.closing])

/-- The number of code lines; `isOpen` says whether a comment is open before them. -/
def codeLines : (isOpen : Bool) → List Text → Nat
  | _, [] => 0
  | isOpen, line :: rest =>
    let (code, after) := Line.reading isOpen line
    code.toNat + codeLines after rest

/-- Every line is legible; `isOpen` says whether a comment is open before them. -/
def areLegible : (isOpen : Bool) → List Text → Bool
  | _, [] => true
  | isOpen, line :: rest => Rule.isLegible isOpen line && areLegible (Line.reading isOpen line).2 rest

end FunctionFile

namespace Rule

open FunctionFile

variable {max : Int} {d n k : Nat} {isOpen : Bool} {line : Text} {body : List Text}

/-- The scan for code lines. -/
def bodyScan (max : Int) : LineScan BodyState := { start := {}, step := BodyState.next max }

/-- The message about a body that is too long. -/
def exceeded (max : Int) (k : Nat) : Text :=
  "Function body's line count exceeded. Expected at most " ++ Text.ofInt max ++ " got " ++ Text.ofNat k

/-- A line before the body. -/
theorem step_header (h : Line.Braceless line) : (bodyScan max).step ⟨0, 0, false⟩ line = (⟨0, 0, false⟩, []) := by
  simp [bodyScan, BodyState.next, h.1, h.2, messagesWhere]

theorem step_body_opening (h : Line.isOpeningBrace line) :
    (bodyScan max).step ⟨0, 0, false⟩ line = (⟨1, 0, false⟩, []) := by
  simp [bodyScan, BodyState.next, Line.has_opening h, messagesWhere]

/-- The brace that closes a body. -/
theorem step_body_closing (h : Line.isLoneClosing line) :
    (bodyScan max).step ⟨1, k, isOpen⟩ line = (⟨0, k, isOpen⟩, if max < k then [exceeded max k] else []) := by
  by_cases hmax : max < k <;> simp [bodyScan, BodyState.next, Line.has_closing h, messagesWhere, exceeded, hmax]

/-- A line in a body. -/
theorem step_plain (h : Line.Braceless line) : (bodyScan max).step ⟨d + 1, k, isOpen⟩ line =
    (⟨d + 1, k + (codeLine isOpen line).1.toNat, (codeLine isOpen line).2⟩, []) := by
  cases hcode : (codeLine isOpen line).1 <;> simp [bodyScan, BodyState.next, h.1, h.2, hcode, messagesWhere]

theorem step_block_opening (h : Line.isOpeningBrace line) : (bodyScan max).step ⟨d + 1, k, isOpen⟩ line =
    (⟨d + 2, k + (codeLine isOpen line).1.toNat, (codeLine isOpen line).2⟩, []) := by
  cases hcode : (codeLine isOpen line).1 <;> simp [bodyScan, BodyState.next, Line.has_opening h, hcode, messagesWhere]

theorem step_block_closing (h : Line.isLoneClosing line) : (bodyScan max).step ⟨d + 2, k, isOpen⟩ line =
    (⟨d + 1, k + (codeLine isOpen line).1.toNat, (codeLine isOpen line).2⟩, []) := by
  cases hcode : (codeLine isOpen line).1 <;> simp [bodyScan, BodyState.next, Line.has_closing h, hcode, messagesWhere]

/-- The lines of a body from a place inside it on: the scan reports nothing and ends at the depth of the body, with the
code lines added. -/
def Counts (max : Int) (d : Nat) (isOpen : Bool) (body : List Text) : Prop :=
  ∀ n k, ∃ after, (bodyScan max).Reads ⟨d + 1, k, isOpen⟩ n body [] ⟨1, k + codeLines isOpen body, after⟩

/-- A legible line in front, whatever it does to the depth. -/
theorem Counts.cons {d' : Nat} (hunmixed : ∀ l ∈ line :: body, Line.IsUnmixed l)
    (hlegible : areLegible isOpen (line :: body))
    (hstep : ∀ k, (bodyScan max).step ⟨d + 1, k, isOpen⟩ line =
      (⟨d' + 1, k + (codeLine isOpen line).1.toNat, (codeLine isOpen line).2⟩, []))
    (h : (∀ l ∈ body, Line.IsUnmixed l) → areLegible (Line.reading isOpen line).2 body →
      Counts max d' (Line.reading isOpen line).2 body) :
    Counts max d isOpen (line :: body) := by
  intro n k
  obtain ⟨hline, hlegible⟩ := (Bool.and_eq_true _ _).mp hlegible
  obtain ⟨hfirst, hunmixed⟩ := List.forall_mem_cons.mp hunmixed
  obtain ⟨after, hbody⟩ := h hunmixed hlegible (n + 1) (k + (Line.reading isOpen line).1.toNat)
  rw [Nat.add_assoc] at hbody
  exact ⟨after, .quiet ((codeLine_eq_iff hfirst).mpr hline ▸ hstep k) hbody⟩

/-- **Over legible lines the scan counts the code lines.** -/
theorem counts_body (hbody : Balanced d body) (hunmixed : ∀ line ∈ body, Line.IsUnmixed line)
    (hlegible : areLegible isOpen body) : Counts max d isOpen body := by
  induction hbody generalizing isOpen with
  | done => exact fun n k => ⟨isOpen, .nil⟩
  | plain h hrest ih => exact .cons hunmixed hlegible (fun k => step_plain h) ih
  | opening h hrest ih => exact .cons hunmixed hlegible (fun k => step_block_opening h) ih
  | closing h hrest ih => exact .cons hunmixed hlegible (fun k => step_block_closing h) ih

theorem reads_header {header : List Text} (h : ∀ line ∈ header, Line.Braceless line) :
    (bodyScan max).Reads ⟨0, 0, false⟩ n header [] ⟨0, 0, false⟩ := by
  induction header generalizing n with
  | nil => exact .nil
  | cons line header ih =>
    obtain ⟨hline, hheader⟩ := List.forall_mem_cons.mp h
    exact .quiet (step_header hline) (ih hheader)

/-- **The rule counts code lines**: if the lines of its body are legible, a function is reported exactly if it holds more
of them than allowed, once, on its closing brace and with their number. -/
theorem functionMaxLines_counts (max : Int) (name : Text) (f : FunctionFile) (h : areLegible false f.body) :
    (functionMaxLines max).verify ⟨name, f.lines⟩ =
      if max < codeLines false f.body then
        [⟨⟨name, f.lines.length, 0⟩, exceeded max (codeLines false f.body), "function-max-lines", .error, []⟩]
      else [] := by
  have hcounts : Counts max 0 false f.body := counts_body f.body_balanced f.body_unmixed h
  obtain ⟨after, hbody⟩ := hcounts (1 + f.header.length + 1) 0
  rw [Nat.zero_add (codeLines false f.body)] at hbody
  have hreads := (reads_header (n := 1) fun line hline => (f.header_plain line hline).1).append
    (.quiet (step_body_opening f.opening_lone) (hbody.append (.single (step_body_closing f.closing_lone))))
  have hrun : (functionMaxLines max).run ⟨name, f.lines⟩ = _ := hreads.run rfl
  have hlast : 1 + f.header.length + 1 + f.body.length = f.lines.length := by
    simp only [FunctionFile.lines, List.length_append, List.length_cons, List.length_nil]
    omega
  rw [verify, hrun, hlast]
  split_ifs <;> rfl

/-- A function with comments of many layouts. -/
def commentedFunction : FunctionFile where
  header := ["int", "f(int x) // one"]
  opening := "\x7b"
  body := ["  // two", "  int y; /* three", "  four", "  five */ y = x;", "", "  /* six */", "  if (y)", "  \x7b",
    "    y++; // seven", "  \x7d", "  /* eight */ return y;"]
  closing := "\x7d"
  header_plain := by decide +kernel
  opening_lone := Line.isOpeningBrace_brace
  body_balanced :=
    .plain (by decide +kernel) <| .plain (by decide +kernel) <| .plain (by decide +kernel) <|
    .plain (by decide +kernel) <| .plain (by decide +kernel) <| .plain (by decide +kernel) <|
    .plain (by decide +kernel) <| .opening (by decide +kernel) <| .plain (by decide +kernel) <|
    .closing (by decide +kernel) <| .plain (by decide +kernel) .done
  body_unmixed := by decide +kernel
  closing_lone := Line.isLoneClosing_brace

/-- It holds seven code lines: six are too few. -/
theorem functionMaxLines_counts_seven :
    (functionMaxLines 6).verify ⟨"a.c", commentedFunction.lines⟩ =
        [⟨⟨"a.c", 15, 0⟩, exceeded 6 7, "function-max-lines", .error, []⟩] ∧
      (functionMaxLines 7).verify ⟨"a.c", commentedFunction.lines⟩ = [] := by
  have hlegible : areLegible false commentedFunction.body := by decide +kernel
  have hcount : codeLines false commentedFunction.body = 7 := by decide +kernel
  rw [functionMaxLines_counts 6 "a.c" commentedFunction hlegible,
    functionMaxLines_counts 7 "a.c" commentedFunction hlegible, hcount]
  exact ⟨rfl, rfl⟩

/-- A function with a comment behind code, before another line of code. -/
def trailingComment : FunctionFile where
  header := ["f()"]
  opening := "\x7b"
  body := ["x = 1; /* one */", "y = 2;"]
  closing := "\x7d"
  header_plain := by decide +kernel
  opening_lone := Line.isOpeningBrace_brace
  body_balanced := .plain (by decide +kernel) <| .plain (by decide +kernel) .done
  body_unmixed := by decide +kernel
  closing_lone := Line.isLoneClosing_brace

/-- Its second code line is not counted. -/
theorem trailing_comment_hides_code :
    codeLines false trailingComment.body = 2 ∧
      (functionMaxLines 1).verify ⟨"a.c", trailingComment.lines⟩ = [] := by
  decide +kernel

end Rule

end HouseStyle
