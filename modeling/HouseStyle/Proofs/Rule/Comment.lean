import HouseStyle.Proofs.Rule.Scan
import HouseStyle.Proofs.Text.Ink
import HouseStyle.Rule.Comment

/-!
# The layout of block comments

A file is laid out if it is a sequence of parts (`Comment.Part`): a line that holds both delimiters of block comments or
none, or a comment over several lines. Such a comment has a line with the opening delimiter alone, lines that begin with
two stars, and a line with the closing delimiter alone.

* Outside a comment the rule goes on without a message exactly at a line of the first kind or at the first line of a
  comment (`commentStep_outside`), inside a comment exactly at a line with two stars or at the last line
  (`commentStep_inside`).
* Hence a part is read without a message, from outside to outside (`reads_part`), and what is read without a message is
  a sequence of parts, after the rest of the open comment if there is one (`isLaidOut_of_silent`).

So **the rule is silent on a file exactly if the file is laid out** (`multiLinesComment_silent_iff`).
-/

namespace HouseStyle

namespace Comment

/-- Which delimiters of block comments a line holds. -/
inductive Role where
  | plain
  | both
  | opens
  | closes
  deriving DecidableEq

/-- The role of a line in comments that span several lines. -/
def role (line : Text) : Role :=
  match line.includes "/*", line.includes "*/" with
  | false, false => .plain
  | true, true => .both
  | true, false => .opens
  | false, true => .closes

/-- The line neither opens a comment nor closes one. -/
def IsLevel (line : Text) : Prop := role line = .plain ∨ role line = .both

/-- The line opens a comment and holds nothing else; the delimiter may have a second star. -/
def IsOpener (line : Text) : Prop :=
  role line = .opens ∧ (line.inkGlyphs.length = 2 ∨ (line.inkGlyphs.length = 3 ∧ line.includes "/**"))

/-- The line stands between the delimiters of a comment. -/
def IsMiddle (line : Text) : Prop := IsLevel line ∧ line.trimLeft.startsWith "**"

/-- The line closes a comment and holds nothing else. -/
def IsCloser (line : Text) : Prop := role line = .closes ∧ line.inkGlyphs.length = 2

instance : DecidablePred IsLevel := fun _ => inferInstanceAs (Decidable (_ ∨ _))

instance : DecidablePred IsOpener := fun _ => inferInstanceAs (Decidable (_ ∧ _))

instance : DecidablePred IsMiddle := fun _ => inferInstanceAs (Decidable (_ ∧ _))

instance : DecidablePred IsCloser := fun _ => inferInstanceAs (Decidable (_ ∧ _))

/-- A line outside comments, or a comment over several lines. -/
inductive Part where
  | level (line : Subtype IsLevel)
  | block (opener : Subtype IsOpener) (middle : List (Subtype IsMiddle)) (closer : Subtype IsCloser)

/-- The lines of a part. -/
def Part.lines : Part → List Text
  | level line => [line.1]
  | block opener middle closer => opener.1 :: (middle.map (·.1) ++ [closer.1])

/-- The lines are those of a sequence of parts. -/
def IsLaidOut (lines : List Text) : Prop := ∃ parts : List Part, lines = parts.flatMap Part.lines

theorem IsLaidOut.cons (part : Part) {lines : List Text} (h : IsLaidOut lines) : IsLaidOut (part.lines ++ lines) := by
  obtain ⟨parts, rfl⟩ := h
  exact ⟨part :: parts, rfl⟩

end Comment

namespace Rule

open Comment LineScan

variable {line : Text} {inside : Bool} {n : Nat}

/-! ## One line -/

theorem isLoneOpener_iff : isLoneOpener line ↔
    line.inkGlyphs.length = 2 ∨ (line.inkGlyphs.length = 3 ∧ line.includes "/**") := by
  simp [isLoneOpener, Text.length_inkGlyphs]

theorem commentStep_outside : commentStep false line = (inside, []) ↔
    (inside = false ∧ IsLevel line) ∨ (inside = true ∧ IsOpener line) := by
  rw [IsLevel, IsOpener, role, commentStep, Prod.mk.injEq]
  cases line.includes "/*" <;> cases line.includes "*/" <;> cases inside <;>
    simp [messagesWhere_eq_nil, isLoneOpener_iff]

theorem commentStep_inside : commentStep true line = (inside, []) ↔
    (inside = true ∧ IsMiddle line) ∨ (inside = false ∧ IsCloser line) := by
  rw [IsMiddle, IsLevel, IsCloser, role, commentStep, Prod.mk.injEq]
  cases line.includes "/*" <;> cases line.includes "*/" <;> cases inside <;>
    simp [messagesWhere_eq_nil, Text.length_inkGlyphs]

/-! ## Parts -/

theorem reads_middle (middle : List (Subtype IsMiddle)) (n : Nat) :
    commentScan.Reads true n (middle.map (·.1)) [] true := by
  induction middle generalizing n with
  | nil => exact .nil
  | cons line middle ih => exact .quiet (commentStep_inside.mpr (.inl ⟨rfl, line.2⟩)) (ih (n + 1))

/-- **A part is read without a message**, from outside comments to outside comments. -/
theorem reads_part (part : Part) (n : Nat) : commentScan.Reads false n part.lines [] false := by
  cases part with
  | level line => exact .quiet (commentStep_outside.mpr (.inl ⟨rfl, line.2⟩)) .nil
  | block opener middle closer =>
    have hopen : commentScan.step false opener.1 = (true, []) := commentStep_outside.mpr (.inr ⟨rfl, opener.2⟩)
    have hclose : commentScan.step true closer.1 = (false, []) := commentStep_inside.mpr (.inr ⟨rfl, closer.2⟩)
    exact .quiet hopen ((reads_middle middle (n + 1)).append (.quiet hclose .nil))

theorem reads_parts (parts : List Part) (n : Nat) :
    commentScan.Reads false n (parts.flatMap Part.lines) [] false := by
  induction parts generalizing n with
  | nil => exact .nil
  | cons part parts ih => exact (reads_part part n).append (ih _)

/-- **What is read without a message is a sequence of parts**; if a comment is open, its last lines come first. -/
theorem isLaidOut_of_silent : ∀ (lines : List Text) (n : Nat),
    (commentScan.runFrom false n lines = [] → IsLaidOut lines) ∧
      (commentScan.runFrom true n lines = [] → ∃ (middle : List (Subtype IsMiddle)) (closer : Subtype IsCloser)
        (rest : List Text), lines = middle.map (·.1) ++ closer.1 :: rest ∧ IsLaidOut rest)
  | [], n => ⟨fun _ => ⟨[], rfl⟩, fun h => by cases h⟩
  | line :: lines, n => by
    obtain ⟨houtside, hinside⟩ := isLaidOut_of_silent lines (n + 1)
    constructor
    · intro h
      obtain ⟨inside, hstep, hrest⟩ := runFrom_cons_eq_nil.mp h
      rcases commentStep_outside.mp hstep with ⟨rfl, hlevel⟩ | ⟨rfl, hopener⟩
      · exact (houtside hrest).cons (.level ⟨line, hlevel⟩)
      · obtain ⟨middle, closer, rest, rfl, hlaid⟩ := hinside hrest
        have hpart := hlaid.cons (.block ⟨line, hopener⟩ middle closer)
        rwa [Part.lines, List.cons_append, List.append_assoc, List.singleton_append] at hpart
    · intro h
      obtain ⟨inside, hstep, hrest⟩ := runFrom_cons_eq_nil.mp h
      rcases commentStep_inside.mp hstep with ⟨rfl, hmiddle⟩ | ⟨rfl, hcloser⟩
      · obtain ⟨middle, closer, rest, rfl, hlaid⟩ := hinside hrest
        exact ⟨⟨line, hmiddle⟩ :: middle, closer, rest, rfl, hlaid⟩
      · exact ⟨[], ⟨line, hcloser⟩, lines, rfl, houtside hrest⟩

/-- **The rule is silent on a file exactly if the file is laid out**: it is a sequence of lines that hold both delimiters
of block comments or none, and of comments with the delimiters on lines of their own and two stars at the front of each
line between. -/
theorem multiLinesComment_silent_iff (name : Text) (lines : List Text) :
    multiLinesComment.verify ⟨name, lines⟩ = [] ↔ IsLaidOut lines := by
  have hverify : multiLinesComment.verify ⟨name, lines⟩ = [] ↔ commentScan.runFrom false 1 lines = [] :=
    List.map_eq_nil_iff
  rw [hverify]
  constructor
  · exact (isLaidOut_of_silent lines 1).1
  · rintro ⟨parts, rfl⟩
    have hreads := reads_parts parts 1 []
    rwa [List.append_nil] at hreads

/-- A comment whose first delimiter has a second star and whose last one is indented, before a line that holds both; and a
comment with text behind its first delimiter. -/
theorem multiLinesComment_silent_on_block :
    multiLinesComment.verify ⟨"a.c", ["/**", " ** text", "  */", "int x; /* y */"]⟩ = [] ∧
      ¬IsLaidOut ["/* text", "*/"] := by
  constructor
  · refine (multiLinesComment_silent_iff _ _).mpr ⟨[.block ⟨"/**", ?_⟩ [⟨" ** text", ?_⟩] ⟨"  */", ?_⟩,
      .level ⟨"int x; /* y */", ?_⟩], rfl⟩
    all_goals decide +kernel
  · rw [← multiLinesComment_silent_iff "a.c"]
    decide +kernel

end Rule

end HouseStyle
