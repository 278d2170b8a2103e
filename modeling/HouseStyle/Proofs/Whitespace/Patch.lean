import HouseStyle.Patch
import HouseStyle.Proofs.Text.Digits
import HouseStyle.Proofs.Whitespace.Clean

/-!
# Patches can be read and applied

The printed difference of two contents is a list of hunks. A hunk names a line by its number and holds the line before
and after.

* For contents with equally many lines, what is printed is one hunk for each line that differs, in the order of the
  lines (`hunks_eq`, `mem_changes`).
* **A reader gets back the path and the hunks** from the printed text (`read?_unlines`), whatever the lines look like,
  since each hunk takes three lines.
* **Applying the hunks to the one content gives the other** (`foldl_apply_changes`).

Fixing white space keeps the number of lines, so its patch is faithful (`render_fix_faithful`).
-/

namespace HouseStyle.Patch

/-- A changed line: its number, the line before and the line after the change. -/
@[ext] structure Hunk where
  line : Nat
  before : Text
  after : Text
  deriving DecidableEq

variable {n : Nat} {as bs ts : List Text} {h : Hunk} {hs : List Hunk} {path : Text}

/-! ## Printing -/

/-- The line that names the place of a hunk. -/
def place (n : Nat) : Text := "@@ -" ++ Text.ofNat n ++ " +" ++ Text.ofNat n ++ " @@"

/-- The three lines of a hunk. -/
def Hunk.lines (h : Hunk) : List Text := [place h.line, "-" ++ h.before, "+" ++ h.after]

/-- The two lines above the hunks. -/
def header (path : Text) : List Text := ["--- " ++ path, "+++ " ++ path]

/-- The lines that differ in two lists of lines that begin at line number `n`. -/
def changes : (n : Nat) → List Text → List Text → List Hunk
  | n, a :: as, b :: bs => if a = b then changes (n + 1) as bs else ⟨n, a, b⟩ :: changes (n + 1) as bs
  | _, _, _ => []

theorem unlines_append (ts us : List Text) : Text.unlines (ts ++ us) = Text.unlines ts ++ Text.unlines us :=
  List.flatMap_append

/-- Between contents with equally many lines, one hunk is printed for each change. -/
theorem hunks_eq (hlen : as.length = bs.length) :
    hunks n as bs = Text.unlines ((changes n as bs).flatMap Hunk.lines) := by
  induction as generalizing n bs with
  | nil => cases bs <;> rfl
  | cons a as ih =>
    cases bs with
    | nil => cases hlen
    | cons b bs =>
      rw [List.length_cons, List.length_cons, Nat.succ_inj] at hlen
      rw [hunks, changes]
      by_cases hab : a = b
      · rw [if_pos hab, if_pos hab, ih hlen]
      · have hnewline : Text.ofString "\n" = [Text.byte '\n'] := rfl
        have hplace : Text.ofString " @@\n" = Text.ofString " @@" ++ [Text.byte '\n'] := rfl
        rw [if_neg hab, if_neg hab, ih hlen, List.flatMap_cons, unlines_append]
        simp [Text.unlines, Hunk.lines, place, hnewline, hplace]

/-- **The changes are the lines in which the two lists differ.** -/
theorem mem_changes (h : Hunk) : ∀ {n : Nat} {as bs : List Text}, h ∈ changes n as bs ↔
    ∃ i, h.line = n + i ∧ as[i]? = some h.before ∧ bs[i]? = some h.after ∧ h.before ≠ h.after
  | n, [], bs => by simp [changes]
  | n, a :: as, [] => by simp [changes]
  | n, a :: as, b :: bs => by
    have hsplit : (∃ i, h.line = n + i ∧ (a :: as)[i]? = some h.before ∧ (b :: bs)[i]? = some h.after ∧
          h.before ≠ h.after) ↔
        (h.line = n ∧ a = h.before ∧ b = h.after ∧ h.before ≠ h.after) ∨ h ∈ changes (n + 1) as bs := by
      rw [mem_changes h]
      constructor
      · rintro ⟨_ | i, hline, hbefore, hafter, hne⟩
        · exact .inl ⟨hline, Option.some.inj hbefore, Option.some.inj hafter, hne⟩
        · exact .inr ⟨i, by omega, hbefore, hafter, hne⟩
      · rintro (⟨hline, rfl, rfl, hne⟩ | ⟨i, hline, hbefore, hafter, hne⟩)
        · exact ⟨0, hline, rfl, rfl, hne⟩
        · exact ⟨i + 1, by omega, hbefore, hafter, hne⟩
    rw [hsplit, changes]
    by_cases hab : a = b
    · rw [if_pos hab]
      constructor
      · exact .inr
      · rintro (⟨-, rfl, rfl, hne⟩ | hmem)
        · exact absurd hab hne
        · exact hmem
    · rw [if_neg hab, List.mem_cons, Hunk.ext_iff]
      refine or_congr_left ⟨?_, ?_⟩
      · rintro ⟨hline, hbefore, hafter⟩
        exact ⟨hline, hbefore.symm, hafter.symm, by rwa [hbefore, hafter]⟩
      · rintro ⟨hline, hbefore, hafter, -⟩
        exact ⟨hline, hbefore.symm, hafter.symm⟩

/-- The changes of whole contents, whose lines are numbered from one. -/
theorem mem_changes_one : h ∈ changes 1 as bs ↔ 1 ≤ h.line ∧ as[h.line - 1]? = some h.before ∧
    bs[h.line - 1]? = some h.after ∧ h.before ≠ h.after := by
  rw [mem_changes]
  constructor
  · rintro ⟨i, hline, hi⟩
    obtain rfl : i = h.line - 1 := by omega
    exact ⟨by omega, hi⟩
  · rintro ⟨hline, hi⟩
    exact ⟨h.line - 1, by omega, hi⟩

/-- The changes stand in the order of their lines. -/
theorem pairwise_changes : ∀ (n : Nat) (as bs : List Text), (changes n as bs).Pairwise (·.line < ·.line)
  | n, [], bs => by simp [changes]
  | n, a :: as, [] => by simp [changes]
  | n, a :: as, b :: bs => by
    rw [changes]
    split
    · exact pairwise_changes (n + 1) as bs
    · refine List.pairwise_cons.mpr ⟨fun h hh => ?_, pairwise_changes (n + 1) as bs⟩
      obtain ⟨i, hline, -⟩ := (mem_changes h).mp hh
      dsimp only
      omega

/-! ## Applying -/

/-- The lines with one changed. -/
def Hunk.apply (lines : List Text) (h : Hunk) : List Text := lines.set (h.line - 1) h.after

/-- The content with the lines of all hunks changed. -/
def apply (hs : List Hunk) (content : Text) : Text :=
  Text.join [Text.byte '\n'] (hs.foldl Hunk.apply (content.pieces '\n'))

/-- **Applying the changes turns the one list of lines into the other**, whatever stands before. -/
theorem foldl_apply_changes (before : List Text) : ∀ {as bs : List Text}, as.length = bs.length →
    (changes (before.length + 1) as bs).foldl Hunk.apply (before ++ as) = before ++ bs
  | [], [], _ => rfl
  | a :: as, b :: bs, hlen => by
    rw [List.length_cons, List.length_cons, Nat.succ_inj] at hlen
    have ih := foldl_apply_changes (before ++ [b]) hlen
    rw [List.length_append, List.length_singleton, List.append_assoc, List.append_assoc] at ih
    rw [changes]
    by_cases hab : a = b
    · rw [if_pos hab, hab]
      exact ih
    · have hstep : Hunk.apply (before ++ a :: as) ⟨before.length + 1, a, b⟩ = before ++ b :: as := by
        simp [Hunk.apply, List.set_append_right]
      rw [if_neg hab, List.foldl_cons, hstep]
      exact ih

/-! ## Reading -/

/-- The line number in the first line of a hunk. -/
def readPlace? (line : Text) : Option Nat := do
  let t ← line.afterPrefix? "@@ -"
  let digits := t.takeWhile Text.isDigit
  if line = place (Text.digitsValue digits) then return Text.digitsValue digits else none

/-- Reads hunks of three lines each, up to the end of the patch. -/
def readHunks? : List Text → Option (List Hunk)
  | [last] => if last.isEmpty then some [] else none
  | first :: second :: third :: rest => do
    let line ← readPlace? first
    let before ← second.afterPrefix? "-"
    let after ← third.afterPrefix? "+"
    return ⟨line, before, after⟩ :: (← readHunks? rest)
  | _ => none

/-- Reads a patch: the path that both lines of its header name, and its hunks. -/
def read? (patch : Text) : Option (Text × List Hunk) :=
  match patch.pieces '\n' with
  | first :: second :: rest => do
    let path ← first.afterPrefix? "--- "
    if second = "+++ " ++ path then return (path, ← readHunks? rest) else none
  | _ => none

theorem readPlace?_place (n : Nat) : readPlace? (place n) = some n := by
  have hspan : (Text.ofNat n ++ (Text.ofString " +" ++ (Text.ofNat n ++ Text.ofString " @@"))).span Text.isDigit = _ :=
    Text.span_append (fun _ => Text.isDigit_of_mem_ofNat) rfl
  rw [List.span_eq_takeWhile_dropWhile, Prod.mk.injEq] at hspan
  have hfront : (place n).afterPrefix? "@@ -" =
      some (Text.ofNat n ++ (Text.ofString " +" ++ (Text.ofNat n ++ Text.ofString " @@"))) := by
    rw [Text.afterPrefix?_eq_some, place]
    simp
  simp [readPlace?, hfront, hspan.1, Text.digitsValue_ofNat]

theorem readHunks?_lines : ∀ hs : List Hunk, readHunks? (hs.flatMap Hunk.lines ++ [[]]) = some hs
  | [] => rfl
  | h :: hs => by
    have ih := readHunks?_lines hs
    have hbefore : ("-" ++ h.before).afterPrefix? "-" = some h.before := Text.afterPrefix?_eq_some.mpr rfl
    have hafter : ("+" ++ h.after).afterPrefix? "+" = some h.after := Text.afterPrefix?_eq_some.mpr rfl
    rw [List.flatMap_cons, Hunk.lines, List.append_assoc]
    simp only [List.cons_append, List.nil_append, readHunks?, readPlace?_place, hbefore, hafter, ih]
    rfl

theorem newline_not_mem_place (n : Nat) : Text.byte '\n' ∉ place n := by
  have hdigits : Text.byte '\n' ∉ Text.ofNat n := fun h => absurd (Text.isDigit_of_mem_ofNat h) (by decide)
  have hwords : Text.byte '\n' ∉ Text.ofString "@@ -" ∧ Text.byte '\n' ∉ Text.ofString " +" ∧
      Text.byte '\n' ∉ Text.ofString " @@" := by decide
  simp [place, hdigits, hwords]

theorem newline_not_mem_lines (hbefore : Text.byte '\n' ∉ h.before) (hafter : Text.byte '\n' ∉ h.after) :
    ∀ t ∈ h.lines, Text.byte '\n' ∉ t := by
  have hsigns : Text.byte '\n' ∉ Text.ofString "-" ∧ Text.byte '\n' ∉ Text.ofString "+" := by decide
  simp [Hunk.lines, newline_not_mem_place, hsigns, hbefore, hafter]

/-- **A printed patch is read back**, if no line in it holds a newline. -/
theorem read?_unlines (hpath : Text.byte '\n' ∉ path)
    (hhs : ∀ h ∈ hs, Text.byte '\n' ∉ h.before ∧ Text.byte '\n' ∉ h.after) :
    read? (Text.unlines (header path ++ hs.flatMap Hunk.lines)) = some (path, hs) := by
  have hlines : ∀ t ∈ header path ++ hs.flatMap Hunk.lines, Text.byte '\n' ∉ t := by
    intro t ht
    rcases List.mem_append.mp ht with ht | ht
    · have hwords : Text.byte '\n' ∉ Text.ofString "--- " ∧ Text.byte '\n' ∉ Text.ofString "+++ " := by decide
      simp only [header, List.mem_cons, List.not_mem_nil, or_false] at ht
      rcases ht with rfl | rfl <;> simp [hwords, hpath]
    · obtain ⟨h, hh, ht⟩ := List.mem_flatMap.mp ht
      exact newline_not_mem_lines (hhs h hh).1 (hhs h hh).2 t ht
  have hpieces := Text.pieces_unlines hlines (p := []) List.not_mem_nil
  have hfirst : ("--- " ++ path).afterPrefix? "--- " = some path := Text.afterPrefix?_eq_some.mpr rfl
  rw [List.append_nil, header, List.append_assoc] at hpieces
  rw [read?, header, hpieces]
  simp only [List.cons_append, List.nil_append, hfirst, readHunks?_lines, Option.bind_eq_bind, Option.bind_some,
    ↓reduceIte]
  rfl

/-! ## The patch of a fixed file -/

theorem render_eq {before after : Text} (hlen : (before.pieces '\n').length = (after.pieces '\n').length) :
    render path before after = Text.unlines
      (header path ++ (changes 1 (before.pieces '\n') (after.pieces '\n')).flatMap Hunk.lines) := by
  have hnewline : Text.ofString "\n" = [Text.byte '\n'] := rfl
  rw [render, hunks_eq hlen, unlines_append]
  simp [Text.unlines, header, hnewline]

/-- **The printed patch of a fixed file is faithful.** It is a header and hunks of three lines with rising line numbers,
and a reader gets back the path and the hunks. There is a hunk for each line that differs and for no other, with the
line before and after, and applying the hunks to the content gives the fixed content. -/
theorem render_fix_faithful (path content : Text) (tabWidth : Int) (hpath : Text.byte '\n' ∉ path) :
    let fixed := Whitespace.fix content tabWidth
    ∃ hs : List Hunk,
      render path content fixed = Text.unlines (header path ++ hs.flatMap Hunk.lines) ∧
      read? (render path content fixed) = some (path, hs) ∧
      hs.Pairwise (·.line < ·.line) ∧
      (∀ h, h ∈ hs ↔ 1 ≤ h.line ∧ (content.pieces '\n')[h.line - 1]? = some h.before ∧
        (fixed.pieces '\n')[h.line - 1]? = some h.after ∧ h.before ≠ h.after) ∧
      apply hs content = fixed := by
  intro fixed
  have hlen : (content.pieces '\n').length = (fixed.pieces '\n').length := by
    rw [Whitespace.pieces_fix, List.length_map]
  have hrender : render path content fixed = _ := render_eq hlen
  refine ⟨_, hrender, ?_, pairwise_changes 1 _ _, fun h => mem_changes_one, ?_⟩
  · rw [hrender]
    refine read?_unlines hpath fun h hh => ?_
    obtain ⟨-, hbefore, hafter, -⟩ := mem_changes_one.mp hh
    exact ⟨Text.not_mem_of_mem_pieces (List.mem_of_getElem? hbefore),
      Text.not_mem_of_mem_pieces (List.mem_of_getElem? hafter)⟩
  · have happly := foldl_apply_changes [] hlen
    rw [List.length_nil, List.nil_append, List.nil_append] at happly
    rw [apply, happly, Text.join_pieces]

/-- A file whose lines look like the lines of a patch, with a carriage return and without a newline at its end. -/
theorem render_fix_faithful_lookalike :
    let content := Text.ofString "@@ -1 +1 @@ \r\n+++ a.c\n-\ty"
    let hs : List Hunk := [⟨1, "@@ -1 +1 @@ \r", "@@ -1 +1 @@\r"⟩, ⟨3, "-\ty", "-   y"⟩]
    Text.byte '\n' ∉ Text.ofString "a.c" ∧
      read? (render "a.c" content (Whitespace.fix content 4)) = some (Text.ofString "a.c", hs) ∧
      apply hs content = Whitespace.fix content 4 := by
  intro content hs
  have hpath : Text.byte '\n' ∉ Text.ofString "a.c" := by decide
  obtain ⟨hs', -, hread, -, -, happly⟩ := render_fix_faithful "a.c" content 4 hpath
  have hread' : read? (render "a.c" content (Whitespace.fix content 4)) = some (Text.ofString "a.c", hs) := by
    decide +kernel
  obtain rfl : hs' = hs := by
    rw [hread'] at hread
    exact (Prod.mk.inj (Option.some.inj hread)).2.symm
  exact ⟨hpath, hread', happly⟩

end HouseStyle.Patch
