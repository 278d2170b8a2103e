import HouseStyle.Linter
import HouseStyle.Proofs.Source.Lines
import HouseStyle.Rule.Statement

/-!
# Line terminators

A line may end in a newline or in a carriage return and a newline, and the last line may end in neither. Both ways of
ending a line leave the lines of the file as they are:

* putting carriage returns in front of some of the newlines (`splitLines_withReturns`);
* ending a last line that has no terminator (`splitLines_ended`).

Rules and directives see a file through its lines only, so **its diagnostics do not depend on its terminators**
(`lintFile_terminators`).
-/

namespace HouseStyle

/-- The text with a carriage return put in front of those newlines that `returns` chooses, where the newlines of the
text are counted from `n`. -/
def Text.withReturns (returns : Nat → Bool) : (n : Nat) → Text → Text
  | _, [] => []
  | n, b :: rest =>
    if b = byte '\n' then
      (if returns n then [byte '\r', byte '\n'] else [byte '\n']) ++ withReturns returns (n + 1) rest
    else b :: withReturns returns n rest

variable {content p : Text} {returns : Nat → Bool} {n : Nat}

/-- What stands before the first newline stays. -/
theorem Text.withReturns_append (h : byte '\n' ∉ p) (t : Text) :
    withReturns returns n (p ++ t) = p ++ withReturns returns n t := by
  induction p with
  | nil => rfl
  | cons b p ih =>
    rw [List.mem_cons, not_or] at h
    rw [List.cons_append, withReturns, if_neg (Ne.symm h.1), ih h.2, List.cons_append]

/-- A line that ends in a newline. -/
theorem splitLines_newline (hn : Text.byte '\n' ∉ p) (hr : Text.byte '\r' ∉ p) (t : Text) :
    splitLines (p ++ Text.byte '\n' :: t) = p :: splitLines t := by
  rw [splitLines_line hn, trimSuffix_of_not_mem hr]

/-- A line that ends in a carriage return and a newline. -/
theorem splitLines_return (hn : Text.byte '\n' ∉ p) (t : Text) :
    splitLines (p ++ Text.byte '\r' :: Text.byte '\n' :: t) = p :: splitLines t := by
  have hn' : Text.byte '\n' ∉ p ++ Text.ofString "\r" := by
    rw [List.mem_append, not_or]
    exact ⟨hn, by decide⟩
  have hreturn : p ++ Text.byte '\r' :: Text.byte '\n' :: t = p ++ Text.ofString "\r" ++ Text.byte '\n' :: t := by
    rw [List.append_assoc]
    rfl
  rw [hreturn, splitLines_line hn', Text.trimSuffix_append]

/-- The first line is the same with a carriage return before its newline and without. -/
theorem splitLines_withReturns_line (hn : Text.byte '\n' ∉ p) (hr : Text.byte '\r' ∉ p) (t e : Text) :
    splitLines (Text.withReturns returns n (p ++ Text.byte '\n' :: t) ++ e) =
      p :: splitLines (Text.withReturns returns (n + 1) t ++ e) := by
  rw [Text.withReturns_append hn, Text.withReturns, if_pos rfl, List.append_assoc]
  cases returns n with
  | false => exact splitLines_newline hn hr _
  | true => exact splitLines_return hn _

/-- **Carriage returns before newlines leave the lines of a file as they are**, whatever is appended to the file. -/
theorem splitLines_withReturns (h : Text.byte '\r' ∉ content) (e : Text) :
    splitLines (Text.withReturns returns n content ++ e) = splitLines (content ++ e) := by
  obtain ⟨front, last, hpieces⟩ :=
    (List.eq_nil_or_concat' (content.pieces '\n')).resolve_left (Text.pieces_ne_nil _ _)
  have hmem : ∀ q ∈ front ++ [last], Text.byte '\n' ∉ q := fun q hq => Text.not_mem_of_mem_pieces (hpieces ▸ hq)
  have hcontent := Text.eq_unlines hpieces
  clear hpieces
  induction front generalizing content n with
  | nil =>
    obtain rfl : content = last := hcontent
    have hlast : Text.withReturns returns n content = content := by
      have happend : Text.withReturns returns n (content ++ []) = content ++ [] :=
        Text.withReturns_append (hmem content (by simp)) []
      rwa [List.append_nil] at happend
    rw [hlast]
  | cons p front ih =>
    have hline : content = p ++ Text.byte '\n' :: (Text.unlines front ++ last) := by
      rw [hcontent]
      simp [Text.unlines]
    rw [hline, List.mem_append, List.mem_cons, not_or, not_or] at h
    have hrest := ih (n := n + 1) h.2.2 (fun q hq => hmem q (List.mem_cons_of_mem p hq)) rfl
    have hn : Text.byte '\n' ∉ p := hmem p (by simp)
    rw [hline, splitLines_withReturns_line hn h.1, hrest, List.append_assoc p, List.cons_append,
      splitLines_newline hn h.1]

/-- Ending a last line that has no terminator leaves the lines of a file as they are. -/
theorem splitLines_ended (hr : Text.byte '\r' ∉ content) (hne : content ≠ [])
    (hlast : content.getLast? ≠ some (Text.byte '\n')) {e : Text} (he : e ∈ [Text.ofString "\n", Text.ofString "\r\n"]) :
    splitLines (content ++ e) = splitLines content := by
  obtain ⟨front, last, hpieces⟩ :=
    (List.eq_nil_or_concat' (content.pieces '\n')).resolve_left (Text.pieces_ne_nil _ _)
  have hmem : ∀ q ∈ front ++ [last], Text.byte '\n' ∉ q := fun q hq => Text.not_mem_of_mem_pieces (hpieces ▸ hq)
  have hcontent := Text.eq_unlines hpieces
  have hnil : last ≠ [] := by
    rintro rfl
    rcases List.eq_nil_or_concat' front with rfl | ⟨qs, q, rfl⟩
    · exact hne hcontent
    · exact hlast (by rw [hcontent]; simp [Text.unlines])
  have hr' : Text.byte '\r' ∉ last := fun h => hr (hcontent ▸ List.mem_append_right _ h)
  have hfront : ∀ q ∈ front, Text.byte '\n' ∉ q := fun q hq => hmem q (by simp [hq])
  have hone : splitLines (last ++ e) = [last] := by
    rcases List.mem_pair.mp he with rfl | rfl
    · exact splitLines_newline (hmem last (by simp)) hr' []
    · exact splitLines_return (hmem last (by simp)) []
  rw [splitLines_of_pieces hpieces, if_neg hnil, trimSuffix_of_not_mem hr', hcontent, List.append_assoc,
    splitLines_unlines hfront, hone]

/-- **The diagnostics of a file do not depend on its terminators.** Whatever the rules, the file and its content without
carriage returns, the diagnostics stay the same if any of its newlines become a carriage return and a newline; and if
the last line has no terminator, also if it is given one of either kind. -/
theorem lintFile_terminators (rules : List Rule) (name content : Text) (returns : Nat → Bool)
    (hcontent : Text.byte '\r' ∉ content) :
    lintFile rules name (content.withReturns returns 0) = lintFile rules name content ∧
      (content ≠ [] → content.getLast? ≠ some (Text.byte '\n') →
        ∀ e ∈ [Text.ofString "\n", Text.ofString "\r\n"],
          lintFile rules name (content.withReturns returns 0 ++ e) = lintFile rules name content) := by
  have hlines : ∀ {content' : Text}, splitLines content' = splitLines content →
      lintFile rules name content' = lintFile rules name content := by
    intro content' h
    rw [lintFile, lintFile, Source.ofContent, Source.ofContent, h]
  refine ⟨hlines ?_, fun hne hlast e he => hlines ?_⟩
  · simpa using splitLines_withReturns hcontent []
  · rw [splitLines_withReturns hcontent, splitLines_ended hcontent hne hlast he]

/-- A file of four lines, the second of them empty and the third with a directive, has the same diagnostics with carriage
returns at the first and the third line and with the last line ended. -/
theorem lintFile_terminators_mixed :
    let content : Text := "goto a;\n\ngoto b; // nolint\ngoto c;"
    Text.byte '\r' ∉ content ∧ content ≠ [] ∧ content.getLast? ≠ some (Text.byte '\n') ∧
      (lintFile [Rule.goto] "a.c" "goto a;\r\n\ngoto b; // nolint\r\ngoto c;\r\n").map (·.pos.line) = [1, 4] := by
  intro content
  have hr : Text.byte '\r' ∉ content := by decide +kernel
  have hne : content ≠ [] := by decide +kernel
  have hlast : content.getLast? ≠ some (Text.byte '\n') := by decide +kernel
  have hmixed : Text.ofString "goto a;\r\n\ngoto b; // nolint\r\ngoto c;\r\n" =
      content.withReturns (· != 1) 0 ++ Text.ofString "\r\n" := by decide +kernel
  refine ⟨hr, hne, hlast, ?_⟩
  rw [hmixed, (lintFile_terminators [Rule.goto] "a.c" content (· != 1) hr).2 hne hlast _ (by simp), lintFile,
    Diagnostic.sort, List.mergeSort_of_pairwise (by decide +kernel)]
  decide +kernel

end HouseStyle
