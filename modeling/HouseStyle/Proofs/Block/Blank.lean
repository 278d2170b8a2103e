import HouseStyle.Proofs.Block.Folding
import HouseStyle.Proofs.Block.Program

/-!
# A blank line at the end of a file

A blank last line can be the line under a control keyword, and so it may enter the shape of the line before it. All the
same, nothing but the verdict on the blank line itself depends on it: without it the machine gives the same verdicts on
the other lines (`trace_append_blank`) and has the same blocks open at the end (`openBlocks_append_blank`). Hence
**the blank line adds one expected width and no report about braces** (`fileWidths_append_blank`,
`unexpectedReports_append_blank`, `missing_append_blank`).
-/

namespace HouseStyle

variable {blank line : Text} {lines : List Text}

namespace Shape

/-- Before a blank line and before the end of the file, a line differs only in what it governs. -/
theorem ofLine_blank (hb : blank.isBlank) (line : Text) :
    ofLine line (some blank) = { ofLine line none with governs := (Line.controlKeyword? line).isSome } := by
  have hbrace : blank.trimLeft.startsWith "\x7b" = false := by
    rw [Text.isBlank_iff.mp hb]
    rfl
  have hbreak : Line.beginsWith blank "break" = false := by
    by_contra h
    have hlead := Line.lead_of_beginsWith (b := Text.byte 'b') rfl (by simpa using h)
    rw [Line.lead_of_isBlank hb] at hlead
    cases hlead
  simp [ofLine, Line.governedBy?, Line.endsCase, hbrace, hbreak]

end Shape

namespace Block

open Shape (ofLines ofLine)

variable {stack : List Frame} {s s' : Shape}

/-! ## One line -/

/-- The verdict on a line depends on whether the line closes a block or is a label. -/
theorem judge_congr (hc : s.closes = s'.closes) (hl : s.labels = s'.labels) (stack : List Frame) :
    judge stack s = judge stack s' := by
  have hpasses (f : Frame) : f.passes s = f.passes s' := by simp only [Frame.passes, hc, hl]
  have hsettle : settle stack s = settle stack s' := by simp only [settle, hpasses]
  rw [judge, judge, hsettle]
  split
  · rfl
  · simp only [Frame.judge, hc]

theorem openBlocks_of_other (ho : s.opens = false) (hc : s.closes = false) :
    openBlocks (advance stack s) = openBlocks stack := by
  rw [openBlocks_eq, advance_of_other ho hc, ← openBlocks_eq]

/-- What a line governs does not matter to the blocks that are open. -/
theorem openBlocks_before_blank (hb : blank.isBlank) (line : Text) (stack : List Frame) :
    openBlocks (advance stack (ofLine line (some blank))) = openBlocks (advance stack (ofLine line none)) := by
  have heq := Shape.ofLine_blank hb line
  cases hg : (Line.controlKeyword? line).isSome with
  | false =>
    rw [hg] at heq
    rw [heq]
    rfl
  | true =>
    -- A control line is no brace, so both shapes leave the blocks as they are.
    have hgoverns : (ofLine line (some blank)).governs := by rw [heq, hg]
    obtain ⟨ho, hc, _⟩ := (Shape.ofLine_exclusive line (some blank)).of_governs hgoverns
    rw [openBlocks_of_other ho hc, openBlocks_of_other (s := ofLine line none) ho hc]

theorem unexpected_of_blank (hb : blank.isBlank) (stack : List Frame) :
    (judge stack (ofLine blank none)).unexpected = false := by
  obtain ⟨⟨_, hc, _, _⟩, _⟩ := Shape.of_blank hb none
  rw [judge]
  split
  · rfl
  · simp [Frame.judge, hc]

/-! ## All lines -/

/-- The blank line gets a verdict of its own, and the others keep theirs. -/
theorem trace_append_blank (hb : blank.isBlank) : ∀ (lines : List Text) (stack : List Frame),
    ∃ v : Verdict, v.unexpected = false ∧ trace stack (ofLines (lines ++ [blank])) = trace stack (ofLines lines) ++ [v]
  | [], stack => ⟨_, unexpected_of_blank hb stack, rfl⟩
  | [line], stack => by
    refine ⟨_, unexpected_of_blank hb (advance stack (ofLine line (some blank))), ?_⟩
    have hjudge : judge stack (ofLine line (some blank)) = judge stack (ofLine line none) := by
      rw [Shape.ofLine_blank hb]
      exact judge_congr rfl rfl stack
    simp only [List.cons_append, List.nil_append, ofLines, List.head?_cons, List.head?_nil, trace, hjudge]
  | line :: next :: rest, stack => by
    obtain ⟨v, hv, htrace⟩ := trace_append_blank hb (next :: rest) (advance stack (ofLine line (some next)))
    refine ⟨v, hv, ?_⟩
    rw [List.cons_append, ofLines, trace, List.cons_append, List.head?_cons, ← List.cons_append, htrace]
    rfl

theorem openBlocks_append_blank (hb : blank.isBlank) : ∀ (lines : List Text) (stack : List Frame),
    openBlocks ((ofLines (lines ++ [blank])).foldl advance stack) = openBlocks ((ofLines lines).foldl advance stack)
  | [], stack => by
    obtain ⟨⟨ho, hc, _, _⟩, _⟩ := Shape.of_blank hb none
    exact openBlocks_of_other ho hc
  | [line], stack => by
    obtain ⟨⟨ho, hc, _, _⟩, _⟩ := Shape.of_blank hb none
    have hlast : openBlocks (advance (advance stack (ofLine line (some blank))) (ofLine blank none)) =
        openBlocks (advance stack (ofLine line (some blank))) := openBlocks_of_other ho hc
    exact hlast.trans (openBlocks_before_blank hb line stack)
  | line :: next :: rest, stack =>
    openBlocks_append_blank hb (next :: rest) (advance stack (ofLine line (some next)))

theorem scan_append_blank (hb : blank.isBlank) (lines : List Text) :
    (∃ v : Verdict, v.unexpected = false ∧
      (scan (ofLines (lines ++ [blank]))).verdicts = (scan (ofLines lines)).verdicts ++ [v]) ∧
    (scan (ofLines (lines ++ [blank]))).unclosed = (scan (ofLines lines)).unclosed := by
  have hex (ls : List Text) : ∀ s ∈ ofLines ls, s.Exclusive := fun s hs => Shape.mem_ofLines_exclusive hs
  rw [scan_verdicts (hex _), scan_verdicts (hex _), scan_unclosed (hex _), scan_unclosed (hex _)]
  exact ⟨trace_append_blank hb lines _, openBlocks_append_blank hb lines _⟩

end Block

/-! ## Reports -/

namespace Rule

open Block

variable {unit : Int} {name : Text}

theorem braceFindings_append {v : Verdict} (hv : v.unexpected = false) : ∀ (n : Nat) (verdicts : List Verdict),
    braceFindings n (verdicts ++ [v]) = braceFindings n verdicts
  | _, [] => by simp [braceFindings, hv]
  | n, u :: verdicts => by
    rw [List.cons_append, braceFindings, braceFindings, braceFindings_append hv (n + 1) verdicts]

theorem fileWidths_append_blank (hb : blank.isBlank) : fileWidths unit lines <+: fileWidths unit (lines ++ [blank]) := by
  obtain ⟨⟨v, _, hverdicts⟩, _⟩ := scan_append_blank hb lines
  rw [fileWidths, fileWidths, hverdicts, expectedWidths, expectedWidths, List.map_append]
  exact List.prefix_append _ _

theorem unexpectedReports_append_blank (hb : blank.isBlank) :
    unexpectedReports (reports unit name (lines ++ [blank])) = unexpectedReports (reports unit name lines) := by
  obtain ⟨⟨v, hv, hverdicts⟩, _⟩ := scan_append_blank hb lines
  rw [unexpectedReports_reports, hverdicts, braceFindings_append hv, ← unexpectedReports_reports]

theorem missing_append_blank (hb : blank.isBlank) :
    missing (reports unit name (lines ++ [blank])) = missing (reports unit name lines) := by
  rw [missing_reports_eq, (scan_append_blank hb lines).2, ← missing_reports_eq]

end Rule

end HouseStyle
