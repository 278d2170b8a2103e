import HouseStyle.Proofs.Block.Blank
import HouseStyle.Proofs.Source.Alike
import HouseStyle.Proofs.Whitespace.Ink

/-!
# Fixing keeps the block structure

* **A fixed line is alike** (`alike_fixLine`): expanding its tabs and trimming its end changes neither its ink nor its
  first word, up to the way in which stray bytes are written.
* The lines of a fixed file are those of the file, one by one, but for a blank last line without a terminator, of which
  nothing is left (`respaced_fix`).

Hence **the fixed file has the same blocks** (`fix_keeps_blocks`): the same widths are expected of its lines, and its
braces are reported as before.
-/

namespace HouseStyle

namespace Text

variable {gs : List Glyph}

/-- White space at the end is not part of a first word. -/
theorem front_rdropWhile (gs : List Glyph) : front (gs.rdropWhile (·.isBlank)) = front gs := by
  have hblank : (gs.rtakeWhile (·.isBlank)).takeWhile (!·.isBlank) = [] := by
    rw [List.takeWhile_eq_nil_iff]
    intro hl
    simpa using List.mem_rtakeWhile_imp (List.getElem_mem hl)
  have hsplit := List.rdropWhile_append_rtakeWhile (p := (·.isBlank)) (l := gs)
  rw [front, front]
  conv_rhs => rw [← hsplit, List.takeWhile_append, hblank, List.append_nil]
  split
  · next hall => rw [(List.takeWhile_prefix _).eq_of_length hall]
  · rfl

theorem firstWord_trimRight (t : Text) : t.trimRight.firstWord = t.firstWord := by
  rw [firstWord, trimLeft_trimRight, glyphs_trimRight, front_rdropWhile, firstWord]

end Text

namespace Whitespace

open Rule Block

variable {w : Nat} {t p content : Text}

/-! ## Fixing a line -/

/-- Expanding tabs keeps what stands before the first white space: there is a space for every tab. -/
theorem front_expandGlyphs (hw : 0 < w) : ∀ (col : Nat) (gs : List Glyph),
    Text.front (expandGlyphs w col gs) = Text.front gs
  | _, [] => rfl
  | col, g :: gs => by
    rw [expandGlyphs]
    split
    · next htab =>
      obtain ⟨n, hn⟩ : ∃ n, w - col % w = n + 1 := ⟨w - col % w - 1, by have := Nat.mod_lt col hw; omega⟩
      dsimp only
      rw [Text.front_blank (isBlank_of_tab htab), hn, List.replicate_succ, List.cons_append, Text.front_blank (by decide)]
    · cases hblank : g.isBlank with
      | true => rw [Text.front_blank hblank, Text.front_blank ((Glyph.isBlank_mended g).trans hblank)]
      | false =>
        rw [Text.front_ink hblank, Text.front_ink ((Glyph.isBlank_mended g).trans hblank), front_expandGlyphs hw]
        rfl

/-- Expanding tabs keeps where the white space at the front ends. -/
theorem dropWhile_expandGlyphs : ∀ (col : Nat) (gs : List Glyph), ∃ col',
    (expandGlyphs w col gs).dropWhile (·.isBlank) = expandGlyphs w col' (gs.dropWhile (·.isBlank))
  | col, [] => ⟨col, rfl⟩
  | col, g :: gs => by
    by_cases htab : g.code = 0x09
    · obtain ⟨col', hcol'⟩ := dropWhile_expandGlyphs (col + (w - col % w)) gs
      refine ⟨col', ?_⟩
      rw [expandGlyphs, if_pos htab, List.dropWhile_cons_of_pos (isBlank_of_tab htab), ← hcol',
        List.dropWhile_append_of_pos]
      intro g hg
      rw [List.eq_of_mem_replicate hg]
      decide
    · cases hblank : g.isBlank with
      | true =>
        obtain ⟨col', hcol'⟩ := dropWhile_expandGlyphs (col + 1) gs
        refine ⟨col', ?_⟩
        rw [expandGlyphs, if_neg htab, List.dropWhile_cons_of_pos ((Glyph.isBlank_mended g).trans hblank),
          List.dropWhile_cons_of_pos hblank, hcol']
      | false =>
        refine ⟨col, ?_⟩
        rw [List.dropWhile_cons_of_neg (by simp [hblank]), expandGlyphs, if_neg htab,
          List.dropWhile_cons_of_neg (by simp [Glyph.isBlank_mended, hblank])]

theorem firstWord_expandTabs (hw : 0 < w) (t : Text) : (expandTabs w t).firstWord = t.firstWord := by
  cases h : t.has '\t' with
  | true =>
    obtain ⟨col, hcol⟩ := dropWhile_expandGlyphs (w := w) 0 t.glyphs
    rw [Text.firstWord, Text.glyphs_trimLeft, glyphs_expandTabs h, hcol, front_expandGlyphs hw, ← Text.glyphs_trimLeft,
      ← Text.firstWord]
  | false => rw [expandTabs_eq_self h]

theorem inkCodes_expandTabs (t : Text) : (expandTabs w t).inkCodes = t.inkCodes := by
  rw [Text.inkCodes, inkGlyphs_expandTabs, Text.inkCodes]
  split
  · rw [List.map_map]
    rfl
  · rfl

theorem trimSuffix_fixLine (w : Nat) (p : Text) :
    (fixLine w p).trimSuffix "\r" = Text.trimRight (expandTabs w (p.trimSuffix "\r")) := by
  rcases Text.trimSuffix_cases p "\r" with hp | ⟨hend, hp⟩
  · conv_lhs => rw [hp, fixLine_cr, Text.trimSuffix_append]
  · have htidy : Tidy (Text.trimRight (expandTabs w p)) := tidy_trimRight_expandTabs
    rw [fixLine_of_not_endsWith hend, Text.trimSuffix_of_not_endsWith htidy.endsWith_cr, ← hp]

/-- **A fixed line is alike.** -/
theorem alike_fixLine (hw : 0 < w) (p : Text) :
    Line.Alike (p.trimSuffix "\r") ((fixLine w p).trimSuffix "\r") := by
  rw [trimSuffix_fixLine]
  refine ⟨?_, ?_⟩
  · rw [Text.inkCodes, Text.inkGlyphs_trimRight, ← Text.inkCodes, inkCodes_expandTabs]
  · rw [Text.firstWord_trimRight, firstWord_expandTabs hw]

/-- Nothing is left of a piece only if it is blank and has no carriage return. -/
theorem isBlank_of_fixLine (h : fixLine w p = []) : p.isBlank ∧ p.trimSuffix "\r" = p := by
  rcases Text.trimSuffix_cases p "\r" with hp | ⟨hend, hp⟩
  · rw [hp, fixLine_cr] at h
    exact absurd h (List.append_ne_nil_of_right_ne_nil _ (by decide))
  · refine ⟨?_, hp.symm⟩
    rw [fixLine_of_not_endsWith hend] at h
    rw [Text.isBlank_iff_inkCodes, ← inkCodes_expandTabs (w := w), Text.inkCodes, ← Text.inkGlyphs_trimRight, h]
    rfl

/-! ## Fixing a file -/

theorem widthOf_pos (tabWidth : Int) : 0 < widthOf tabWidth := by
  unfold widthOf
  split <;> omega

/-- The lines `fixed` are alike to `lines`, one by one, but for a blank last line that may be gone. -/
inductive Respaced : (lines fixed : List Text) → Prop where
  | all {lines fixed : List Text} (h : List.Forall₂ Line.Alike lines fixed) : Respaced lines fixed
  | butLast {kept fixed : List Text} {last : Text} (h : List.Forall₂ Line.Alike kept fixed) (hne : last ≠ [])
    (hblank : last.isBlank) : Respaced (kept ++ [last]) fixed

/-- **The lines of a fixed file** are those of the file, up to white space. -/
theorem respaced_fix (content : Text) (tabWidth : Int) :
    Respaced (splitLines content) (splitLines (fix content tabWidth)) := by
  have halike (ps : List Text) : List.Forall₂ Line.Alike (ps.map (·.trimSuffix "\r"))
      ((ps.map (fixLine (widthOf tabWidth))).map (·.trimSuffix "\r")) := by
    rw [List.map_map, List.forall₂_map_left_iff, List.forall₂_map_right_iff, List.forall₂_same]
    exact fun p _ => alike_fixLine (widthOf_pos tabWidth) p
  obtain ⟨front, last, hpieces⟩ :=
    (List.eq_nil_or_concat' (content.pieces '\n')).resolve_left (Text.pieces_ne_nil '\n' content)
  have hfixed := pieces_fix content tabWidth
  rw [hpieces, List.map_append, List.map_singleton] at hfixed
  rw [splitLines_eq, splitLines_eq, linePieces, linePieces, hpieces, hfixed]
  simp only [List.getLast?_concat, List.dropLast_concat, Option.some.injEq]
  by_cases hlast : last = []
  · -- The last piece is no line, neither before nor after.
    have hgone : fixLine (widthOf tabWidth) last = [] := by
      rw [hlast]
      rfl
    rw [if_pos hlast, if_pos hgone]
    exact .all (halike front)
  · by_cases hgone : fixLine (widthOf tabWidth) last = []
    · -- The last line is blank, and nothing is left of it.
      obtain ⟨hblank, hself⟩ := isBlank_of_fixLine hgone
      rw [if_neg hlast, if_pos hgone, List.map_append, List.map_singleton, hself]
      exact .butLast (halike front) hlast hblank
    · rw [if_neg hlast, if_neg hgone, ← List.map_singleton (f := fixLine (widthOf tabWidth)), ← List.map_append]
      exact .all (halike (front ++ [last]))

/-! ## Reports about a fixed file -/

variable {unit : Int} {name : Text} {lines fixed : List Text}

/-- Widths that are expected of no line do not matter. -/
theorem widthFindings_append (more : List Int) : ∀ (n : Nat) {lines : List Text} {widths : List Int},
    widths.length = lines.length → widthFindings n lines (widths ++ more) = widthFindings n lines widths
  | _, [], _, _ => by simp [widthFindings]
  | n, line :: lines, width :: widths, h => by
    rw [List.cons_append, widthFindings, widthFindings, widthFindings_append more (n + 1) (Nat.succ.inj h)]

/-- The report about missing closing braces stands after the last line. -/
theorem line_of_missing {d : Diagnostic} (hd : d ∈ reports unit name lines) (hm : (missingIn? d.message).isSome) :
    d.pos.line = lines.length + 1 := by
  obtain ⟨f, hf, rfl⟩ := List.mem_map.mp hd
  rw [run_indentationLevel, List.mem_append] at hf
  rcases hf with hf | hf
  · have hnone : missingIn? ((indentationLevel unit).diagnose name f).message = none := missingIn?_indentFindings hf
    rw [hnone] at hm
    cases hm
  · unfold endFindings at hf
    split at hf
    · obtain rfl := List.mem_singleton.mp hf
      rfl
    · cases hf

/-- The line with index `i` is there and is not blank. -/
def isInked (lines : List Text) (i : Nat) : Bool := lines[i]?.any (!·.isBlank)

theorem isInked_alike (h : List.Forall₂ Line.Alike lines fixed) (i : Nat) : isInked fixed i = isInked lines i := by
  induction h generalizing i with
  | nil => rfl
  | cons hline _ ih =>
    cases i with
    | zero => exact congrArg (!·) hline.isBlank
    | succ i => exact ih i

theorem isInked_append {last : Text} (hblank : last.isBlank) (i : Nat) :
    isInked (lines ++ [last]) i = isInked lines i := by
  rw [isInked, isInked]
  rcases Nat.lt_trichotomy i lines.length with h | h | h
  · rw [List.getElem?_append_left h]
  · simp [h, hblank]
  · rw [List.getElem?_eq_none (by simp; omega), List.getElem?_eq_none (by omega)]

namespace Respaced

theorem length (h : Respaced lines fixed) : fixed.length = lines.length ∨
    fixed.length + 1 = lines.length ∧ ∃ last, lines.getLast? = some last ∧ last ≠ [] ∧ last.isBlank := by
  cases h with
  | all h => exact Or.inl h.length_eq.symm
  | butLast h hne hblank =>
    refine Or.inr ⟨?_, _, List.getLast?_concat, hne, hblank⟩
    rw [List.length_append, List.length_singleton, h.length_eq]

theorem isInked (h : Respaced lines fixed) (i : Nat) : isInked fixed i = isInked lines i := by
  cases h with
  | all h => exact isInked_alike h i
  | butLast h _ hblank => rw [isInked_append hblank, isInked_alike h]

theorem fileWidths (h : Respaced lines fixed) : fileWidths unit fixed <+: fileWidths unit lines := by
  cases h with
  | all h =>
    rw [Rule.fileWidths, Shape.ofLines_alike h]
    exact List.prefix_refl _
  | butLast h _ hblank =>
    rw [Rule.fileWidths, Shape.ofLines_alike h]
    exact fileWidths_append_blank hblank

theorem widthReports (h : Respaced lines fixed) : widthReports unit name fixed =
    (widthFindings 1 fixed (Rule.fileWidths unit lines)).map ((indentationLevel unit).diagnose name) := by
  obtain ⟨more, hmore⟩ : Rule.fileWidths unit fixed <+: Rule.fileWidths unit lines := h.fileWidths
  rw [widthReports_eq, ← hmore, widthFindings_append more 1 length_fileWidths]

theorem unexpectedReports (h : Respaced lines fixed) :
    unexpectedReports (reports unit name fixed) = unexpectedReports (reports unit name lines) := by
  cases h with
  | all h => rw [unexpectedReports_reports, Shape.ofLines_alike h, ← unexpectedReports_reports]
  | butLast h _ hblank =>
    rw [unexpectedReports_append_blank hblank, unexpectedReports_reports, Shape.ofLines_alike h,
      ← unexpectedReports_reports]

theorem missing (h : Respaced lines fixed) :
    missing (reports unit name fixed) = missing (reports unit name lines) := by
  cases h with
  | all h => rw [missing_reports_eq, Shape.ofLines_alike h, ← missing_reports_eq]
  | butLast h _ hblank =>
    rw [missing_append_blank hblank, missing_reports_eq, Shape.ofLines_alike h, ← missing_reports_eq]

end Respaced

/-- **Fixing keeps the block structure.** The fixed file has the same lines that are not blank, at the same places. The
widths expected of its lines are those expected in the file as it was, and its reports about widths compare with them.
The same closing braces are unexpected, on the same lines, and the same number is missing at the end, which is after the
last line; there may be one line less, if the last one was blank. -/
theorem fix_keeps_blocks (unit tabWidth : Int) (name content : Text) :
    let lines := splitLines content
    let fixed := splitLines (fix content tabWidth)
    (∀ i, isInked fixed i = isInked lines i) ∧
    fileWidths unit fixed <+: fileWidths unit lines ∧
    (∀ ls ∈ [lines, fixed], widthReports unit name ls =
      (widthFindings 1 ls (fileWidths unit lines)).map ((indentationLevel unit).diagnose name)) ∧
    unexpectedReports (reports unit name fixed) = unexpectedReports (reports unit name lines) ∧
    missing (reports unit name fixed) = missing (reports unit name lines) ∧
    (∀ ls ∈ [lines, fixed], ∀ d ∈ reports unit name ls, (missingIn? d.message).isSome → d.pos.line = ls.length + 1) ∧
    (fixed.length = lines.length ∨
      fixed.length + 1 = lines.length ∧ ∃ last, lines.getLast? = some last ∧ last ≠ [] ∧ last.isBlank) := by
  intro lines fixed
  have h : Respaced lines fixed := respaced_fix content tabWidth
  refine ⟨h.isInked, h.fileWidths, ?_, h.unexpectedReports, h.missing, ?_, h.length⟩
  · exact List.forall_mem_cons.mpr ⟨widthReports_eq, List.forall_mem_singleton.mpr h.widthReports⟩
  · intro ls _ d hd hm
    exact line_of_missing hd hm

/-- A brace that closes nothing, one that is not closed, and a control line whose body is a blank line: the blank line is
gone, and with it the report about the missing brace moves up by one. -/
theorem fix_keeps_blocks_of_open_file :
    let content : Text := Text.ofString "\x7d\t\n\t\x7b \r\nif\t(" ++ [0xE9] ++ Text.ofString "\t)\n \t"
    let lines := splitLines content
    let fixed := splitLines (fix content 4)
    let report := (indentationLevel 4).diagnose "a.c"
      ⟨4, "Expected 1 more closing brace", 0, [], .unset, []⟩
    lines.length = 4 ∧ fixed.length = 3 ∧ fileWidths 4 fixed <+: fileWidths 4 lines ∧
      (unexpectedReports (reports 4 "a.c" fixed)).map (·.pos.line) = [1] ∧ missing (reports 4 "a.c" fixed) = 1 ∧
      report ∈ reports 4 "a.c" fixed ∧ (missingIn? report.message).isSome ∧ report.pos.line = fixed.length + 1 := by
  intro content lines fixed report
  obtain ⟨_, hwidths, _, hunexpected, hmissing, hline, _⟩ := fix_keeps_blocks 4 4 "a.c" content
  have hreport : report ∈ reports 4 "a.c" fixed := by decide +kernel
  have hsome : (missingIn? report.message).isSome := by decide +kernel
  refine ⟨by decide +kernel, by decide +kernel, hwidths, ?_, ?_, hreport, hsome, ?_⟩
  · rw [hunexpected]
    decide +kernel
  · rw [hmissing]
    decide +kernel
  · exact hline fixed (by simp [fixed]) report hreport hsome

end Whitespace

end HouseStyle
