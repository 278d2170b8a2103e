import Mathlib.Data.List.Forall2
import HouseStyle.Proofs.Block.Indentation
import HouseStyle.Proofs.Block.Matching
import HouseStyle.Proofs.Text.Digits
import HouseStyle.Proofs.Text.Pieces
import HouseStyle.Server.Folding

/-!
# Folds and reports see the same braces

The folds of blocks and the reports about braces come from two scans that know nothing of each other. Both are plain
matching:

* **Folds** (`Fold.braces_eq`): a block folds up to each closing brace that plain matching pairs with an opening brace.
* **Reports** (`unexpectedReports_eq`, `missing_reports`): a closing brace is unexpected exactly if plain matching
  leaves it unpaired, and the closing braces that are missing at the end are those of the opening braces left unpaired.

Hence **every brace is accounted for once** (`folds_account_for_braces`): an opening brace by a fold or by the count at
the end of the file, a closing brace by a fold or by a report on its line.
-/

namespace HouseStyle

namespace Block

/-! ## Unpaired braces -/

variable {lines : List Text} {line : Text} {i : Nat}

/-- Line `i` is a closing brace that plain matching pairs with no opening brace. -/
def isUnpairedClosing (lines : List Text) (i : Nat) : Bool :=
  lines[i]?.any Line.isClosingBrace && (unpairedBefore lines i).isEmpty

theorem unpairedBefore_succ (hi : lines[i]? = some line) :
    unpairedBefore lines (i + 1) = pairUp (unpairedBefore lines i) i line := by
  rw [unpairedBefore, hi]

theorem isClosingBrace_of_isOpeningBrace (h : Line.isOpeningBrace line) : Line.isClosingBrace line = false :=
  ((Shape.ofLine_exclusive line none).of_opens h).1

/-- The machine finds a closing brace unexpected exactly if the file is the only block that is open. -/
theorem judge_unexpected {stack : List Frame} {s : Shape} {ds : List Nat} (hd : blockDepths stack = depthsOf ds) :
    (judge stack s).unexpected = (s.closes && ds.isEmpty) := by
  cases hc : s.closes with
  | false =>
    rw [judge]
    split
    · rfl
    · simp [Frame.judge, hc]
  | true =>
    have hstop : (s.closes || s.labels) = true := by simp [hc]
    cases ds with
    | nil =>
      obtain ⟨outer, hset, _⟩ := settle_structural hstop hd
      rw [judge, hset]
      simp [Frame.judge, hc]
    | cons d ds =>
      obtain ⟨outer, hset, _⟩ := settle_structural hstop hd
      rw [judge, hset]
      simp [Frame.judge, hc]

/-- The scan reports a line as an unexpected closing brace exactly if plain matching leaves it unpaired. -/
theorem unexpected_verdict (hi : i < lines.length) :
    (scan (Shape.ofLines lines)).verdicts[i]?.any (·.unexpected) = isUnpairedClosing lines i := by
  have hline : lines[i]? = some lines[i] := List.getElem?_eq_getElem hi
  obtain ⟨ds, hlevels, hdepths⟩ := (matched lines i (Nat.le_of_lt hi)).depths
  have hempty : ds.isEmpty = (unpairedBefore lines i).isEmpty := by
    rw [Bool.eq_iff_iff, List.isEmpty_iff_length_eq_zero, List.isEmpty_iff_length_eq_zero, hlevels.length_eq]
  rw [scan_verdicts fun s hs => Shape.mem_ofLines_exclusive hs, trace_getElem?, ofLines_at hline]
  rw [Option.map_some, Option.any_some, ← framesBefore, judge_unexpected hdepths, hempty, isUnpairedClosing, hline]
  rfl

/-- Blocks that wait for their closing braces are the blocks on the stack but the file. -/
theorem openBlocks_eq (stack : List Frame) : openBlocks stack = (blockDepths stack).countP (0 < ·) := by
  rw [openBlocks, blockDepths, List.countP_map, List.countP_filter]
  refine List.countP_congr ?_
  intro f _
  simp [and_comm]

/-- The closing braces that are missing at the end of a file are those of the opening braces left unpaired. -/
theorem unclosed_eq (lines : List Text) :
    (scan (Shape.ofLines lines)).unclosed = (unpairedBefore lines lines.length).length := by
  obtain ⟨ds, hlevels, hdepths⟩ := (matched lines lines.length (Nat.le_refl _)).depths
  have hall : (Shape.ofLines lines).take lines.length = Shape.ofLines lines := by
    rw [← Shape.length_ofLines, List.take_length]
  rw [scan_unclosed fun s hs => Shape.mem_ofLines_exclusive hs, ← hall, ← framesBefore, openBlocks_eq, hdepths,
    hlevels.length_eq]
  simp [depthsOf, List.countP_map, Function.comp_def]

end Block

/-! ## Folds are pairs -/

namespace Server.Fold

open Block

variable {lines : List Text} {line : Text} {i : Nat}

/-- The line before line `i`. -/
def lineBefore (lines : List Text) : (i : Nat) → Option Text
  | 0 => none
  | i + 1 => lines[i]?

/-- The fold of the block that the closing brace on line `i` ends, if plain matching pairs it with an opening brace. -/
def endingAt (lines : List Text) (i : Nat) : Option Fold :=
  if lines[i]?.any Line.isClosingBrace then
    (unpairedBefore lines i).head?.map fun j => ⟨blockStart j (lineBefore lines j), i, .region⟩
  else none

theorem bracesFrom_eq : ∀ (rest : List Text) (i : Nat), lines.drop i = rest →
    bracesFrom i (lineBefore lines i) ((unpairedBefore lines i).map fun j => blockStart j (lineBefore lines j)) rest =
      (List.range' i rest.length).filterMap (endingAt lines)
  | [], _, _ => rfl
  | line :: rest, i, hdrop => by
    have hi : lines[i]? = some line := by
      rw [← List.head?_drop, hdrop]
      rfl
    have hrest : lines.drop (i + 1) = rest := by
      rw [← List.tail_drop, hdrop]
      rfl
    have ih := bracesFrom_eq rest (i + 1) hrest
    rw [unpairedBefore_succ hi, pairUp, lineBefore, hi] at ih
    rw [List.length_cons, List.range'_succ, List.filterMap_cons, endingAt, hi, Option.any_some, bracesFrom.eq_def]
    dsimp only
    cases ho : Line.isOpeningBrace line with
    | true =>
      rw [ho, if_pos rfl] at ih
      rw [isClosingBrace_of_isOpeningBrace ho, if_pos rfl]
      exact ih
    | false =>
      simp only [ho, Bool.false_eq_true, ↓reduceIte] at ih ⊢
      split_ifs at ih ⊢ with hc
      · cases hu : unpairedBefore lines i with
        | nil =>
          rw [hu] at ih
          exact ih
        | cons j outer =>
          rw [hu] at ih
          exact congrArg _ ih
      · exact ih

/-- **Folds are the pairs of plain matching**, in the order of their closing braces. -/
theorem braces_eq (lines : List Text) : braces lines = (List.range lines.length).filterMap (endingAt lines) := by
  rw [List.range_eq_range']
  exact bracesFrom_eq lines 0 rfl

/-- A block folds up to a line exactly if the line is a closing brace that is paired. -/
theorem exists_stop_iff : (∃ f ∈ braces lines, f.stop = i) ↔ (endingAt lines i).isSome := by
  have hstop : ∀ {k : Nat} {f : Fold}, endingAt lines k = some f → f.stop = k := by
    intro k f hf
    rw [endingAt] at hf
    split at hf
    · obtain ⟨j, _, rfl⟩ := Option.map_eq_some_iff.mp hf
      rfl
    · cases hf
  rw [braces_eq]
  constructor
  · rintro ⟨f, hf, rfl⟩
    obtain ⟨k, _, hk⟩ := List.mem_filterMap.mp hf
    rw [hstop hk, hk]
    rfl
  · intro h
    obtain ⟨f, hf⟩ := Option.isSome_iff_exists.mp h
    have hlt : i < lines.length := by
      by_contra hge
      rw [endingAt, List.getElem?_eq_none (Nat.le_of_not_lt hge)] at hf
      cases hf
    exact ⟨f, List.mem_filterMap.mpr ⟨i, List.mem_range.mpr hlt, hf⟩, hstop hf⟩

theorem isUnpairedClosing_iff : isUnpairedClosing lines i ↔
    lines[i]?.any Line.isClosingBrace ∧ ∀ f ∈ braces lines, f.stop ≠ i := by
  have hnone : (∀ f ∈ braces lines, f.stop ≠ i) ↔ endingAt lines i = none := by
    rw [← Option.not_isSome_iff_eq_none, ← exists_stop_iff]
    simp
  rw [hnone, isUnpairedClosing, endingAt, Bool.and_eq_true]
  refine and_congr_right ?_
  intro hc
  rw [if_pos hc, Option.map_eq_none_iff, List.head?_eq_none_iff, List.isEmpty_iff]

/-! ## Counting braces -/

/-- Of the opening braces before line `i`, some are paired and the others are still unpaired. -/
theorem count_opening : ∀ i ≤ lines.length, (lines.take i).countP Line.isOpeningBrace =
    ((List.range i).filterMap (endingAt lines)).length + (unpairedBefore lines i).length
  | 0, _ => rfl
  | i + 1, hlt => by
    have hi : lines[i]? = some lines[i] := List.getElem?_eq_getElem hlt
    have ih := count_opening i (Nat.le_of_succ_le hlt)
    rw [List.take_add_one, hi, List.countP_append, List.range_succ, List.filterMap_append, List.length_append,
      unpairedBefore_succ hi, ih, pairUp]
    simp only [Option.toList_some, List.countP_singleton, List.filterMap_cons, List.filterMap_nil, endingAt, hi,
      Option.any_some]
    cases ho : Line.isOpeningBrace lines[i] with
    | true =>
      simp [isClosingBrace_of_isOpeningBrace ho]
      omega
    | false =>
      cases hc : Line.isClosingBrace lines[i] with
      | false => simp
      | true =>
        cases hu : unpairedBefore lines i with
        | nil => simp
        | cons j outer =>
          simp
          omega

/-- Of the closing braces before line `i`, some are paired and the others are not. -/
theorem count_closing : ∀ i ≤ lines.length, (lines.take i).countP Line.isClosingBrace =
    ((List.range i).filterMap (endingAt lines)).length + ((List.range i).filter (isUnpairedClosing lines)).length
  | 0, _ => rfl
  | i + 1, hlt => by
    have hi : lines[i]? = some lines[i] := List.getElem?_eq_getElem hlt
    have ih := count_closing i (Nat.le_of_succ_le hlt)
    rw [List.take_add_one, hi, List.countP_append, List.range_succ, List.filterMap_append, List.filter_append,
      List.length_append, List.length_append, ih]
    simp only [Option.toList_some, List.countP_singleton, List.filterMap_cons, List.filterMap_nil, endingAt, hi,
      Option.any_some, List.filter_cons, List.filter_nil, isUnpairedClosing]
    cases hc : Line.isClosingBrace lines[i] with
    | false => simp
    | true =>
      cases hu : unpairedBefore lines i with
      | nil =>
        simp
        omega
      | cons j outer =>
        simp
        omega

end Server.Fold

/-! ## Reports about braces -/

namespace Rule

open Block

variable {unit : Int} {name : Text} {lines : List Text}

/-- The message about a closing brace that closes nothing. -/
def unexpectedMessage : Text := "Unexpected closing brace"

/-- The reports about closing braces that close nothing. -/
def unexpectedReports (ds : List Diagnostic) : List Diagnostic := ds.filter (·.message == unexpectedMessage)

/-- The number of closing braces that a message about the end of a file asks for. -/
def missingIn? (message : Text) : Option Nat :=
  (message.afterPrefix? "Expected ").bind fun t => (t.beforeSuffix? " more closing brace").map Text.digitsValue

/-- The number of closing braces that the last report of that kind asks for, or none. -/
def missing (ds : List Diagnostic) : Nat := (ds.filterMap (missingIn? ·.message)).getLast?.getD 0

theorem braceFindings_eq : ∀ (n : Nat) (verdicts : List Verdict), braceFindings n verdicts =
    ((List.range verdicts.length).filter fun k => verdicts[k]?.any (·.unexpected)).map
      fun (k : Nat) => ({ line := (n + k : Nat), message := unexpectedMessage } : Finding)
  | _, [] => rfl
  | n, v :: verdicts => by
    have hnext (k : Nat) : n + 1 + k = n + (k + 1) := by omega
    rw [braceFindings, braceFindings_eq (n + 1) verdicts, List.length_cons, List.range_succ_eq_map, List.filter_cons,
      List.filter_map]
    simp only [hnext]
    cases hv : v.unexpected <;> simp [hv, Function.comp_def, unexpectedMessage]

/-- Among the findings about lines, those about closing braces that close nothing. -/
theorem filter_unexpected_indentFindings (n : Nat) {verdicts : List Verdict} (hlen : lines.length = verdicts.length) :
    (indentFindings unit n lines verdicts).filter (·.message == unexpectedMessage) = braceFindings n verdicts := by
  have hself : (braceFindings n verdicts).filter (·.message == unexpectedMessage) = braceFindings n verdicts := by
    rw [braceFindings_eq, List.filter_eq_self]
    intro f hf
    obtain ⟨k, _, rfl⟩ := List.mem_map.mp hf
    rfl
  rw [← hself, ← filter_brace_indentFindings unit n lines verdicts hlen, List.filter_filter]
  refine List.filter_congr ?_
  intro f _
  by_cases hf : f.message = unexpectedMessage
  · rw [hf]
    rfl
  · simp [hf]

/-- The reports about closing braces that close nothing are those of the verdicts. -/
theorem unexpectedReports_reports : unexpectedReports (reports unit name lines) =
    (braceFindings 1 (scan (Shape.ofLines lines)).verdicts).map ((indentationLevel unit).diagnose name) := by
  have hend : ∀ n count, (endFindings n count).filter (·.message == unexpectedMessage) = [] := by
    intro n count
    unfold endFindings
    split <;> rfl
  have hlen : (scan (Shape.ofLines lines)).verdicts.length = lines.length := by
    rw [length_scan, Shape.length_ofLines]
  rw [unexpectedReports, reports, filter_verify _ _ (· == unexpectedMessage), run_indentationLevel, List.filter_append,
    hend, List.append_nil, filter_unexpected_indentFindings 1 hlen.symm]

/-- **Closing braces are reported exactly if plain matching leaves them unpaired**, each once and in order. -/
theorem unexpectedReports_eq : unexpectedReports (reports unit name lines) =
    ((List.range lines.length).filter (isUnpairedClosing lines)).map fun (i : Nat) =>
      (indentationLevel unit).diagnose name { line := (i + 1 : Nat), message := unexpectedMessage } := by
  have hlen : (scan (Shape.ofLines lines)).verdicts.length = lines.length := by
    rw [length_scan, Shape.length_ofLines]
  have hunpaired : (List.range lines.length).filter
        (fun k => (scan (Shape.ofLines lines)).verdicts[k]?.any (·.unexpected)) =
      (List.range lines.length).filter (isUnpairedClosing lines) := by
    refine List.filter_congr ?_
    intro i hi
    exact unexpected_verdict (List.mem_range.mp hi)
  rw [unexpectedReports_reports, braceFindings_eq, hlen, hunpaired, List.map_map]
  simp only [Function.comp_def, Nat.add_comm 1]

theorem missingIn?_indentMessages {line message : Text} {v : Verdict} (h : message ∈ indentMessages unit line v) :
    missingIn? message = none := by
  rw [indentMessages_eq, List.mem_append] at h
  rcases h with h | h
  · split at h
    · obtain rfl := List.mem_singleton.mp h
      rfl
    · cases h
  · split at h
    · obtain rfl := List.mem_singleton.mp h
      rfl
    · cases h

theorem missingIn?_indentFindings : ∀ {n : Nat} {lines : List Text} {verdicts : List Verdict} {f : Finding},
    f ∈ indentFindings unit n lines verdicts → missingIn? f.message = none
  | n, line :: lines, v :: verdicts, f, h => by
    rcases List.mem_append.mp h with h | h
    · obtain ⟨message, hm, rfl⟩ := List.mem_map.mp h
      exact missingIn?_indentMessages hm
    · exact missingIn?_indentFindings h

theorem missingIn?_end (count : Nat) :
    missingIn? ("Expected " ++ Text.ofNat count ++ " more closing brace") = some count := by
  have hfront : Text.afterPrefix? ("Expected " ++ Text.ofNat count ++ " more closing brace") "Expected " =
      some (Text.ofNat count ++ " more closing brace") := by
    rw [Text.afterPrefix?_eq_some, List.append_assoc]
  rw [missingIn?, hfront, Option.bind_some, Text.beforeSuffix?_append, Option.map_some, Text.digitsValue_ofNat]

/-- The closing braces that are asked for at the end are those of the blocks that the scan leaves unclosed. -/
theorem missing_reports_eq : missing (reports unit name lines) = (scan (Shape.ofLines lines)).unclosed := by
  rw [missing, reports, verify, List.filterMap_map, run_indentationLevel, List.filterMap_append]
  simp only [Function.comp_def, diagnose]
  rw [List.filterMap_eq_nil_iff.mpr fun _ => missingIn?_indentFindings, List.nil_append, endFindings]
  split
  · rw [List.filterMap_cons, missingIn?_end]
    rfl
  · next h =>
    simp only [List.filterMap_nil, List.getLast?_nil, Option.getD_none]
    omega

/-- **The closing braces that are asked for at the end** are those of the opening braces left unpaired. -/
theorem missing_reports : missing (reports unit name lines) = (unpairedBefore lines lines.length).length := by
  rw [missing_reports_eq, unclosed_eq]

/-- The lines with such reports are those of the closing braces at which no fold ends. -/
theorem exists_unexpected_iff {n : Int} :
    (∃ d ∈ reports unit name lines, d.message = unexpectedMessage ∧ d.pos.line = n) ↔
      ∃ (i : Nat) (line : Text), n = i + 1 ∧ lines[i]? = some line ∧ Line.isClosingBrace line ∧
        ∀ f ∈ Server.Fold.braces lines, f.stop ≠ i := by
  have hreported : (∃ d ∈ reports unit name lines, d.message = unexpectedMessage ∧ d.pos.line = n) ↔
      ∃ d ∈ unexpectedReports (reports unit name lines), d.pos.line = n := by
    simp only [unexpectedReports, List.mem_filter, beq_iff_eq, and_assoc]
  rw [hreported, unexpectedReports_eq]
  constructor
  · rintro ⟨d, hd, rfl⟩
    obtain ⟨i, hi, rfl⟩ := List.mem_map.mp hd
    obtain ⟨hc, hstop⟩ := Server.Fold.isUnpairedClosing_iff.mp (List.mem_filter.mp hi).2
    obtain ⟨line, hline, hc⟩ := (Option.any_eq_true _ _).mp hc
    exact ⟨i, line, rfl, hline, hc, hstop⟩
  · rintro ⟨i, line, rfl, hline, hc, hstop⟩
    have hlt : i < lines.length := (List.getElem?_eq_some_iff.mp hline).1
    have hun : isUnpairedClosing lines i := by
      rw [Server.Fold.isUnpairedClosing_iff, hline]
      exact ⟨hc, hstop⟩
    exact ⟨_, List.mem_map.mpr ⟨i, List.mem_filter.mpr ⟨List.mem_range.mpr hlt, hun⟩, rfl⟩, rfl⟩

/-! ## Every brace once -/

/-- **Every brace is accounted for once.** An opening brace has a fold, or the end of the file asks for its closing
brace; a closing brace ends a fold, or it is reported on its line. -/
theorem folds_account_for_braces (unit : Int) (name : Text) (lines : List Text) :
    let ds := (indentationLevel unit).verify ⟨name, lines⟩
    let folds := Server.Fold.braces lines
    lines.countP Line.isOpeningBrace = folds.length + missing ds ∧
    lines.countP Line.isClosingBrace = folds.length + (unexpectedReports ds).length ∧
    ∀ n : Int, (∃ d ∈ ds, d.message = unexpectedMessage ∧ d.pos.line = n) ↔
      ∃ (i : Nat) (line : Text), n = i + 1 ∧ lines[i]? = some line ∧ Line.isClosingBrace line ∧
        ∀ f ∈ folds, f.stop ≠ i := by
  intro ds folds
  have hds : ds = reports unit name lines := rfl
  have hopen := Server.Fold.count_opening lines.length (Nat.le_refl _)
  have hclose := Server.Fold.count_closing lines.length (Nat.le_refl _)
  rw [List.take_length, ← Server.Fold.braces_eq] at hopen hclose
  refine ⟨?_, ?_, fun n => exists_unexpected_iff⟩
  · rw [hopen, hds, missing_reports]
  · rw [hclose, hds, unexpectedReports_eq, List.length_map]

/-- Two closing braces of which one is paired, and an opening brace that is not. -/
example :
    let lines : List Text := ["\x7b", "\x7d", "\x7d", "\x7b"]
    (Server.Fold.braces lines).length = 1 ∧ missing (reports 4 "a.c" lines) = 1 ∧
      (unexpectedReports (reports 4 "a.c" lines)).map (·.pos.line) = [3] := by
  decide +kernel

end Rule

end HouseStyle
