import HouseStyle.Convention
import HouseStyle.Linter
import HouseStyle.Path.Expand
import HouseStyle.Report

/-!
# Fixtures

A fixture is a source file with the expected report beside it, in a file whose name ends in `.golden`. Running the
fixtures of a directory compares reports, or writes them.
-/

namespace HouseStyle.Fixture

/-- The ending of the name of an expected report. -/
def goldenSuffix : Text := ".golden"

/-- The report of a source under a name. -/
def report (rules : List Rule) (name content : Text) : Text := Report.text (lintFile rules name content)

/-- The source files that stand directly in a directory, in byte order. -/
def sources (tree : Tree) (dir : Text) : List Text :=
  match tree.find dir with
  | .ok n =>
    if n.access.read then (n.entries.map (·.1)).filter fun name => name.endsWith ".c" || name.endsWith ".h" else []
  | .error _ => []

/-- The outcome of a run: for each fixture whether it passed, and the tree afterwards. -/
structure Outcome where
  passed : List (Text × Bool)
  tree : Tree

/-- Runs the fixture at a path, on top of the tree left by those before. -/
def runOne (rules : List Rule) (update : Bool) (dir : Text) (done : Outcome) (name : Text) : Outcome :=
  let path := Path.below dir name
  let golden := path ++ goldenSuffix
  let fail : Outcome := { done with passed := done.passed ++ [(name, false)] }
  match done.tree.read path with
  | .error _ => fail
  | .ok content =>
    let got := report rules name content
    if update then
      match done.tree.write golden got {} with
      | .ok tree => { passed := done.passed ++ [(name, true)], tree }
      | .error _ => fail
    else
      match done.tree.read golden with
      | .error _ => fail
      | .ok want => { done with passed := done.passed ++ [(name, want == got)] }

/-- Runs the fixtures of a directory. With `update` the expected reports are written instead of compared. -/
def run (rules : List Rule) (update : Bool) (tree : Tree) (dir : Text) : Outcome :=
  let dir := if dir.isEmpty then Text.ofString "." else dir
  (sources tree dir).foldl (runOne rules update dir) ⟨[], tree⟩

/-- Whether a run succeeded: there were fixtures and all passed. -/
def Outcome.ok (o : Outcome) : Bool := !o.passed.isEmpty && o.passed.all (·.2)

/-! ## Logging by lines -/

/-- A log that takes its text in chunks and keeps whole lines: the lines so far and the unfinished last one. -/
structure Log where
  lines : List Text := []
  pending : Text := []

/-- A newline that is found stands in the text. -/
theorem lt_of_idxOf?_newline {t : Text} {i : Nat} (h : t.idxOf? (Text.byte '\n') = some i) : i < t.length := by
  obtain ⟨hi, -⟩ := List.idxOf?_eq_some_iff.mp h
  exact hi

/-- The log with these lines and this unfinished text, once the whole lines at the front of the text have been taken off,
one after the other. -/
def Log.drain (lines : List Text) (pending : Text) : Log :=
  match h : pending.idxOf? (Text.byte '\n') with
  | none => { lines, pending }
  | some i => drain (lines ++ [pending.take i]) (pending.drop (i + 1))
termination_by pending.length
decreasing_by
  have := lt_of_idxOf?_newline h
  simp only [List.length_drop]
  omega

/-- Takes a chunk of text, and tells how many bytes of it were taken: all of them. -/
def Log.write (log : Log) (chunk : Text) : Nat × Log := (chunk.length, drain log.lines (log.pending ++ chunk))

/-- Ends the unfinished line, if there is one. -/
def Log.flush (log : Log) : Log :=
  if log.pending.isEmpty then log else { lines := log.lines ++ [log.pending], pending := [] }

end HouseStyle.Fixture
