import HouseStyle.Source.Line

/-!
# Block structure

The nesting depth of every line of a file, read off lone braces, control keywords without braces and `switch` labels.

A file is a sequence of *regions* inside one another. A `block` region lies between braces and ends at its closing
brace; the file itself is a block at depth 0 that no brace closes. A `governed` region is the single line under a
control keyword. An `arm` region is what follows a label of a `switch`; it ends at its terminator, or just before the
next label or closing brace.

Every line is consumed once, in order, so a scan gives one verdict per line consumed (`length_region`).
-/

namespace HouseStyle

/-- What the block structure depends on in a line. Leading white space is not part of it. -/
structure Shape where
  opens : Bool
  closes : Bool
  labels : Bool
  governs : Bool
  terminates : Bool
  deriving DecidableEq

namespace Shape

/-- The shape of a line before the line `next`. -/
def ofLine (line : Text) (next : Option Text) : Shape where
  opens := Line.isOpeningBrace line
  closes := Line.isClosingBrace line
  labels := Line.isLabel line
  governs := (Line.governedBy? line next).isSome
  terminates := Line.endsCase line next

/-- The shapes of a list of lines. -/
def ofLines : List Text → List Shape
  | [] => []
  | line :: rest => ofLine line rest.head? :: ofLines rest

end Shape

namespace Block

/-- The kinds of region. -/
inductive Region where
  | block
  | governed
  | arm
  deriving DecidableEq

/-- What the scan finds out about a line: the level that its indentation is checked against, and whether it is a
closing brace that closes nothing. -/
structure Verdict where
  level : Nat
  unexpected : Bool
  deriving DecidableEq

/-- The result of scanning a region: a verdict for each line consumed, the lines left, whether a closing brace ended
the region, and how many blocks were opened inside it and not closed. -/
structure Scan where
  verdicts : List Verdict
  rest : List Shape
  closed : Bool
  unclosed : Nat

namespace Scan

/-- The scan that consumes nothing. -/
def idle (rest : List Shape) : Scan := ⟨[], rest, false, 0⟩

/-- Continues on the lines left by a scan. -/
def andThen (s : Scan) (next : List Shape → Scan) : Scan :=
  let t := next s.rest
  ⟨s.verdicts ++ t.verdicts, t.rest, t.closed, s.unclosed + t.unclosed⟩

/-- A block seen from outside: it counts as unclosed unless its closing brace was found. -/
def enclosed (s : Scan) : Scan :=
  { s with closed := false, unclosed := s.unclosed + if s.closed then 0 else 1 }

end Scan

/-- Scans the lines of one region at nesting depth `depth`. Every call but the last consumes a line, so the number of
lines is fuel enough. -/
def region : (fuel : Nat) → Region → (depth : Nat) → List Shape → Scan
  | _, _, _, [] => .idle []
  | 0, _, _, lines => .idle lines
  | fuel + 1, kind, depth, s :: rest =>
    if kind ≠ .block ∧ (s.closes || s.labels) then .idle (s :: rest)
    else
      let closing := kind = .block ∧ s.closes
      let verdict : Verdict :=
        ⟨if closing then depth - 1 else depth, closing ∧ depth = 0⟩
      let here : Scan := ⟨[verdict], rest, false, 0⟩
      let here := if s.governs then here.andThen (region fuel .governed (depth + 1)) else here
      match kind with
      | .governed => { here with closed := false }
      | .block =>
        if s.opens then
          (here.andThen fun lines => (region fuel .block (depth + 1) lines).enclosed).andThen (region fuel .block depth)
        else if s.closes then
          if depth = 0 then here.andThen (region fuel .block depth) else { here with closed := true }
        else if s.labels then (here.andThen (region fuel .arm (depth + 1))).andThen (region fuel .block depth)
        else here.andThen (region fuel .block depth)
      | .arm =>
        if s.opens then
          (here.andThen fun lines => (region fuel .block (depth + 1) lines).enclosed).andThen (region fuel .arm depth)
        else if s.terminates then { here with closed := false }
        else here.andThen (region fuel .arm depth)

/-- Scans a whole file. -/
def scan (lines : List Shape) : Scan := region lines.length .block 0 lines

/-! ## One verdict per line -/

theorem length_andThen {s : Scan} {next : List Shape → Scan} {n : Nat}
    (hs : s.verdicts.length + s.rest.length = n)
    (hn : ∀ ls, (next ls).verdicts.length + (next ls).rest.length = ls.length) :
    (s.andThen next).verdicts.length + (s.andThen next).rest.length = n := by
  have := hn s.rest
  simp only [Scan.andThen, List.length_append]
  omega

/-- A scan gives one verdict for each line that it consumes. -/
theorem length_region (fuel : Nat) (kind : Region) (depth : Nat) (lines : List Shape) :
    (region fuel kind depth lines).verdicts.length + (region fuel kind depth lines).rest.length = lines.length := by
  induction fuel generalizing kind depth lines with
  | zero => cases lines <;> simp [region, Scan.idle]
  | succ fuel ih =>
    cases lines with
    | nil => simp [region, Scan.idle]
    | cons s rest =>
      have henc (ls : List Shape) : (region fuel .block (depth + 1) ls).enclosed.verdicts.length +
          (region fuel .block (depth + 1) ls).enclosed.rest.length = ls.length := by
        simpa [Scan.enclosed] using ih .block (depth + 1) ls
      rw [region]
      split
      · simp [Scan.idle]
      · dsimp only
        generalize hh : (if s.governs = true then _ else _ : Scan) = here
        have hhere : here.verdicts.length + here.rest.length = (s :: rest).length := by
          subst hh
          split
          · exact length_andThen (by simp; omega) (ih _ _)
          · simp; omega
        cases kind with
        | governed => simpa using hhere
        | block =>
          dsimp only
          repeat' split
          · exact length_andThen (length_andThen hhere henc) (ih _ _)
          · exact length_andThen hhere (ih _ _)
          · simpa using hhere
          · exact length_andThen (length_andThen hhere (ih _ _)) (ih _ _)
          · exact length_andThen hhere (ih _ _)
        | arm =>
          dsimp only
          repeat' split
          · exact length_andThen (length_andThen hhere henc) (ih _ _)
          · simpa using hhere
          · exact length_andThen hhere (ih _ _)

end Block

end HouseStyle
