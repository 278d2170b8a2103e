import HouseStyle.Text.Case

/-!
# Suggestions

For a mistyped name, the closest of the known names. A name is a candidate if the characters of the pattern occur in it
in order, whatever their case. Matches at the front, after a separator, at a capital after a small letter and next to
each other count in its favour, characters left over count against it. Of candidates with the same score the last one
is closest.
-/

namespace HouseStyle.Suggestion

/-- What a match at the front of a name is worth. -/
def frontBonus : Int := 10

/-- What a match after a separator is worth. -/
def separatorBonus : Int := 20

/-- What a match of a capital after a small letter is worth. -/
def capitalBonus : Int := 20

/-- What a match next to the match before is worth at first. -/
def adjacentBonus : Int := 5

/-- What a byte before the first match costs. -/
def leadingPenalty : Int := 5

/-- What the bytes before the first match cost at most. -/
def maxLeadingPenalty : Int := 15

/-- Whether the code point separates the parts of a name. -/
def isSeparator (c : Nat) : Bool := ("/-_ .\\".toList.map Char.toNat).contains c

/-- Whether two code points differ at most in case. -/
def sameLetter (a b : Nat) : Bool := Glyph.foldCode a == Glyph.foldCode b

/-- The state of matching a pattern against a name: the rest of the pattern, the offsets of the characters matched so
far (last one first) and their score, the best match of the current pattern character with its score, and the bonus that
adjacent matches have reached. -/
structure Matching where
  pattern : List Nat
  matched : List Nat := []
  score : Int := 0
  best : Option (Int × Nat) := none
  streak : Int := 0

namespace Matching

/-- The worth of matching the character at `offset`, where `last` stands before it with its offset. -/
def worth (m : Matching) (last : Option (Nat × Nat)) (offset code : Nat) : Int × Int :=
  let front := if offset = 0 then frontBonus else 0
  let capital := if last.any (Glyph.isLowerCode ·.2) && Glyph.isUpperCode code then capitalBonus else 0
  let separator := if last.any (isSeparator ·.2) then separatorBonus else 0
  let adjoins := m.matched.head?.isSome && m.matched.head? == last.map (·.1)
  let adjacent := if adjoins then m.streak * 2 + adjacentBonus else 0
  (front + capital + separator + adjacent, adjacent)

/-- Considers the character at `offset` as a match of the current pattern character; the first of equally good matches
stays. -/
def consider (m : Matching) (last : Option (Nat × Nat)) (offset code : Nat) : Matching :=
  match m.pattern with
  | [] => m
  | p :: _ =>
    if sameLetter code p then
      let (score, adjacent) := m.worth last offset code
      let better := match m.best with
        | none => true
        | some (best, _) => score > best
      { m with streak := m.streak + adjacent, best := if better then some (score, offset) else m.best }
    else m

/-- Settles the current pattern character on its best match. -/
def settle (m : Matching) : Matching :=
  match m.best with
  | none => m
  | some (score, offset) =>
    let penalty := if m.matched.isEmpty then min (offset * leadingPenalty) maxLeadingPenalty else 0
    { m with
      pattern := m.pattern.tail, matched := offset :: m.matched, score := m.score + score - penalty, best := none }

/-- Goes through the characters of a name. A pattern character is settled when the next one is about to match, or when
the name ends. -/
def run (m : Matching) (last : Option (Nat × Nat)) (offset : Nat) : List Glyph → Matching
  | [] => m
  | g :: rest =>
    let m := m.consider last offset g.code
    let due := match rest with
      | [] => true
      | next :: _ => next.code == 0 || sameLetter ((m.pattern.drop 1).head?.getD 0) next.code
    run (if due then m.settle else m) (some (offset, g.code)) (offset + g.bytes.length) rest

end Matching

/-- The score of a name as a match of the pattern, if it is one. -/
def score? (pattern : List Nat) (name : Text) : Option Int :=
  let m := Matching.run { pattern } none 0 name.glyphs
  if m.matched.length = pattern.length then some (m.score + m.matched.length - name.length) else none

/-- The better of two scored names; of equally good ones the second. -/
def better (a : Option (Int × Text)) (b : Int × Text) : Option (Int × Text) :=
  match a with
  | some a => if b.1 ≥ a.1 then some b else some a
  | none => some b

/-- The name closest to what was typed. -/
def closest? (typed : Text) (names : List Text) : Option Text :=
  if typed.isEmpty then none
  else
    let scored := names.filterMap fun n => (score? typed.codes n).map (·, n)
    (scored.foldl better none).map (·.2)

/-- The hint to print after an unknown name. -/
def hint (typed : Text) (names : List Text) : Text :=
  match closest? typed names with
  | some name => " (did you mean " ++ name ++ "?)"
  | none => []

end HouseStyle.Suggestion
