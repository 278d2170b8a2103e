import HouseStyle.Text.Glyph
import HouseStyle.Word

/-!
# Timings

How long the parts of a run took. A finished span adds its duration to the total of its name; the spans of files share
one name. The report lists the names with the largest totals first, and names with the same total in byte order.
-/

namespace HouseStyle

/-! ## Durations -/

namespace Duration

/-- A fraction below one with `places` digits after a point, without zeros at its end; nothing if it is zero. -/
def fractionText (places fraction : Nat) : Text :=
  let digits := Text.ofNat fraction
  let digits := List.replicate (places - digits.length) (Text.byte '0') ++ digits
  let kept := (digits.reverse.dropWhile (· == Text.byte '0')).reverse
  if fraction = 0 then [] else "." ++ kept

/-- A number of nanoseconds in a unit of `10 ^ places` of them. -/
def inUnit (places n : Nat) : Text := Text.ofNat (n / Nat.pow 10 places) ++ fractionText places (n % Nat.pow 10 places)

/-- A duration that is not negative. Below a second it is in the largest unit that gives a whole part; from a second on
it is in hours, minutes and seconds without leading zero parts. -/
def magnitudeText (n : Nat) : Text :=
  if n = 0 then "0s"
  else if n < 1000 then inUnit 0 n ++ "ns"
  else if n < 1000000 then inUnit 3 n ++ "µs"
  else if n < 1000000000 then inUnit 6 n ++ "ms"
  else
    let minutes := n / 60000000000
    let seconds := inUnit 9 (n % 60000000000) ++ "s"
    if minutes = 0 then seconds
    else if minutes < 60 then Text.ofNat minutes ++ "m" ++ seconds
    else Text.ofNat (minutes / 60) ++ "h" ++ Text.ofNat (minutes % 60) ++ "m" ++ seconds

/-- A duration in nanoseconds. -/
def text (n : Int) : Text := if n < 0 then "-" ++ magnitudeText n.natAbs else magnitudeText n.natAbs

end Duration

/-! ## Totals -/

/-- A span that has ended, with the nanoseconds it took. -/
structure FinishedSpan where
  name : Text
  duration : Int
  deriving DecidableEq

/-- Finished spans as they are handed over: one by itself, or several together. -/
inductive Delivery where
  | one (s : FinishedSpan)
  | several (ss : List FinishedSpan)

/-- The spans of a delivery. -/
def Delivery.spans : Delivery → List FinishedSpan
  | .one s => [s]
  | .several ss => ss

/-- What the finished spans of one name add up to. -/
structure Timing where
  name : Text
  count : Nat
  total : Int
  deriving DecidableEq

namespace Timing

/-- The name under which the spans of all files are counted. -/
def filesName : Text := "(files)"

/-- The name under which a span is counted. -/
def rowName (span : Text) : Text := if span.startsWith "lint " then filesName else span

/-- Adds a duration to the total of a name. -/
def addTo (name : Text) (duration : Int) : List Timing → List Timing
  | [] => [⟨name, 1, word duration⟩]
  | t :: rest =>
    if t.name = name then { t with count := t.count + 1, total := word (t.total + duration) } :: rest
    else t :: addTo name duration rest

/-- Adds a finished span. -/
def add (timings : List Timing) (span : Text) (duration : Int) : List Timing :=
  addTo (rowName span) duration timings

/-- Adds what a delivery holds. -/
def receive (timings : List Timing) : Delivery → List Timing
  | .one s => add timings s.name s.duration
  | .several ss => ss.foldl (fun ts s => add ts s.name s.duration) timings

/-- The totals after deliveries, one after the other. -/
def collect (deliveries : List Delivery) : List Timing := deliveries.foldl receive []

/-- The order of the report. -/
def before (a b : Timing) : Bool := if a.total = b.total then Text.less a.name b.name else b.total < a.total

/-- The text with spaces after it, up to `width` characters. -/
def padRight (width : Nat) (t : Text) : Text := t ++ Text.spaces (width - t.glyphs.length)

/-- The text with spaces before it, up to `width` characters. -/
def padLeft (width : Nat) (t : Text) : Text := Text.spaces (width - t.glyphs.length) ++ t

/-- A row of the report. -/
def row (t : Timing) : Text :=
  padRight 28 t.name ++ " " ++ padLeft 6 (Text.ofNat t.count) ++ " " ++ padLeft 12 (Duration.text t.total) ++ "\n"

/-- The report of the totals. -/
def report (timings : List Timing) : Text := (timings.mergeSort fun a b => !b.before a).flatMap row

end Timing

end HouseStyle
