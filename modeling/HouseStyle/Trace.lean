import HouseStyle.Rule.Basic
import HouseStyle.Text.Quoted
import HouseStyle.Timing

/-!
# Traces

What a traced run tells about itself: the check of a file is a span, and inside it the check of each rule is one.
-/

namespace HouseStyle

/-- A named stretch of a run with one attribute. -/
structure Span where
  name : Text
  key : Text
  value : Text
  deriving DecidableEq

namespace Span

/-- The span of a file. -/
def ofFile (file : Text) : Span := ⟨"lint " ++ file, "code.filepath", file⟩

/-- The span of a rule. -/
def ofRule (r : Rule) : Span := ⟨r.name, "cstyle.rule", r.name⟩

end Span

namespace Trace

/-- A moment of a traced run. -/
inductive Event where
  | start (s : Span)
  | finish (s : Span)
  deriving DecidableEq

/-- What is recorded of an event. -/
def Event.text : Event → Text
  | .start s => "start " ++ s.name ++ " " ++ s.key ++ "=" ++ s.value
  | .finish s => "end " ++ s.name

/-- The events of checking a file: the rules run one after the other inside the file's span. -/
def ofFile (rules : List Rule) (file : Text) : List Event :=
  .start (Span.ofFile file) :: rules.flatMap (fun r => [.start (Span.ofRule r), .finish (Span.ofRule r)]) ++
    [.finish (Span.ofFile file)]

/-- The finished spans of a run, in the order they end, each with the span it stands in. -/
def finishedIn (outer : List Span) : List Event → List (Span × Option Span)
  | [] => []
  | .start s :: rest => finishedIn (s :: outer) rest
  | .finish s :: rest => (s, outer.tail.head?) :: finishedIn outer.tail rest

/-- The finished spans of a run with the spans they stand in. -/
def finished (events : List Event) : List (Span × Option Span) := finishedIn [] events

/-- The timings of a run, where `duration` tells how long the spans took, in the order they end. -/
def timings (duration : Nat → Int) (events : List Event) : List Timing :=
  ((finished events).zipIdx).foldl (fun ts (s, i) => Timing.add ts s.1.name (duration i)) []

/-! ## Backends -/

/-- The systems that can receive a trace. -/
inductive Backend where
  | otel
  | opencensus
  deriving DecidableEq

/-- The name of a backend. -/
def Backend.name : Backend → Text
  | .otel => "otel"
  | .opencensus => "opencensus"

/-- The backend with this name. -/
def Backend.ofName? (t : Text) : Option Backend :=
  if t = Backend.name .otel then some .otel else if t = Backend.name .opencensus then some .opencensus else none

/-- What is said about a name that no backend has. -/
def unknownBackend (t : Text) : Text := "unknown tracing backend: " ++ t.quoted

/-- The name that spans are recorded under unless another is asked for. -/
def defaultTracer : Text := "cstyle"

end Trace

end HouseStyle
