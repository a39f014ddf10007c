import Switchboard.Failure
import Switchboard.Tracing.Filter
import Switchboard.Tracing.Options

namespace Switchboard.Tracing

inductive Signal
  | event (target : String) (level : Level) (message : String) (fields : List String)
  | enter (span : Span)
  | leave
deriving DecidableEq

structure Line where
  json : Bool
  level : Level
  target : String
  message : String
  fileLine : Bool
  threadName : Bool
  threadId : Bool
  span : Option String
deriving DecidableEq

structure Subscriber where
  filter : Filter
  options : Options
deriving DecidableEq

namespace Subscriber

/-- The subscriber for some options. A filter text counts before the level of the options, unless it
is malformed; there is none if the filter text would have to be cut inside a character. -/
def create (filterText : Option String) (options : Options) : Option Subscriber :=
  match filterText.map Filter.ofText with
  | some (.ok filter) => some ⟨filter, options⟩
  | some (.error .splitCharacter) => none
  | some (.error .malformed) | none => some ⟨.ofLevel options.level, options⟩

/-- The rank beyond which the program is not to tell a subscriber anything. When lines are plain text,
a filter that lets through no level does not ask for a bound. -/
def bound (subscriber : Subscriber) : Nat :=
  if subscriber.filter.bound = 0 && !subscriber.options.json then Level.trace.rank
  else subscriber.filter.bound

/-- A span that was entered: whether it was let through, and the level it opens. -/
structure Entered where
  span : Span
  shown : Bool
  opened : Option Ceiling

def opened (entered : List Entered) : List Ceiling :=
  (entered.filter (·.shown)).filterMap (·.opened)

def current (entered : List Entered) : Option String :=
  (entered.find? (·.shown)).map (·.span.name)

def line (subscriber : Subscriber) (level : Level) (target message : String)
    (span : Option String) : Line where
  json := subscriber.options.json
  level := level
  target := target
  message := message
  fileLine := subscriber.options.fileLine
  threadName := subscriber.options.threadNames
  threadId := subscriber.options.threadIds
  span := span

def spanLine (subscriber : Subscriber) (entered : Entered) (message : String) : List Line :=
  if entered.shown && subscriber.options.spanEvents then
    [subscriber.line entered.span.level entered.span.target message (some entered.span.name)]
  else []

/-- The lines written for signals inside the entered spans, the innermost first. Nothing beyond the
bound is written. -/
def write (subscriber : Subscriber) (bound : Nat) (entered : List Entered) : List Signal → List Line
  | [] => []
  | .event target level message fields :: rest =>
    (if level.rank ≤ bound && subscriber.filter.admitsEvent (opened entered) target fields level then
        [subscriber.line level target message (current entered)]
      else []) ++ write subscriber bound entered rest
  | .enter span :: rest =>
    let shown :=
      span.level.rank ≤ bound &&
        subscriber.filter.admitsSpan (opened entered) span
    let inner : Entered := ⟨span, shown, subscriber.filter.spanLevel? span⟩
    subscriber.spanLine inner "new" ++ write subscriber bound (inner :: entered) rest
  | .leave :: rest =>
    match entered with
    | [] => write subscriber bound [] rest
    | inner :: outer => subscriber.spanLine inner "close" ++ write subscriber bound outer rest

end Subscriber

/-- The subscriber that was installed, and the rank beyond which it is told nothing. -/
structure Installation where
  subscriber : Subscriber
  bound : Nat
deriving DecidableEq

namespace Installation

/-- Installs a subscriber unless there is one already. The last one that came too late counts for the
bound as well, which holds for the whole program. -/
def add (installed : Option Installation) (subscriber : Subscriber) :
    Except TracingFault Unit × Installation :=
  match installed with
  | none => (.ok (), ⟨subscriber, subscriber.bound⟩)
  | some ⟨earlier, _⟩ =>
    (.error .alreadyInstalled, ⟨earlier, max earlier.bound subscriber.bound⟩)

end Installation

/-- How the program asks for a subscriber: it may insist, and be stopped if it cannot have one, or
only try. -/
inductive Manner
  | insist
  | attempt
deriving DecidableEq

inductive Outcome
  | installed
  | refused (fault : TracingFault)
  | stopped
deriving DecidableEq

def request (filterText : Option String) (installed : Option Installation) (manner : Manner)
    (options : Options) : Outcome × Option Installation :=
  match Subscriber.create filterText options with
  | none => (.stopped, installed)
  | some subscriber =>
    let (result, installed) := Installation.add installed subscriber
    match result, manner with
    | .ok (), _ => (.installed, some installed)
    | .error fault, .attempt => (.refused fault, some installed)
    | .error _, .insist => (.stopped, some installed)

def requestAll (filterText : Option String) (installed : Option Installation) :
    List (Manner × Options) → List Outcome × Option Installation
  | [] => ([], installed)
  | (manner, options) :: rest =>
    let (outcome, installed) := request filterText installed manner options
    let (outcomes, installed) := requestAll filterText installed rest
    (outcome :: outcomes, installed)

def lines (installed : Option Installation) (signals : List Signal) : List Line :=
  match installed with
  | none => []
  | some installed => installed.subscriber.write installed.bound [] signals

end Switchboard.Tracing
