import Switchboard.Proofs.Filtering
import Switchboard.Tracing.Subscriber

/-!
What is written once subscribers have been requested. The first request decides, unless the text of the filter
would have to be cut inside a character, or the filter lets no level through and is about spans all the same:
such spans are told if the lines are plain text, or if a later request asks for plain text.
-/

namespace Switchboard.Tracing

/-- The spans after a signal, the innermost first. -/
def Signal.around (spans : List Span) : Signal → List Span
  | .event .. => spans
  | .enter span => span :: spans
  | .leave => spans.tail

/-- The spans that are entered and not left by signals, the innermost first. -/
def standing (signals : List Signal) : List Span :=
  signals.foldl Signal.around []

def Filter.shown (filter : Filter) : List Span → List Span
  | [] => []
  | span :: outer =>
    if filter.shows (filter.shown outer) span then span :: filter.shown outer
    else filter.shown outer

namespace Subscriber

variable (subscriber : Subscriber)

/-- The spans as they are kept while lines are written within a bound. -/
def entered (subscriber : Subscriber) (bound : Nat) : List Span → List Entered
  | [] => []
  | span :: outer =>
    let outer := entered subscriber bound outer
    ⟨span, span.level.rank ≤ bound && subscriber.filter.admitsSpan (opened outer) span,
      subscriber.filter.spanLevel? span⟩ :: outer

variable {subscriber} {bound : Nat}

end Subscriber

def refusal : Manner → Outcome
  | .attempt => .refused .alreadyInstalled
  | .insist => .stopped

variable {filterText : Option String}

namespace Usable

end Usable

def written (filterText : Option String) (requests : List (Manner × Options))
    (signals : List Signal) : List Line :=
  lines (requestAll filterText none requests).2 signals

section

variable (manner : Manner) (options : Options) (later : List (Manner × Options))

end

example :
    (written (some "warn,[work]=debug") [(.insist, .production), (.attempt, .development)]
      [.event "probe" .debug "before" [], .enter ⟨"work", "probe", .info, [], []⟩,
        .event "probe" .debug "inside" [], .leave, .event "probe" .warn "after" []]).map
        (fun line => (line.message, line.span)) =
      [("inside", some "work"), ("after", none)] := by
  decide +kernel

end Switchboard.Tracing
