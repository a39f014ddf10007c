import Switchboard.Hub.Basic

/-!
Handing one invocation to several connections in turn. Who they are is settled before the first of
them is asked, so whatever a connection asks of the hub meanwhile does not change who comes next.
-/

namespace Switchboard

open Switchboard.Text

/-- How many connections took an invocation, were left out, or had no place for it, and those that
were closed, in order. -/
structure Report where
  sent : Nat
  skipped : Nat
  full : Nat
  closed : List Connection
deriving DecidableEq

namespace Report

def empty : Report :=
  ⟨0, 0, 0, []⟩

def failed (report : Report) : Nat :=
  report.full + report.closed.length

def outline (report : Report) : Outline :=
  .record "FanOutReport"
    [("sent", .leaf (Numeral.render report.sent)),
      ("skipped", .leaf (Numeral.render report.skipped)),
      ("full", .leaf (Numeral.render report.full)),
      ("closed", .leaf (Numeral.render report.closed.length))]

end Report

namespace World

variable {σ : Type} (network : Network σ)

/-- Hands an invocation to a connection and does what it asks for meanwhile. -/
def hand (invocation : Invocation) (world : World σ) (connection : Connection) :
    Answer × World σ :=
  let attempt := network.send connection invocation world.stores world.peers
  (attempt.answer, { world with peers := attempt.peers }.grantAll attempt.requests)

/-- One step of a fan-out: a connection is left out by its identifier, or handed the invocation. -/
def visit (invocation : Invocation) (excluded : List ConnectionId) (state : Report × World σ)
    (connection : Connection) : Report × World σ :=
  let (report, world) := state
  if connection.id ∈ excluded then ({ report with skipped := report.skipped + 1 }, world)
  else
    match world.hand network invocation connection with
    | (.accepted, world) => ({ report with sent := report.sent + 1 }, world)
    | (.refused .full, world) =>
      ({ report with full := report.full + 1 },
        world.note (.dropped connection.id invocation.target))
    | (.refused .closed, world) =>
      ({ report with closed := report.closed ++ [connection] },
        world.note (.passedOver connection.id invocation.target))

/-- Hands an invocation to each of the recipients in order, except those of excluded identifiers. -/
def fanOut (recipients : List Connection) (invocation : Invocation)
    (excluded : List ConnectionId) (world : World σ) : Report × World σ :=
  recipients.foldl (visit network invocation excluded) (.empty, world)

def noteReport (world : World σ) (target : String) (group : Option String) (report : Report) :
    World σ :=
  world.note (.fannedOut target group report.sent report.skipped report.failed)

end World

end Switchboard
