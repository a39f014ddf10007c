import Switchboard.Peer
import Switchboard.Proofs.Consistency
import Switchboard.Proofs.Round
import Switchboard.Proofs.Tally

namespace Switchboard

namespace Event

/-- The connections that an event attaches under an identifier that had none. -/
def arrivals : Event → Nat
  | .registered _ replaced => if replaced then 0 else 1
  | _ => 0

def departures : Event → Nat
  | .unregistered _ => 1
  | _ => 0

/-- The connections that were found closed and detached together. -/
def clearances : Event → Nat
  | .closedRemoved count => count
  | _ => 0

/-- The memberships under an identifier that was new in the group. -/
def entries : Event → Nat
  | .joined _ _ added => if added then 1 else 0
  | _ => 0

def exits : Event → Nat
  | .left _ _ => 1
  | _ => 0

def evictions : Event → Nat
  | .evicted _ _ => 1
  | _ => 0

/-- The memberships that a connection gave up in all groups at once. -/
def withdrawals : Event → Nat
  | .leftAll _ groups => groups
  | _ => 0

/-- The connections that an invocation was handed to, whatever they answered. -/
def handovers : Event → Nat
  | .fannedOut _ _ sent _ failed => sent + failed
  | _ => 0

def failures : Event → Nat
  | .fannedOut _ _ _ _ failed => failed
  | _ => 0

def drops : Event → Nat
  | .dropped _ _ => 1
  | _ => 0

def passes : Event → Nat
  | .passedOver _ _ => 1
  | _ => 0

def total (weight : Event → Nat) (log : List Event) : Nat :=
  (log.map weight).sum

theorem total_concat (weight : Event → Nat) (log : List Event) (event : Event) :
    total weight (log ++ [event]) = total weight log + weight event := by
  simp [total]

structure Unvoiced (event : Event) : Prop where
  handovers : event.handovers = 0
  failures : event.failures = 0
  drops : event.drops = 0
  passes : event.passes = 0

end Event

def Report.handed (report : Report) : Nat :=
  report.sent + report.failed

namespace Round

def total (weight : Report → Nat) (rounds : List Round) : Nat :=
  (rounds.map fun round => weight round.report).sum

theorem total_cons (weight : Report → Nat) (round : Round) (rounds : List Round) :
    total weight (round :: rounds) = weight round.report + total weight rounds := by
  simp [total]

/-- The call that is made when a connection is visited, unless it is left out. -/
def callsOf (round : Round) (connection : Connection) (answer : Answer) : List Call :=
  if connection.id ∈ round.excluded then [] else [⟨connection, round.invocation, answer⟩]

end Round

/-- Connections that give one answer, after all that they have asked of the hub has been done. -/
def Network.answering {σ : Type} (answer : Answer) : Network σ where
  send _ _ _ peers := ⟨peers, [], answer⟩
  isClosed _ _ := false

theorem World.visit_answering {σ : Type} (invocation : Invocation)
    (excluded : List ConnectionId) {connection : Connection} (h : connection.id ∉ excluded)
    (report : Report) (world : World σ) (answer : Answer) :
    World.visit (Network.answering answer) invocation excluded (report, world) connection =
      match answer with
      | .accepted => ({ report with sent := report.sent + 1 }, world)
      | .refused .full =>
        ({ report with full := report.full + 1 },
          world.note (.dropped connection.id invocation.target))
      | .refused .closed =>
        ({ report with closed := report.closed ++ [connection] },
          world.note (.passedOver connection.id invocation.target)) := by
  unfold World.visit
  simp only [h, if_false]
  rcases answer with _ | _ | _
  all_goals rfl

/-- The worlds that a new hub may come to, with the rounds under way, the latest first, and the calls made
so far. Any operation of the hub may begin at any time, also while rounds are under way, as when a
connection that is called asks for it. What the connections answer is left open, they may change on their
own, and the tables may be listed anew in any order. -/
inductive Journal {σ : Type} (network : Network σ) (settings : LifetimeSettings) :
    List Round → List Call → World σ → Prop
  | start (peers : σ) : Journal network settings [] [] ⟨Stores.empty, peers, settings.setUpLog⟩
  | perform {rounds : List Round} {calls : List Call} {world : World σ}
      (h : Journal network settings rounds calls world) (operation : Operation)
      (quiet : operation.round world.stores = none) (own : operation.isFanOut = false) :
      Journal network settings rounds calls
        (world.perform network settings.cleanup operation).2
  | enter {rounds : List Round} {calls : List Call} {world : World σ}
      (h : Journal network settings rounds calls world) (operation : Operation) {round : Round}
      (begins : operation.round world.stores = some round) :
      Journal network settings (round :: rounds) calls world
  | visit {round : Round} {rounds : List Round} {calls : List Call} {world visited : World σ}
      (h : Journal network settings (round :: rounds) calls world) {connection : Connection}
      {waiting : List Connection} (next : round.waiting = connection :: waiting) (answer : Answer)
      {report : Report}
      (visits : World.visit (Network.answering answer) round.invocation round.excluded
        (round.report, world) connection = (report, visited)) :
      Journal network settings ({ round with waiting, report } :: rounds)
        (calls ++ round.callsOf connection answer) visited
  | conclude {round : Round} {rounds : List Round} {calls : List Call} {world : World σ}
      (h : Journal network settings (round :: rounds) calls world) (done : round.waiting = []) :
      Journal network settings rounds calls (round.conclude settings.cleanup world)
  | stir {rounds : List Round} {calls : List Call} {world : World σ}
      (h : Journal network settings rounds calls world) (peers : σ) :
      Journal network settings rounds calls { world with peers }
  | relist {rounds : List Round} {calls : List Call} {world : World σ}
      (h : Journal network settings rounds calls world) {stores : Stores}
      (same : stores.Same world.stores) :
      Journal network settings rounds calls { world with stores }

section

variable {σ : Type} {network : Network σ} {settings : LifetimeSettings} {rounds : List Round}
  {calls : List Call} {world : World σ}

namespace Journal

theorem grant (h : Journal network settings rounds calls world) (request : Request) :
    Journal network settings rounds calls (world.grant request) := by
  rw [← World.perform_request network settings.cleanup world request]
  cases request with
  | register connection => exact h.perform _ rfl rfl
  | unregister id => exact h.perform _ rfl rfl
  | leave group id => exact h.perform _ rfl rfl
  | join group id => exact h.perform _ rfl rfl

theorem grantAll (h : Journal network settings rounds calls world) (requests : List Request) :
    Journal network settings rounds calls (world.grantAll requests) := by
  induction requests generalizing world with
  | nil => exact h
  | cons request rest ih => exact ih (h.grant request)

theorem fanOut {invocation : Invocation} {excluded : List ConnectionId} {group : Option String}
    {waiting : List Connection} {report : Report}
    (h : Journal network settings (⟨invocation, excluded, waiting, report, group⟩ :: rounds) calls
      world) :
    let visited := waiting.foldl (World.visit network invocation excluded) (report, world)
    Journal network settings (⟨invocation, excluded, [], visited.1, group⟩ :: rounds)
      (calls ++ network.calls invocation
        (waiting.filter fun connection => connection.id ∉ excluded) world.state) visited.2 := by
  induction waiting generalizing calls report world with
  | nil =>
      rw [List.filter_nil, Network.calls, List.append_nil]
      exact h
  | cons connection rest ih =>
      by_cases hexcluded : connection.id ∈ excluded
      · have hskip := h.visit rfl .accepted
          (World.visit_excluded _ invocation excluded hexcluded report world)
        have hrest := ih hskip
        rw [List.foldl_cons, World.visit_excluded network invocation excluded hexcluded]
        simp only [Round.callsOf, hexcluded, if_true, List.append_nil] at hrest
        rw [List.filter_cons_of_neg (by simpa using hexcluded)]
        exact hrest
      · -- What the connection asks for is done before it answers, so its visit finds that done.
        let attempt := network.send connection invocation world.stores world.peers
        have hasked := (h.stir attempt.peers).grantAll attempt.requests
        have hstate := World.state_visit network invocation excluded hexcluded report world
        rw [List.foldl_cons]
        generalize hnext : World.visit network invocation excluded (report, world) connection = next
          at hstate ⊢
        obtain ⟨report', visited⟩ := next
        have hvisit : World.visit (Network.answering attempt.answer) invocation excluded
            (report, ({ world with peers := attempt.peers } : World σ).grantAll attempt.requests)
              connection = (report', visited) := by
          rw [← hnext]
          unfold World.visit
          simp only [hexcluded, if_false]
          rfl
        have hrest := ih (hasked.visit rfl attempt.answer hvisit)
        simp only at hstate
        rw [hstate] at hrest
        simp only [Round.callsOf, hexcluded, if_false, List.append_assoc] at hrest
        have hfilter : (connection :: rest).filter (fun other => other.id ∉ excluded) =
            connection :: rest.filter fun other => other.id ∉ excluded :=
          List.filter_cons_of_pos (by simpa using hexcluded)
        rw [hfilter]
        exact hrest

theorem of_perform (h : Journal network settings rounds calls world) {operation : Operation}
    (hown : operation.isFanOut = false) :
    Journal network settings rounds
      (calls ++ world.calls network settings.cleanup operation)
      (world.perform network settings.cleanup operation).2 := by
  cases hround : operation.round world.stores with
  | none =>
      rw [World.calls_of_no_round network settings.cleanup world hround hown, List.append_nil]
      exact h.perform operation hround hown
  | some round =>
      rw [World.calls_of_round network settings.cleanup world hround,
        World.perform_of_round network settings.cleanup world hround]
      have hvisited := (h.enter operation hround).fanOut
      rw [Operation.report_of_round hround] at hvisited
      exact hvisited.conclude rfl

end Journal

theorem Journal.of_run (h : Journal network settings rounds calls world)
    {operations : List Operation} (hown : ∀ operation ∈ operations, operation.isFanOut = false) :
    Journal network settings rounds
      (calls ++ world.runCalls network settings.cleanup operations)
      (world.run network settings.cleanup operations).2 := by
  induction operations generalizing calls world with
  | nil =>
      rw [World.runCalls, List.append_nil]
      exact h
  | cons operation rest ih =>
      obtain ⟨hfirst, hrest⟩ := List.forall_mem_cons.mp hown
      have hafter := ih (h.of_perform hfirst) hrest
      rw [List.append_assoc] at hafter
      exact hafter

/-- What is attached, the memberships and the calls so far are as the log tells, with the reports of the
rounds under way. -/
structure Balanced (rounds : List Round) (calls : List Call) (world : World σ) : Prop where
  attached : world.stores.registry.size + Event.total Event.departures world.log +
    Event.total Event.clearances world.log = Event.total Event.arrivals world.log
  memberships : world.stores.groups.memberships + Event.total Event.exits world.log +
    Event.total Event.evictions world.log + Event.total Event.withdrawals world.log =
      Event.total Event.entries world.log
  calls : calls.length =
    Event.total Event.handovers world.log + Round.total Report.handed rounds
  failures : Event.total Event.failures world.log + Round.total Report.failed rounds =
    Event.total Event.drops world.log + Event.total Event.passes world.log

namespace Balanced

theorem start (peers : σ) (settings : LifetimeSettings) :
    Balanced [] [] (⟨Stores.empty, peers, settings.setUpLog⟩ : World σ) := by
  unfold LifetimeSettings.setUpLog
  split
  · exact ⟨rfl, rfl, rfl, rfl⟩
  · exact ⟨rfl, rfl, rfl, rfl⟩

variable (h : Balanced rounds calls world)

include h

theorem of_same {stores : Stores} (same : stores.Same world.stores) :
    Balanced rounds calls { world with stores } where
  attached := same.size_registry ▸ h.attached
  memberships := same.memberships ▸ h.memberships
  calls := h.calls
  failures := h.failures

theorem noted {stores : Stores} {event : Event} {others : List Round} {made : List Call}
    (hattached : stores.registry.size + event.departures + event.clearances =
      world.stores.registry.size + event.arrivals)
    (hmemberships : stores.groups.memberships + event.exits + event.evictions +
      event.withdrawals = world.stores.groups.memberships + event.entries)
    (hcalls : made.length + Round.total Report.handed rounds =
      calls.length + event.handovers + Round.total Report.handed others)
    (hfailures : event.failures + Round.total Report.failed others =
      event.drops + event.passes + Round.total Report.failed rounds) :
    Balanced others made (World.note { world with stores } event) := by
  obtain ⟨hsize, hmembers, hmade, hfailed⟩ := h
  constructor
  · simp only [World.note, Event.total_concat]
    omega
  · simp only [World.note, Event.total_concat]
    omega
  · simp only [World.note, Event.total_concat]
    omega
  · simp only [World.note, Event.total_concat]
    omega

theorem entry {stores : Stores} {event : Event} (unvoiced : event.Unvoiced)
    (hattached : stores.registry.size + event.departures + event.clearances =
      world.stores.registry.size + event.arrivals)
    (hmemberships : stores.groups.memberships + event.exits + event.evictions +
      event.withdrawals = world.stores.groups.memberships + event.entries) :
    Balanced rounds calls (World.note { world with stores } event) := by
  obtain ⟨hhandovers, hfails, hdrops, hpasses⟩ := unvoiced
  apply h.noted hattached hmemberships
  · rw [hhandovers, Nat.add_zero]
  · rw [hfails, hdrops, hpasses]

theorem register (connection : Connection) :
    Balanced rounds calls (world.register connection) := by
  apply h.entry ⟨rfl, rfl, rfl, rfl⟩
  · have hsize := world.stores.registry.size_attach connection
    simp only [Event.arrivals, Event.departures, Event.clearances]
    split at hsize
    · simp_all
    · simp_all
  · rfl

theorem unregister (id : ConnectionId) : Balanced rounds calls (world.unregister id).2 := by
  have hsize := world.stores.registry.size_detach id
  unfold World.unregister
  simp only
  split
  · rename_i hcontains
    rw [if_pos hcontains] at hsize
    exact h.entry ⟨rfl, rfl, rfl, rfl⟩ hsize rfl
  · exact h

theorem join (group : String) (id : ConnectionId) :
    Balanced rounds calls (world.join group id).2 := by
  unfold World.join
  simp only
  split
  · exact h.entry ⟨rfl, rfl, rfl, rfl⟩ rfl rfl
  · rename_i connection _
    apply h.entry ⟨rfl, rfl, rfl, rfl⟩ rfl
    have hsize := world.stores.groups.memberships_join group connection
    simp only [Event.entries, Event.exits, Event.evictions, Event.withdrawals]
    split at hsize
    · simp_all
    · simp_all

theorem leave (group : String) (id : ConnectionId) :
    Balanced rounds calls (world.leave group id).2 := by
  have hsize := world.stores.groups.memberships_leave group id
  unfold World.leave
  simp only
  split
  · rename_i hcontains
    rw [if_pos hcontains] at hsize
    exact h.entry ⟨rfl, rfl, rfl, rfl⟩ rfl hsize
  · exact h

theorem evict (group : String) (connection : Connection) :
    Balanced rounds calls (world.evict group connection).2 := by
  have hsize := world.stores.groups.memberships_evict group connection
  unfold World.evict
  simp only
  split
  · rename_i hholds
    rw [if_pos hholds] at hsize
    exact h.entry ⟨rfl, rfl, rfl, rfl⟩ rfl hsize
  · exact h

theorem leaveAll (connection : Connection) :
    Balanced rounds calls (world.leaveAll connection).2 := by
  unfold World.leaveAll
  simp only
  split
  · exact h.entry ⟨rfl, rfl, rfl, rfl⟩ rfl
      (world.stores.groups.memberships_leaveAll connection)
  · exact h

theorem pruneGroups : Balanced rounds calls world.pruneGroups.2 := by
  unfold World.pruneGroups
  simp only
  split
  · exact h.entry ⟨rfl, rfl, rfl, rfl⟩ rfl world.stores.groups.memberships_prune
  · exact h

theorem removeClosed (network : Network σ) :
    Balanced rounds calls (world.removeClosed network).2 := by
  unfold World.removeClosed
  simp only [Registry.detachEach_idsOf]
  split
  · exact h
  · exact h.entry ⟨rfl, rfl, rfl, rfl⟩ (world.stores.registry.size_detachAll _) rfl

theorem leaveAllEach (gone : List Connection) :
    Balanced rounds calls
      (gone.foldl (fun world connection => (world.leaveAll connection).2) world) :=
  List.foldlRecOn gone _ h fun _ hworld connection _ => hworld.leaveAll connection

theorem perform (network : Network σ) (cleanup : Cleanup) {operation : Operation}
    (hquiet : operation.round world.stores = none) (hown : operation.isFanOut = false) :
    Balanced rounds calls (world.perform network cleanup operation).2 := by
  cases operation with
  | connect connection => exact h.register connection
  | disconnect connection =>
      change Balanced rounds calls (world.disconnect cleanup connection)
      unfold World.disconnect
      simp only
      split
      · exact (h.unregister connection.id).leaveAll connection
      · exact h.unregister connection.id
  | invokeAll invocation excluded => cases hquiet
  | invokeClient id invocation =>
      have hnone : world.stores.registry.get? id = none := Option.map_eq_none_iff.mp hquiet
      change Balanced rounds calls (world.invokeClient network id invocation)
      unfold World.invokeClient
      rw [hnone]
      exact h.entry ⟨rfl, rfl, rfl, rfl⟩ rfl rfl
  | invokeGroup group invocation excluded => cases hquiet
  | addToGroup group id => exact h.join group id
  | removeFromGroup group id => exact h.leave group id
  | pruneGroups => exact h.pruneGroups
  | sweep =>
      change Balanced rounds calls (world.sweep network cleanup).2
      unfold World.sweep
      simp only
      split
      · exact (h.removeClosed network).leaveAllEach _
      · exact h.removeClosed network
  | fanOut recipients invocation excluded => cases hown
  | register connection => exact h.register connection
  | unregister id => exact h.unregister id
  | removeClosed => exact h.removeClosed network
  | join group id => exact h.join group id
  | leave group id => exact h.leave group id
  | evict group connection => exact h.evict group connection
  | leaveAll connection => exact h.leaveAll connection
  | _ => exact h

end Balanced

namespace Balanced

variable {round : Round}

theorem enter (h : Balanced rounds calls world) (hreport : round.report = .empty) :
    Balanced (round :: rounds) calls world where
  attached := h.attached
  memberships := h.memberships
  calls := by
    rw [Round.total_cons, hreport]
    exact h.calls.trans (congrArg _ (Nat.zero_add _).symm)
  failures := by
    rw [Round.total_cons, hreport]
    exact (congrArg _ (Nat.zero_add _)).trans h.failures

/-- A connection is left out or called. What it answers is counted in the round, and a refusal is
logged. -/
theorem visit (h : Balanced (round :: rounds) calls world) {connection : Connection}
    {answer : Answer} {report : Report} {visited : World σ}
    (visits : World.visit (Network.answering answer) round.invocation round.excluded
      (round.report, world) connection = (report, visited)) (waiting : List Connection) :
    Balanced ({ round with waiting, report } :: rounds)
      (calls ++ round.callsOf connection answer) visited := by
  by_cases hexcluded : connection.id ∈ round.excluded
  · rw [World.visit_excluded _ _ _ hexcluded] at visits
    cases visits
    simp only [Round.callsOf, hexcluded, if_true, List.append_nil]
    exact ⟨h.attached, h.memberships, h.calls, h.failures⟩
  · rw [World.visit_answering _ _ hexcluded] at visits
    simp only [Round.callsOf, hexcluded, if_false]
    rcases answer with _ | _ | _
    · cases visits
      refine ⟨h.attached, h.memberships, ?_, h.failures⟩
      have hcalls := h.calls
      simp only [Round.total_cons, Report.handed, Report.failed, List.length_append,
        List.length_singleton] at hcalls ⊢
      omega
    · cases visits
      apply h.noted rfl rfl
      · simp only [Round.total_cons, Report.handed, Report.failed, List.length_append,
          List.length_singleton, Event.handovers]
        omega
      · simp only [Round.total_cons, Report.failed, List.length_append, List.length_singleton,
          Event.failures, Event.drops, Event.passes]
        omega
    · cases visits
      apply h.noted rfl rfl
      · simp only [Round.total_cons, Report.handed, Report.failed, List.length_append,
          List.length_singleton, Event.handovers]
        omega
      · simp only [Round.total_cons, Report.failed, Event.failures, Event.drops, Event.passes]
        omega

theorem conclude (h : Balanced (round :: rounds) calls world) (cleanup : Cleanup) :
    Balanced rounds calls (round.conclude cleanup world) := by
  have hnoted : Balanced rounds calls
      (world.noteReport round.invocation.target round.group round.report) := by
    apply h.noted rfl rfl
    · rw [Round.total_cons, Report.handed, Event.handovers]
      omega
    · rw [Round.total_cons]
      simp only [Event.failures, Event.drops, Event.passes]
      omega
  unfold Round.conclude
  generalize round.group = place at hnoted
  cases place with
  | none => exact hnoted
  | some group =>
      simp only
      split
      · exact List.foldlRecOn round.report.closed _ hnoted fun _ hworld connection _ =>
          hworld.evict group connection
      · exact hnoted

end Balanced

theorem Journal.balanced (h : Journal network settings rounds calls world) :
    Balanced rounds calls world := by
  induction h with
  | start peers => exact Balanced.start peers settings
  | perform _ operation quiet own ih => exact ih.perform network settings.cleanup quiet own
  | enter _ operation begins ih => exact ih.enter (Operation.report_of_round begins)
  | visit _ next answer visits ih => exact ih.visit visits _
  | conclude _ done ih => exact ih.conclude settings.cleanup
  | stir _ peers ih => exact ⟨ih.attached, ih.memberships, ih.calls, ih.failures⟩
  | relist _ same ih => exact ih.of_same same

end

/-- What a new hub logs in any run of its operations accounts for what it keeps and for the calls that
it has made, also where operations begin inside others. As many connections are attached as were
registered under a new identifier, without those that were unregistered or removed as closed. There are
as many memberships as were added, without those that were given up, one by one or in all groups at
once, or evicted. Every call is counted in the report of its invocation, and every failed one is logged
by itself. -/
theorem log_accounts_for_stores {σ : Type} (network : Network σ) (settings : LifetimeSettings) :
    (∀ peers operations, (∀ operation ∈ operations, operation.isFanOut = false) →
      let start : World σ := ⟨Stores.empty, peers, settings.setUpLog⟩
      Journal network settings [] (start.runCalls network settings.cleanup operations)
        (start.run network settings.cleanup operations).2) ∧
    ∀ calls world, Journal network settings [] calls world →
      world.stores.registry.size + Event.total Event.departures world.log +
          Event.total Event.clearances world.log =
        Event.total Event.arrivals world.log ∧
      world.stores.groups.memberships + Event.total Event.exits world.log +
          Event.total Event.evictions world.log + Event.total Event.withdrawals world.log =
        Event.total Event.entries world.log ∧
      calls.length = Event.total Event.handovers world.log ∧
      Event.total Event.failures world.log =
        Event.total Event.drops world.log + Event.total Event.passes world.log := by
  constructor
  · intro peers operations hown start
    exact (Journal.start peers).of_run hown
  · intro calls world hjournal
    obtain ⟨hattached, hmemberships, hcalls, hfailures⟩ := hjournal.balanced
    exact ⟨hattached, hmemberships, hcalls, hfailures⟩

/-- A member of a room comes back as another connection while it is handed an invocation of the room.
Meanwhile everyone is invoked, and the new connection has no place for that. The old connection turns out
to be closed and is evicted: one connection is attached, no membership is left, and both calls failed. -/
theorem log_accounts_for_nested_return :
    let settings : LifetimeSettings := { buffer := 0, cleanup := .lazy }
    let old : Connection := ⟨0, ⟨"client"⟩⟩
    let new : Connection := ⟨1, ⟨"client"⟩⟩
    let hello : Invocation := ⟨"hello", []⟩
    let opening : List Operation := [.connect old, .addToGroup "room" old.id]
    let start : World Peers := ⟨Stores.empty, Peers.empty, settings.setUpLog⟩
    let entered := (start.run Peers.network settings.cleanup opening).2
    let returned := (entered.perform Peers.network settings.cleanup (.connect new)).2
    let invoked := (returned.note (.dropped new.id "hello")).noteReport "hello" none ⟨0, 0, 1, []⟩
    let passed := invoked.note (.passedOver old.id "hello")
    let world := ((passed.noteReport "hello" (some "room") ⟨0, 0, 0, [old]⟩).evict "room" old).2
    let calls : List Call := [⟨new, hello, .refused .full⟩, ⟨old, hello, .refused .closed⟩]
    (∀ operation ∈ opening, operation.isFanOut = false) ∧
      Journal Peers.network settings [] calls world ∧
      world.stores.registry.size + Event.total Event.departures world.log +
        Event.total Event.clearances world.log = Event.total Event.arrivals world.log ∧
      world.stores.groups.memberships + Event.total Event.exits world.log +
        Event.total Event.evictions world.log + Event.total Event.withdrawals world.log =
          Event.total Event.entries world.log ∧
      calls.length = Event.total Event.handovers world.log ∧
      Event.total Event.failures world.log =
        Event.total Event.drops world.log + Event.total Event.passes world.log ∧
      world.stores.registry.size = 1 ∧ Event.total Event.evictions world.log = 1 ∧
      Event.total Event.failures world.log = 2 := by
  intro settings old new hello opening start entered returned invoked passed world calls
  have hown : ∀ operation ∈ opening, operation.isFanOut = false := by
    simp [opening, Operation.isFanOut]
  obtain ⟨hruns, haccounts⟩ := log_accounts_for_stores Peers.network settings
  have hentered : Journal Peers.network settings [] [] entered := hruns Peers.empty opening hown
  have hreturned :=
    (hentered.enter (.invokeGroup "room" hello []) rfl).perform (.connect new) rfl rfl
  have hinvoked : Journal Peers.network settings _ _ invoked :=
    ((hreturned.enter (.invokeAll hello []) rfl).visit rfl (.refused .full) rfl).conclude rfl
  have hworld : Journal Peers.network settings [] calls world :=
    (hinvoked.visit rfl (.refused .closed) rfl).conclude rfl
  obtain ⟨hattached, hmemberships, hcalls, hfailures⟩ := haccounts calls world hworld
  exact ⟨hown, hworld, hattached, hmemberships, hcalls, hfailures, by decide, by decide, by decide⟩

end Switchboard
