import Switchboard.Proofs.Upkeep

/-!
A fan-out as the calls it makes of the connections. The recipients are settled beforehand; each call
works on what the calls before it have left of the stores and of the connections.
-/

namespace Switchboard

/-- One hand-over of an invocation to a connection, with the answer. -/
structure Call where
  connection : Connection
  invocation : Invocation
  answer : Answer

namespace Call

def closed (calls : List Call) : List Connection :=
  (calls.filter fun call => call.answer = .refused .closed).map connection

theorem mem_closed_iff {calls : List Call} {gone : Connection} :
    gone ∈ closed calls ↔
      ∃ call ∈ calls, call.connection = gone ∧ call.answer = .refused .closed := by
  unfold closed
  rw [List.mem_map]
  constructor
  · rintro ⟨call, hcall, hgone⟩
    rw [List.mem_filter] at hcall
    exact ⟨call, hcall.1, hgone, of_decide_eq_true hcall.2⟩
  · rintro ⟨call, hcall, hgone, hanswer⟩
    exact ⟨call, List.mem_filter.mpr ⟨hcall, decide_eq_true hanswer⟩, hgone⟩

def tally (calls : List Call) (answer : Answer) : Nat :=
  calls.countP fun call => call.answer = answer

theorem closed_singleton (call : Call) :
    closed [call] = if call.answer = .refused .closed then [call.connection] else [] := by
  by_cases h : call.answer = .refused .closed
  · simp [closed, h]
  · simp [closed, h]

theorem tally_singleton (call : Call) (answer : Answer) :
    tally [call] answer = if call.answer = answer then 1 else 0 := by
  by_cases h : call.answer = answer
  · simp [tally, h]
  · simp [tally, h]

theorem closed_append (calls more : List Call) :
    closed (calls ++ more) = closed calls ++ closed more := by
  simp [closed]

theorem tally_append (calls more : List Call) (answer : Answer) :
    tally (calls ++ more) answer = tally calls answer + tally more answer := by
  simp [tally]

end Call

namespace Report

def extend (report : Report) (skipped : Nat) (calls : List Call) : Report :=
  ⟨report.sent + Call.tally calls .accepted, report.skipped + skipped,
    report.full + Call.tally calls (.refused .full), report.closed ++ Call.closed calls⟩

theorem extend_nil (report : Report) : report.extend 0 [] = report := by
  simp [extend, Call.tally, Call.closed]

theorem extend_extend (report : Report) (skipped more : Nat) (calls others : List Call) :
    (report.extend skipped calls).extend more others =
      report.extend (skipped + more) (calls ++ others) := by
  simp [extend, Call.tally_append, Call.closed_append, Nat.add_assoc]

end Report

namespace Network

variable {σ : Type} (network : Network σ) (invocation : Invocation)

/-- Hands an invocation to a connection: the connection takes or refuses it, and what it asks of the
hub meanwhile is done. -/
def exchange (state : Stores × σ) (connection : Connection) : Stores × σ :=
  let attempt := network.send connection invocation state.1 state.2
  (attempt.requests.foldl Stores.grant state.1, attempt.peers)

def call (state : Stores × σ) (connection : Connection) : Call :=
  ⟨connection, invocation, (network.send connection invocation state.1 state.2).answer⟩

def calls : List Connection → Stores × σ → List Call
  | [], _ => []
  | connection :: rest, state =>
      network.call invocation state connection ::
        calls rest (network.exchange invocation state connection)

theorem map_connection_calls (order : List Connection) (state : Stores × σ) :
    (network.calls invocation order state).map Call.connection = order := by
  induction order generalizing state with
  | nil => rfl
  | cons connection rest ih =>
      rw [calls, List.map_cons, ih]
      rfl

theorem invocation_of_mem_calls {order : List Connection} {state : Stores × σ} {call : Call}
    (h : call ∈ network.calls invocation order state) : call.invocation = invocation := by
  induction order generalizing state with
  | nil => exact absurd h List.not_mem_nil
  | cons connection rest ih =>
      rcases List.mem_cons.mp h with rfl | hrest
      · rfl
      · exact ih hrest

theorem sound_exchange {state : Stores × σ} (h : state.1.Sound) (connection : Connection) :
    (network.exchange invocation state connection).1.Sound :=
  h.foldl (fun _ request hsound => hsound.grant request) _

theorem sound_foldl_exchange {state : Stores × σ} (h : state.1.Sound) (order : List Connection) :
    (order.foldl (network.exchange invocation) state).1.Sound := by
  induction order generalizing state with
  | nil => exact h
  | cons connection rest ih => exact ih (network.sound_exchange invocation h connection)

/-- The same connections, which also keep the calls made of them. -/
def recorded : Network (σ × List Call) where
  send connection invocation stores peers :=
    let attempt := network.send connection invocation stores peers.1
    ⟨(attempt.peers, peers.2 ++ [⟨connection, invocation, attempt.answer⟩]),
      attempt.requests, attempt.answer⟩
  isClosed connection peers := network.isClosed connection peers.1

theorem foldl_exchange_recorded (order : List Connection) (stores : Stores) (peers : σ)
    (record : List Call) :
    order.foldl (network.recorded.exchange invocation) (stores, (peers, record)) =
      ((order.foldl (network.exchange invocation) (stores, peers)).1,
        ((order.foldl (network.exchange invocation) (stores, peers)).2,
          record ++ network.calls invocation order (stores, peers))) := by
  induction order generalizing stores peers record with
  | nil => simp [calls]
  | cons connection rest ih =>
      rw [List.foldl_cons, List.foldl_cons, calls]
      change rest.foldl (network.recorded.exchange invocation)
        ((network.exchange invocation (stores, peers) connection).1,
          ((network.exchange invocation (stores, peers) connection).2,
            record ++ [network.call invocation (stores, peers) connection])) = _
      rw [ih, List.append_assoc]
      rfl

end Network

namespace World

variable {σ : Type} (network : Network σ) (invocation : Invocation)
  (excluded : List ConnectionId)

theorem state_hand (world : World σ) (connection : Connection) :
    (world.hand network invocation connection).2.state =
      network.exchange invocation world.state connection := by
  unfold hand
  simp only
  rw [state_grantAll]
  rfl

theorem answer_hand (world : World σ) (connection : Connection) :
    (world.hand network invocation connection).1 =
      (network.call invocation world.state connection).answer := rfl

theorem visit_excluded {connection : Connection} (h : connection.id ∈ excluded)
    (report : Report) (world : World σ) :
    visit network invocation excluded (report, world) connection =
      ({ report with skipped := report.skipped + 1 }, world) := by
  unfold visit
  simp [h]

theorem state_visit {connection : Connection} (h : connection.id ∉ excluded)
    (report : Report) (world : World σ) :
    (visit network invocation excluded (report, world) connection).2.state =
      network.exchange invocation world.state connection := by
  rw [← state_hand]
  unfold visit
  simp only [h, if_false]
  split
  · rename_i heq
    rw [heq]
  · rename_i heq
    rw [heq]
    rfl
  · rename_i heq
    rw [heq]
    rfl

theorem report_visit {connection : Connection} (h : connection.id ∉ excluded)
    (report : Report) (world : World σ) :
    (visit network invocation excluded (report, world) connection).1 =
      report.extend 0 [network.call invocation world.state connection] := by
  have hanswer := answer_hand network invocation world connection
  have hconnection : (network.call invocation world.state connection).connection = connection :=
    rfl
  unfold Report.extend
  simp only [Call.tally_singleton, Call.closed_singleton, hconnection, ← hanswer]
  unfold visit
  simp only [h, if_false]
  split
  all_goals
    rename_i heq
    simp [heq]

theorem state_foldl_visit (recipients : List Connection) (report : Report) (world : World σ) :
    (recipients.foldl (visit network invocation excluded) (report, world)).2.state =
      (recipients.filter fun connection => connection.id ∉ excluded).foldl
        (network.exchange invocation) world.state := by
  induction recipients generalizing report world with
  | nil => rfl
  | cons connection rest ih =>
      rw [List.foldl_cons]
      by_cases h : connection.id ∈ excluded
      · rw [visit_excluded network invocation excluded h, ih]
        simp [h]
      · have hstate := state_visit network invocation excluded h report world
        generalize visit network invocation excluded (report, world) connection = next at hstate ⊢
        obtain ⟨report', world'⟩ := next
        rw [ih, hstate]
        simp [h]

theorem report_foldl_visit (recipients : List Connection) (report : Report) (world : World σ) :
    (recipients.foldl (visit network invocation excluded) (report, world)).1 =
      report.extend (recipients.countP fun connection => connection.id ∈ excluded)
        (network.calls invocation
          (recipients.filter fun connection => connection.id ∉ excluded) world.state) := by
  induction recipients generalizing report world with
  | nil => exact report.extend_nil.symm
  | cons connection rest ih =>
      rw [List.foldl_cons]
      by_cases h : connection.id ∈ excluded
      · rw [visit_excluded network invocation excluded h, ih]
        simp [h, Report.extend]
        omega
      · have hstate := state_visit network invocation excluded h report world
        have hreport := report_visit network invocation excluded h report world
        generalize visit network invocation excluded (report, world) connection = next
          at hstate hreport ⊢
        obtain ⟨report', world'⟩ := next
        simp only at hstate hreport
        rw [ih, hstate, hreport, Report.extend_extend]
        simp [h, Network.calls]

theorem state_fanOut (recipients : List Connection) (world : World σ) :
    (world.fanOut network recipients invocation excluded).2.state =
      (recipients.filter fun connection => connection.id ∉ excluded).foldl
        (network.exchange invocation) world.state :=
  state_foldl_visit network invocation excluded recipients .empty world

theorem report_fanOut (recipients : List Connection) (world : World σ) :
    let calls := network.calls invocation
      (recipients.filter fun connection => connection.id ∉ excluded) world.state
    (world.fanOut network recipients invocation excluded).1 =
      ⟨Call.tally calls .accepted, recipients.countP fun connection => connection.id ∈ excluded,
        Call.tally calls (.refused .full), Call.closed calls⟩ := by
  refine (report_foldl_visit network invocation excluded recipients .empty world).trans ?_
  simp [Report.extend, Report.empty]

theorem closed_fanOut (recipients : List Connection) (world : World σ) :
    (world.fanOut network recipients invocation excluded).1.closed =
      Call.closed (network.calls invocation
        (recipients.filter fun connection => connection.id ∉ excluded) world.state) :=
  congrArg Report.closed (report_fanOut network invocation excluded recipients world)

end World

end Switchboard
