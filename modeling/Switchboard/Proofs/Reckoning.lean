import Switchboard.Peer
import Switchboard.Proofs.Reachable

namespace Switchboard

theorem Call.length_eq_tallies (calls : List Call) :
    calls.length =
      tally calls .accepted + tally calls (.refused .full) + (closed calls).length := by
  induction calls with
  | nil => rfl
  | cons call rest ih =>
      rw [← List.singleton_append, tally_append, tally_append, closed_append, List.length_append,
        List.length_append, tally_singleton, tally_singleton, closed_singleton]
      rcases hanswer : call.answer with _ | _ | _
      · simp
        omega
      · simp
        omega
      · simp
        omega

namespace World

variable {σ : Type}

/-- A world whose connections keep a record of the calls made of them besides. -/
def watched (world : World σ) (record : List Call) : World (σ × List Call) :=
  ⟨world.stores, (world.peers, record), world.log⟩

theorem grant_watched (world : World σ) (record : List Call) (request : Request) :
    (world.watched record).grant request = (world.grant request).watched record := by
  cases request with
  | register connection => rfl
  | unregister id =>
      change ((world.watched record).unregister id).2 = (world.unregister id).2.watched record
      unfold unregister watched
      simp only
      split
      · rfl
      · rfl
  | leave group id =>
      change ((world.watched record).leave group id).2 = (world.leave group id).2.watched record
      unfold leave watched
      simp only
      split
      · rfl
      · rfl
  | join group id =>
      change ((world.watched record).join group id).2 = (world.join group id).2.watched record
      unfold join watched
      simp only
      split
      · rfl
      · rfl

theorem grantAll_watched (world : World σ) (record : List Call) (requests : List Request) :
    (world.watched record).grantAll requests = (world.grantAll requests).watched record := by
  unfold grantAll
  induction requests generalizing world with
  | nil => rfl
  | cons request rest ih => rw [List.foldl_cons, List.foldl_cons, grant_watched, ih]

variable (network : Network σ) (invocation : Invocation) (excluded : List ConnectionId)

theorem hand_watched (world : World σ) (record : List Call) (connection : Connection) :
    (world.watched record).hand network.recorded invocation connection =
      ((world.hand network invocation connection).1,
        (world.hand network invocation connection).2.watched
          (record ++ [network.call invocation world.state connection])) := by
  let attempt := network.send connection invocation world.stores world.peers
  exact congrArg (Prod.mk attempt.answer) (grantAll_watched { world with peers := attempt.peers }
    (record ++ [network.call invocation world.state connection]) attempt.requests)

/-- One step of a fan-out makes one call if the recipient is not excluded, and none if it is. -/
theorem visit_watched (report : Report) (world : World σ) (record : List Call)
    (connection : Connection) :
    let (reported, after) := visit network invocation excluded (report, world) connection
    visit network.recorded invocation excluded (report, world.watched record) connection =
      (reported, after.watched (record ++
        if connection.id ∈ excluded then [] else [network.call invocation world.state connection])) := by
  by_cases h : connection.id ∈ excluded
  · simp [visit_excluded, h]
  · unfold visit
    simp only [h, if_false, hand_watched]
    rcases world.hand network invocation connection with ⟨_ | _ | _, after⟩
    · rfl
    · rfl
    · rfl

theorem foldl_visit_watched (recipients : List Connection) (report : Report) (world : World σ)
    (record : List Call) :
    let (reported, after) :=
      recipients.foldl (visit network invocation excluded) (report, world)
    recipients.foldl (visit network.recorded invocation excluded) (report, world.watched record) =
      (reported, after.watched (record ++ network.calls invocation
        (recipients.filter fun connection => connection.id ∉ excluded) world.state)) := by
  induction recipients generalizing report world record with
  | nil => simp [Network.calls]
  | cons connection rest ih =>
      have hstep := visit_watched network invocation excluded report world record connection
      rw [List.foldl_cons, List.foldl_cons]
      by_cases h : connection.id ∈ excluded
      · rw [visit_excluded network invocation excluded h] at hstep ⊢
        simp only [h, if_true, List.append_nil] at hstep
        rw [hstep]
        simpa [h] using ih _ world record
      · have hstate := state_visit network invocation excluded h report world
        generalize visit network invocation excluded (report, world) connection = next
          at hstate hstep ⊢
        obtain ⟨reported, after⟩ := next
        simp only at hstate
        simp only [h, if_false] at hstep
        rw [hstep]
        have hrest := ih reported after (record ++ [network.call invocation world.state connection])
        simpa [h, Network.calls, hstate] using hrest

end World

open World

/-- A fan-out accounts for every recipient. It makes one call for each time that a recipient is listed
who is not excluded, in the order of the list and with the one invocation, whatever was answered before;
each call is answered as the calls before it have left the hub and the connections. The report counts the
answers, lists those that were closed in order, and counts the recipients that were excluded, so that
nobody is left out. A record that is kept of the calls changes nothing. -/
theorem fanOut_accounts_for_recipients {σ : Type} (network : Network σ)
    (recipients : List Connection) (invocation : Invocation) (excluded : List ConnectionId)
    (world : World σ) :
    let report := (world.fanOut network recipients invocation excluded).1
    let after := (world.fanOut network recipients invocation excluded).2
    let addressed := recipients.filter fun connection => connection.id ∉ excluded
    let calls := network.calls invocation addressed world.state
    world.recorded.fanOut network.recorded recipients invocation excluded =
        (report, after.watched calls) ∧
      calls.map Call.connection = addressed ∧
      (∀ call ∈ calls, call.invocation = invocation) ∧
      after.state = addressed.foldl (network.exchange invocation) world.state ∧
      report.sent = calls.countP (fun call => call.answer = .accepted) ∧
      report.full = calls.countP (fun call => call.answer = .refused .full) ∧
      report.closed =
        (calls.filter fun call => call.answer = .refused .closed).map Call.connection ∧
      report.skipped = recipients.countP (fun connection => connection.id ∈ excluded) ∧
      report.sent + report.skipped + report.failed = recipients.length := by
  intro report after addressed calls
  have hreport := report_fanOut network invocation excluded recipients world
  have hsent : report.sent = Call.tally calls .accepted := congrArg Report.sent hreport
  have hfull : report.full = Call.tally calls (.refused .full) := congrArg Report.full hreport
  have hclosed : report.closed = Call.closed calls := congrArg Report.closed hreport
  have hskipped : report.skipped =
      recipients.countP (fun connection => connection.id ∈ excluded) :=
    congrArg Report.skipped hreport
  have hcalled : calls.map Call.connection = addressed :=
    network.map_connection_calls invocation addressed world.state
  have htotal : report.sent + report.skipped + report.failed = recipients.length := by
    have hanswered := Call.length_eq_tallies calls
    have haddressed : calls.length =
        recipients.countP (fun connection => connection.id ∉ excluded) := by
      rw [List.countP_eq_length_filter, ← List.length_map Call.connection, hcalled]
    have hlisted := recipients.length_eq_countP_add_countP fun connection =>
      decide (connection.id ∈ excluded)
    simp only [decide_eq_true_eq] at hlisted
    rw [Report.failed, hsent, hfull, hclosed, hskipped]
    omega
  exact ⟨foldl_visit_watched network invocation excluded recipients .empty world [], hcalled,
    fun call => network.invocation_of_mem_calls invocation,
    state_fanOut network invocation excluded recipients world, hsent, hfull, hclosed, hskipped, htotal⟩

/-- Two connections put into one queue of a single place, and the first is listed twice. -/
example :
    let first : Connection := ⟨0, ⟨"first"⟩⟩
    let second : Connection := ⟨1, ⟨"second"⟩⟩
    let gone : Connection := ⟨2, ⟨"gone"⟩⟩
    let guest : Connection := ⟨3, ⟨"guest"⟩⟩
    let queue := (Peers.empty.setMailbox 0 ⟨1, [], .listening⟩).set first (.channel 0 true 0 0)
    let peers := (queue.addSharing second 0).addScripted gone [] (.refused .closed)
    ((World.fresh peers).fanOut Peers.network [guest, gone, first, second, first] ⟨"hello", []⟩
      [guest.id]).1 = ⟨1, 1, 2, [gone]⟩ := by
  decide

end Switchboard
