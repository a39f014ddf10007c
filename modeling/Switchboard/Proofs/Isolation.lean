import Switchboard.Proofs.Separation
import Switchboard.Proofs.Sequel
import Switchboard.Proofs.Share

namespace Switchboard

/-- A turn of a run: a command, or something that befalls one connection at its far end. -/
inductive Turn (τ : Type)
  | command (command : Command)
  | change (connection : Connection) (change : τ → τ)

/-- What has come of a turn: the calls that were made in it, and the world after it. -/
structure Stage (σ : Type) where
  calls : List Call
  world : World σ

def Deed.stage {σ : Type} (network : Network σ) (cleanup : Cleanup) (deed : Deed σ) : Stage σ :=
  ⟨deed.calls network cleanup, deed.after network cleanup⟩

/-- What a turn shows of one connection: what is held under its identifier, the calls that were made of
it, and what has become of its own part. -/
structure Sight (τ : Type) where
  share : Share
  calls : List Call
  part : τ

namespace Separation

variable {σ τ : Type} {network : Network σ} (parts : Separation network τ)

/-- What may happen of itself before a turn: the tables are listed anew in any order, and the connections
of one identifier, `wild`, change in any way. -/
structure Drift (wild : ConnectionId) (world next : World σ) : Prop where
  same : next.stores.Same world.stores
  separate : parts.separate next.peers
  part : ∀ connection, connection.id ≠ wild →
    parts.part next.peers connection = parts.part world.peers connection

/-- The stages of a run that starts in a world and takes its turns in order. -/
inductive Execution (cleanup : Cleanup) (wild : ConnectionId) :
    World σ → List (Turn τ) → List (Stage σ) → Prop
  | stop (world : World σ) : Execution cleanup wild world [] []
  | command {world next : World σ} {turns : List (Turn τ)} {stages : List (Stage σ)}
      (drift : parts.Drift wild world next) (command : Command)
      (rest : Execution cleanup wild (next.perform network cleanup command.operation).2 turns stages) :
      Execution cleanup wild world (.command command :: turns)
        (⟨next.calls network cleanup command.operation,
          (next.perform network cleanup command.operation).2⟩ :: stages)
  | change {world next : World σ} {peers : σ} {turns : List (Turn τ)} {stages : List (Stage σ)}
      (drift : parts.Drift wild world next) (connection : Connection) (change : τ → τ)
      (separate : parts.separate peers)
      (part : parts.part peers = Function.update (parts.part next.peers) connection
        (change (parts.part next.peers connection)))
      (rest : Execution cleanup wild { next with peers } turns stages) :
      Execution cleanup wild world (.change connection change :: turns)
        (⟨[], { next with peers }⟩ :: stages)

def sight (connection : Connection) (stage : Stage σ) : Sight τ :=
  ⟨stage.world.stores.share connection.id,
    stage.calls.filter fun call => call.connection = connection,
    parts.part stage.world.peers connection⟩

/-- Worlds that a hub may come to while the queues of the connections are separate. -/
structure Orderly (world : World σ) : Prop where
  sound : world.stores.Sound
  separate : parts.separate world.peers

variable {parts} {world next : World σ} (cleanup : Cleanup)

theorem Drift.refl (h : parts.separate world.peers) (wild : ConnectionId) :
    parts.Drift wild world world where
  same := ⟨fun _ => rfl, fun _ => rfl, fun _ _ => rfl⟩
  separate := h
  part _ _ := rfl

theorem Drift.trans {wild : ConnectionId} {last : World σ} (h : parts.Drift wild world next)
    (hlast : parts.Drift wild next last) : parts.Drift wild world last where
  same :=
    ⟨fun id => (hlast.same.attached id).trans (h.same.attached id),
      fun group => (hlast.same.names group).trans (h.same.names group),
      fun group id => (hlast.same.members group id).trans (h.same.members group id)⟩
  separate := hlast.separate
  part connection hid := (hlast.part connection hid).trans (h.part connection hid)

theorem Orderly.drift {wild : ConnectionId} (h : parts.Orderly world)
    (drift : parts.Drift wild world next) : parts.Orderly next where
  sound := h.sound.of_same drift.same
  separate := drift.separate

theorem Orderly.perform (h : parts.Orderly world) (command : Command) :
    parts.Orderly (world.perform network cleanup command.operation).2 where
  sound := World.sound_perform network cleanup h.sound command.operation
  separate := by
    rcases command.quiet_or_invoke with hquiet | ⟨audience, invocation, rfl⟩
    · rw [World.peers_of_quiet network cleanup world hquiet]
      exact h.separate
    · exact (invoke cleanup h.sound h.separate audience invocation).2.2.1

theorem Execution.of_drift {wild : ConnectionId} {turns : List (Turn τ)} {stages : List (Stage σ)}
    (h : parts.Execution cleanup wild next turns stages) (drift : parts.Drift wild world next) :
    parts.Execution cleanup wild world turns stages := by
  cases h with
  | stop _ => exact .stop world
  | command further command rest => exact .command (drift.trans further) command rest
  | change further connection change separate part rest =>
      exact .change (drift.trans further) connection change separate part rest

theorem Orderly.run (h : parts.Orderly world) (commands : List Command) :
    parts.Orderly (world.run network cleanup (commands.map Command.operation)).2 := by
  induction commands generalizing world with
  | nil => exact h
  | cons command rest ih => exact ih (h.perform cleanup command)

theorem Execution.of_commands (h : parts.Orderly world) {wild : ConnectionId}
    (commands : List Command) {turns : List (Turn τ)} {stages : List (Stage σ)}
    (rest : parts.Execution cleanup wild
      (world.run network cleanup (commands.map Command.operation)).2 turns stages) :
    parts.Execution cleanup wild world (commands.map Turn.command ++ turns)
      ((world.deeds network cleanup commands).map (Deed.stage network cleanup) ++ stages) := by
  induction commands generalizing world with
  | nil => exact rest
  | cons command later ih =>
      exact .command (.refl h.separate wild) command (ih (h.perform cleanup command) rest)

end Separation

theorem Audience.includes_congr {audience : Audience} {stores other : Stores} (h : stores.Sound)
    (hother : other.Sound) {connection : Connection}
    (hshare : stores.share connection.id = other.share connection.id) :
    audience.Includes stores connection ↔ audience.Includes other connection := by
  have hattached : stores.registry.get? connection.id = other.registry.get? connection.id :=
    congrArg Share.attached hshare
  cases audience with
  | everyone excluded =>
      unfold Includes
      simp only [hattached]
  | client id =>
      change stores.registry.get? id = some connection ↔ other.registry.get? id = some connection
      constructor
      · intro hget
        have hid : connection.id = id := h.registry id connection hget
        rw [← hid, ← hattached, hid]
        exact hget
      · intro hget
        have hid : connection.id = id := hother.registry id connection hget
        rw [← hid, hattached, hid]
        exact hget
  | members group excluded =>
      have hmember : stores.member group connection.id = other.member group connection.id :=
        congrFun (congrArg Share.member hshare) group
      unfold Includes
      simp only [hmember]

section

variable {σ σ' τ : Type} {network : Network σ} {network' : Network σ'}
  (parts : Separation network τ) (parts' : Separation network' τ)

/-- Two worlds show the same of all connections but those of one identifier. -/
structure Alike (wild : ConnectionId) (world : World σ) (other : World σ') : Prop where
  share : ∀ id, id ≠ wild → world.stores.share id = other.stores.share id
  part : ∀ connection, connection.id ≠ wild →
    parts.part world.peers connection = parts'.part other.peers connection

namespace Alike

variable {parts parts'} {wild : ConnectionId} {world next : World σ} {other next' : World σ'}
  (cleanup : Cleanup)

theorem drift (h : Alike parts parts' wild world other) (drift : parts.Drift wild world next)
    (drift' : parts'.Drift wild other next') : Alike parts parts' wild next next' where
  share id hid := by
    rw [drift.same.share, drift'.same.share]
    exact h.share id hid
  part connection hid := by
    rw [drift.part connection hid, drift'.part connection hid]
    exact h.part connection hid

theorem befall (h : Alike parts parts' wild world other) (connection : Connection) (change : τ → τ)
    {peers : σ} {peers' : σ'}
    (hpart : parts.part peers = Function.update (parts.part world.peers) connection
      (change (parts.part world.peers connection)))
    (hpart' : parts'.part peers' = Function.update (parts'.part other.peers) connection
      (change (parts'.part other.peers connection))) :
    Alike parts parts' wild { world with peers } { other with peers := peers' } where
  share := h.share
  part touched hid := by
    change parts.part peers touched = parts'.part peers' touched
    rw [hpart, hpart']
    rcases eq_or_ne touched connection with rfl | hne
    · rw [Function.update_self, Function.update_self, h.part touched hid]
    · rw [Function.update_of_ne hne, Function.update_of_ne hne]
      exact h.part touched hid

theorem sight_eq (h : Alike parts parts' wild world other) {connection : Connection}
    (hid : connection.id ≠ wild) {calls calls' : List Call}
    (hcalls : calls.filter (fun call => call.connection = connection) =
      calls'.filter fun call => call.connection = connection) :
    parts.sight connection ⟨calls, world⟩ = parts'.sight connection ⟨calls', other⟩ := by
  unfold Separation.sight
  rw [h.share connection.id hid, h.part connection hid, hcalls]

variable (h : Alike parts parts' wild world other) (hworld : parts.Orderly world)
  (hother : parts'.Orderly other)
  (hconduct : ∀ connection, connection.id ≠ wild →
    parts.conduct connection = parts'.conduct connection)

include h hworld hother

theorem mem_listed_iff (audience : Audience) {connection : Connection} (hid : connection.id ≠ wild) :
    connection ∈ audience.listed world.stores ↔ connection ∈ audience.listed other.stores := by
  rw [Audience.mem_listed_iff hworld.sound, Audience.mem_listed_iff hother.sound]
  exact Audience.includes_congr hworld.sound hother.sound (h.share connection.id hid)

include hconduct

theorem calls_eq (command : Command) {connection : Connection} (hid : connection.id ≠ wild) :
    (world.calls network cleanup command.operation).filter
        (fun call => call.connection = connection) =
      (other.calls network' cleanup command.operation).filter
        fun call => call.connection = connection := by
  rcases command.quiet_or_invoke with hquiet | ⟨audience, invocation, rfl⟩
  · rw [World.calls_of_quiet network cleanup world hquiet,
      World.calls_of_quiet network' cleanup other hquiet]
  · have hcalls : world.calls network cleanup (Command.invoke audience invocation).operation = _ :=
      (Separation.invoke cleanup hworld.sound hworld.separate audience invocation).1
    have hcalls' : other.calls network' cleanup (Command.invoke audience invocation).operation = _ :=
      (Separation.invoke cleanup hother.sound hother.separate audience invocation).1
    have hcall : parts.call invocation world.peers connection =
        parts'.call invocation other.peers connection := by
      unfold Separation.call
      rw [hconduct connection hid, h.part connection hid]
    rw [hcalls, hcalls',
      Separation.filter_map_call _ _ (Audience.nodup_listed hworld.sound audience),
      Separation.filter_map_call _ _ (Audience.nodup_listed hother.sound audience), hcall]
    simp only [h.mem_listed_iff hworld hother audience hid]

theorem isClosed_eq {connection : Connection} (hid : connection.id ≠ wild) :
    network.isClosed connection world.peers = network'.isClosed connection other.peers := by
  rw [parts.isClosed hworld.separate, parts'.isClosed hother.separate, hconduct connection hid,
    h.part connection hid]

theorem mem_closed_iff (audience : Audience) (invocation : Invocation) {connection : Connection}
    (hid : connection.id ≠ wild) :
    connection ∈ Call.closed (world.calls network cleanup (audience.operation invocation)) ↔
      connection ∈ Call.closed (other.calls network' cleanup (audience.operation invocation)) := by
  have hfilter := h.calls_eq cleanup hworld hother hconduct (.invoke audience invocation) hid
  have hmem : ∀ {calls : List Call}, connection ∈ Call.closed calls ↔
      ∃ call ∈ calls.filter (fun call => call.connection = connection),
        call.answer = .refused .closed := by
    intro calls
    rw [Call.mem_closed_iff]
    simp only [List.mem_filter, decide_eq_true_eq, and_assoc]
  rw [hmem, hmem]
  exact iff_of_eq (congrArg (fun calls : List Call => ∃ call ∈ calls, call.answer = _) hfilter)

theorem share_perform (command : Command) {id : ConnectionId} (hid : id ≠ wild) :
    (world.perform network cleanup command.operation).2.stores.share id =
      (other.perform network' cleanup command.operation).2.stores.share id := by
  cases hclient : command.client with
  | some client =>
      rw [share_client network cleanup hworld.sound hclient,
        share_client network' cleanup hother.sound hclient, h.share id hid]
  | none =>
      cases command with
      | connect connection => cases hclient
      | disconnect connection => cases hclient
      | addToGroup group client => cases hclient
      | removeFromGroup group client => cases hclient
      | invoke audience invocation =>
          change (world.perform network cleanup (audience.operation invocation)).2.stores.share id =
            (other.perform network' cleanup (audience.operation invocation)).2.stores.share id
          rw [(Separation.invoke cleanup hworld.sound hworld.separate audience invocation).2.1,
            (Separation.invoke cleanup hother.sound hother.separate audience invocation).2.1,
            share_settle cleanup hworld.sound, share_settle cleanup hother.sound, ← h.share id hid]
          apply Share.settle_congr
          intro group member hmember
          have hsame : member.id = id := hworld.sound.share_member hmember
          rw [decide_eq_decide]
          exact h.mem_closed_iff cleanup hworld hother hconduct audience invocation (hsame ▸ hid)
      | pruneGroups =>
          change world.pruneGroups.2.stores.share id = other.pruneGroups.2.stores.share id
          rw [World.stores_pruneGroups, World.stores_pruneGroups, Stores.share_prune,
            Stores.share_prune]
          exact h.share id hid
      | sweep =>
          change (world.sweep network cleanup).2.stores.share id =
            (other.sweep network' cleanup).2.stores.share id
          rw [share_sweep network cleanup hworld.sound, share_sweep network' cleanup hother.sound,
            ← h.share id hid]
          apply Share.sweep_congr
          intro connection hattached
          have hsame : connection.id = id := hworld.sound.share_attached hattached
          exact h.isClosed_eq hworld hother hconduct (hsame ▸ hid)

theorem part_perform (command : Command) {connection : Connection} (hid : connection.id ≠ wild) :
    parts.part (world.perform network cleanup command.operation).2.peers connection =
      parts'.part (other.perform network' cleanup command.operation).2.peers connection := by
  rcases command.quiet_or_invoke with hquiet | ⟨audience, invocation, rfl⟩
  · rw [World.peers_of_quiet network cleanup world hquiet,
      World.peers_of_quiet network' cleanup other hquiet]
    exact h.part connection hid
  · have hhanded : parts.handed invocation world.peers connection =
        parts'.handed invocation other.peers connection := by
      unfold Separation.handed
      rw [hconduct connection hid, h.part connection hid]
    change parts.part (world.perform network cleanup (audience.operation invocation)).2.peers
        connection =
      parts'.part (other.perform network' cleanup (audience.operation invocation)).2.peers connection
    rw [(Separation.invoke cleanup hworld.sound hworld.separate audience invocation).2.2.2,
      (Separation.invoke cleanup hother.sound hother.separate audience invocation).2.2.2, hhanded,
      h.part connection hid]
    simp only [h.mem_listed_iff hworld hother audience hid]

theorem perform (command : Command) :
    Alike parts parts' wild (world.perform network cleanup command.operation).2
      (other.perform network' cleanup command.operation).2 where
  share _ hid := h.share_perform cleanup hworld hother hconduct command hid
  part _ hid := h.part_perform cleanup hworld hother hconduct command hid

end Alike

variable {parts parts'}

theorem Separation.Execution.sights_eq {cleanup : Cleanup} {wild : ConnectionId}
    (hconduct : ∀ connection, connection.id ≠ wild →
      parts.conduct connection = parts'.conduct connection)
    {world : World σ} {other : World σ'} {turns : List (Turn τ)} {stages : List (Stage σ)}
    {stages' : List (Stage σ')} (hrun : parts.Execution cleanup wild world turns stages)
    (hrun' : parts'.Execution cleanup wild other turns stages')
    (h : Alike parts parts' wild world other) (hworld : parts.Orderly world)
    (hother : parts'.Orderly other) {connection : Connection} (hid : connection.id ≠ wild) :
    stages.map (parts.sight connection) = stages'.map (parts'.sight connection) := by
  -- The second execution takes the same turns, so the induction is on the first one, and the worlds of the
  -- two may drift apart in what the relation leaves out.
  induction hrun generalizing other stages' with
  | stop world =>
      cases hrun'
      rfl
  | @command world next turns stages drift command rest ih =>
      cases hrun' with
      | @command _ next' _ _ drift' _ rest' =>
          have hnext := hworld.drift drift
          have hnext' := hother.drift drift'
          have halike := h.drift drift drift'
          have hafter := halike.perform cleanup hnext hnext' hconduct command
          have hcalls := halike.calls_eq cleanup hnext hnext' hconduct command hid
          rw [List.map_cons, List.map_cons, hafter.sight_eq hid hcalls,
            ih rest' hafter (hnext.perform cleanup command) (hnext'.perform cleanup command)]
  | @change world next peers turns stages drift befallen change separate part rest ih =>
      cases hrun' with
      | @change _ next' peers' _ _ drift' _ _ separate' part' rest' =>
          have hnext := hworld.drift drift
          have hnext' := hother.drift drift'
          have hafter := (h.drift drift drift').befall befallen change part part'
          rw [List.map_cons, List.map_cons, hafter.sight_eq hid rfl,
            ih rest' hafter ⟨hnext.sound, separate⟩ ⟨hnext'.sound, separate'⟩]

/-- A run is executed twice, over connections with separate queues that behave alike in both executions,
except that those of one identifier answer in any way and are open or closed at any moment. After every
turn each other connection is attached and in groups alike in both, and it has been handed the same
invocations, has given the same answers and is in the same state. -/
theorem unaffected_by_connection {cleanup : Cleanup} {wild : ConnectionId}
    (hconduct : ∀ connection, connection.id ≠ wild →
      parts.conduct connection = parts'.conduct connection)
    {peers : σ} {peers' : σ'} (hseparate : parts.separate peers)
    (hseparate' : parts'.separate peers')
    (hpeers : ∀ connection, connection.id ≠ wild →
      parts.part peers connection = parts'.part peers' connection)
    {turns : List (Turn τ)} {stages : List (Stage σ)} {stages' : List (Stage σ')}
    (hrun : parts.Execution cleanup wild (World.fresh peers) turns stages)
    (hrun' : parts'.Execution cleanup wild (World.fresh peers') turns stages')
    {connection : Connection} (hid : connection.id ≠ wild) :
    stages.map (parts.sight connection) = stages'.map (parts'.sight connection) :=
  have halike : Alike parts parts' wild (World.fresh peers) (World.fresh peers') :=
    ⟨fun _ _ => rfl, hpeers⟩
  hrun.sights_eq hconduct hrun' halike ⟨Stores.Sound.empty, hseparate⟩
    ⟨Stores.Sound.empty, hseparate'⟩ hid

end

/-- Two connections are in a room. In one execution the first is closed by its far end before the room is
sent an invocation, so that it is evicted and swept away; in the other it stays. The second takes what
it is sent and is received from meanwhile. -/
theorem unaffected_by_closed_connection :
    let wild : Connection := ⟨0, ⟨"wild"⟩⟩
    let other : Connection := ⟨1, ⟨"other"⟩⟩
    let mailbox : Mailbox := ⟨1, [], .listening⟩
    let peers := (((Peers.empty.setMailbox 0 mailbox).setMailbox 1 mailbox).set wild
      (.channel 0 true 0 0)).set other (.channel 1 true 0 0)
    let start : World Peers := World.fresh peers
    let joins : List Command := [.connect wild, .connect other, .addToGroup "room" wild.id,
      .addToGroup "room" other.id]
    let before := (start.run Peers.network .lazy (joins.map Command.operation)).2
    let closed : World Peers := { before with peers := before.peers.close wild }
    let calls : List Command := [.invoke (.members "room" []) ⟨"hello", []⟩, .sweep]
    let last : List Command := [.invoke (.everyone []) ⟨"again", []⟩]
    let received : World Peers → World Peers := fun world =>
      { world with peers := (world.peers.receive other none).2 }
    let stages : World Peers → List (Stage Peers) := fun world =>
      let after := (world.run Peers.network .lazy (calls.map Command.operation)).2
      (start.deeds Peers.network .lazy joins).map (Deed.stage Peers.network .lazy) ++
        ((world.deeds Peers.network .lazy calls).map (Deed.stage Peers.network .lazy) ++
          ⟨[], received after⟩ ::
            ((received after).deeds Peers.network .lazy last).map (Deed.stage Peers.network .lazy))
    (stages before).map (Peers.separation.sight other) =
        (stages closed).map (Peers.separation.sight other) ∧
      (stages before).map (fun stage => stage.world.stores.registry.contains wild.id) =
        [true, true, true, true, true, true, true, true] ∧
      (stages closed).map (fun stage => stage.world.stores.registry.contains wild.id) =
        [true, true, true, true, true, false, false, false] ∧
      (stages closed).map (fun stage => stage.calls.map Call.connection) =
        [[], [], [], [], [wild, other], [], [], [other]] := by
  intro wild other mailbox peers start joins before closed calls last received stages
  have hseparate : peers.Separate := by
    refine (((Peers.Separate.empty.setMailbox 0 mailbox).setMailbox 1 mailbox).set ?_ rfl).set ?_ rfl
    · intro touched number _ hfound
      cases hfound
    · intro touched number _ hfound
      rw [Peers.peer_set] at hfound
      split at hfound
      · cases hfound
        decide
      · cases hfound
  have hstart : Peers.separation.Orderly start := ⟨Stores.Sound.empty, hseparate⟩
  have hbefore : Peers.separation.Orderly before := hstart.run .lazy joins
  have hwild : before.peers.peer wild = .channel 0 true 0 0 := rfl
  have hdrift : Peers.separation.Drift wild.id before closed :=
    { same := (Separation.Drift.refl hbefore.separate wild.id).same
      separate := hbefore.separate.close hwild
      part := by
        intro connection hid
        have hne : connection ≠ wild := fun hsame => hid (congrArg Connection.id hsame)
        change (before.peers.close wild).seat connection = before.peers.seat connection
        rw [Peers.seat_close hbefore.separate hwild, Function.update_of_ne hne] }
  have hlast : ∀ {called : World Peers}, Peers.separation.Orderly called →
      (called.peers.peer other).inbox = some 1 →
      Peers.separation.Execution .lazy wild.id called
        (.change other Seat.drain :: last.map Turn.command)
        (⟨[], received called⟩ ::
          ((received called).deeds Peers.network .lazy last).map (Deed.stage Peers.network .lazy)) := by
    intro called hcalled hinbox
    obtain ⟨sent, dropped, hother⟩ := Peer.exists_of_inbox hinbox
    have hreceived : Peers.separation.Orderly (received called) :=
      ⟨hcalled.sound, hcalled.separate.receive hother none⟩
    have hend : Peers.separation.Execution .lazy wild.id _ _ _ :=
      .of_commands .lazy hreceived last (.stop _)
    rw [List.append_nil, List.append_nil] at hend
    exact .change (.refl hcalled.separate wild.id) other Seat.drain hreceived.separate
      (Peers.seat_receive hcalled.separate hother) hend
  have hrun : ∀ {world : World Peers}, Peers.separation.Orderly world →
      Peers.separation.Drift wild.id before world →
      ((world.run Peers.network .lazy (calls.map Command.operation)).2.peers.peer other).inbox =
        some 1 →
      Peers.separation.Execution .lazy wild.id start
        (joins.map Turn.command ++ (calls.map Turn.command ++
          .change other Seat.drain :: last.map Turn.command)) (stages world) := by
    intro world hworld hdrift hinbox
    have hcalls := Separation.Execution.of_commands .lazy hworld calls
      (hlast (hworld.run .lazy calls) hinbox)
    exact .of_commands .lazy hstart joins (hcalls.of_drift .lazy hdrift)
  have hfirst := hrun hbefore (.refl hbefore.separate wild.id) (by decide)
  have hsecond := hrun (hbefore.drift hdrift) hdrift (by decide)
  have hid : other.id ≠ wild.id := by decide
  have hsights := unaffected_by_connection (fun _ _ => rfl) hseparate hseparate (fun _ _ => rfl)
    hfirst hsecond hid
  exact ⟨hsights, by decide, by decide, by decide⟩

end Switchboard
