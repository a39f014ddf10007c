import Switchboard.Proofs.Queueing
import Switchboard.Proofs.Sending
import Switchboard.Proofs.Sequel

/-!
Invocations of many as invocations of one after another. While no connection asks anything of the hub, the
stores stay as they are throughout, so that looking up each recipient anew finds the connection that was
listed at the beginning, and each call works on what the calls before it have left of the connections.
-/

namespace Switchboard

namespace Network

variable {σ : Type} {network : Network σ} {invocation : Invocation} {state : Stores × σ}

/-- Whichever connections are handed an invocation from a state on, they ask nothing of the hub. -/
def Silent (network : Network σ) (invocation : Invocation) (state : Stores × σ) : Prop :=
  ∀ order, network.asked invocation order state = []

theorem Silent.requests (h : network.Silent invocation state) (connection : Connection) :
    (network.send connection invocation state.1 state.2).requests = [] := by
  have hasked : state.1.asked (network.send connection invocation state.1 state.2).requests = [] :=
    List.append_eq_nil_iff.mp (h [connection]) |>.1
  cases hrequests : (network.send connection invocation state.1 state.2).requests with
  | nil => rfl
  | cons request rest =>
      rw [hrequests] at hasked
      exact absurd hasked (List.cons_ne_nil _ _)

theorem Silent.stores_exchange (h : network.Silent invocation state) (connection : Connection) :
    (network.exchange invocation state connection).1 = state.1 := by
  simp only [exchange, h.requests connection, List.foldl_nil]

theorem Silent.exchange (h : network.Silent invocation state) (connection : Connection) :
    network.Silent invocation (network.exchange invocation state connection) := by
  intro order
  exact (List.append_eq_nil_iff.mp (h (connection :: order))).2

end Network

theorem Peers.silent_of_no_errands {peers : Peers}
    (h : ∀ connection, (peers.peer connection).errands = []) (invocation : Invocation)
    (stores : Stores) : network.Silent invocation (stores, peers) := by
  intro order
  induction order generalizing stores peers with
  | nil => rfl
  | cons connection rest ih =>
      have hrequests : (network.send connection invocation stores peers).requests = [] := by
        show ((peers.send connection invocation).2.1).map Prod.snd = []
        rw [errands_of_send, h connection]
        rfl
      have hlater : ∀ other,
          ((peers.send connection invocation).1.peer other).errands = [] := by
        intro other
        rw [← Peer.errands_bearing, bearing_send, Peer.errands_bearing]
        exact h other
      rw [Network.asked, hrequests]
      exact ih hlater _

namespace World

variable {σ : Type} (network : Network σ) (cleanup : Cleanup) {world : World σ}
  {invocation : Invocation}

def toEach (world : World σ) (invocation : Invocation) (ids : List ConnectionId) : World σ :=
  (world.run network cleanup (ids.map fun id => .invokeClient id invocation)).2

theorem state_toEach {order : List Connection}
    (hattached : ∀ connection ∈ order,
      world.stores.registry.get? connection.id = some connection)
    (hsilent : network.Silent invocation world.state) :
    (world.toEach network cleanup invocation (order.map Connection.id)).state =
      order.foldl (network.exchange invocation) world.state := by
  induction order generalizing world with
  | nil => rfl
  | cons connection rest ih =>
      let next := world.invokeClient network connection.id invocation
      have hnext : next.state = network.exchange invocation world.state connection := by
        rw [state_invokeClient, hattached connection List.mem_cons_self]
        rfl
      have hstores : next.stores = world.stores :=
        (congrArg Prod.fst hnext).trans (hsilent.stores_exchange connection)
      have hlater : ∀ other ∈ rest, next.stores.registry.get? other.id = some other := by
        intro other hmem
        rw [hstores]
        exact hattached other (List.mem_cons_of_mem _ hmem)
      rw [List.foldl_cons, ← hnext]
      exact ih hlater (hnext ▸ hsilent.exchange connection)

/-- An invocation of an audience all of whom are attached, and none of whom is evicted afterwards, leaves
what is left when each of them is sent it alone. -/
theorem state_invoke_eq_toEach (audience : Audience)
    (hpolicy : cleanup ≠ .lazy ∨ ∀ group excluded, audience ≠ .members group excluded)
    (hattached : ∀ connection ∈ audience.listed world.stores,
      world.stores.registry.get? connection.id = some connection)
    (hsilent : network.Silent invocation world.state) :
    (world.perform network cleanup (audience.operation invocation)).2.state =
      (world.toEach network cleanup invocation
        ((audience.listed world.stores).map Connection.id)).state := by
  rw [state_toEach network cleanup hattached hsilent, state_invoke]
  exact Prod.ext (Audience.settle_eq_self hpolicy _ _) rfl

/-- Identifiers to exclude count only as far as recipients have them. -/
theorem fanOut_congr {recipients : List Connection} {excluded other : List ConnectionId}
    (h : ∀ id ∈ recipients.map Connection.id, id ∈ excluded ↔ id ∈ other) (world : World σ) :
    world.fanOut network recipients invocation excluded =
      world.fanOut network recipients invocation other := by
  apply List.foldl_ext
  rintro ⟨report, before⟩ connection hmem
  have hid : connection.id ∈ excluded ↔ connection.id ∈ other :=
    h connection.id (List.mem_map_of_mem hmem)
  simp only [visit, hid]

end World

section

variable {σ : Type} {network : Network σ} {cleanup : Cleanup} {world : World σ}
  {invocation : Invocation}

theorem Keyed.map_id_filter {t : Table ConnectionId Connection} (h : Keyed t)
    (excluded : List ConnectionId) :
    (t.values.filter fun connection => connection.id ∉ excluded).map Connection.id =
      t.keys.filter fun id => id ∉ excluded := by
  rw [← h.map_id_values, List.filter_map]
  rfl

/-- While no connection asks anything of the hub, an invocation of all leaves what is left when it is sent
to one attached identifier after another, those that are excluded left out; which others are excluded
besides, in what order and how often, changes nothing at all. So does an invocation of a group whose
members are attached, unless the cleanup policy has it evict those that were closed. -/
theorem broadcast_eq_unicasts (h : Reachable network cleanup world)
    (hsilent : network.Silent invocation world.state) :
    let attached := world.stores.registry.keys
    let toEach := world.toEach network cleanup invocation
    (world.perform network cleanup (.invokeAll invocation [])).2.state = (toEach attached).state ∧
      (∀ excluded, (world.perform network cleanup (.invokeAll invocation excluded)).2.state =
        (toEach (attached.filter fun id => id ∉ excluded)).state) ∧
      (∀ excluded other, (∀ id ∈ attached, id ∈ excluded ↔ id ∈ other) →
        world.perform network cleanup (.invokeAll invocation excluded) =
          world.perform network cleanup (.invokeAll invocation other)) ∧
      ∀ group, cleanup ≠ .lazy →
        (∀ id member, world.stores.member group id = some member →
          world.stores.registry.get? id = some member) →
        (world.perform network cleanup (.invokeGroup group invocation [])).2.state =
          (toEach (world.stores.groups.memberIds group)).state := by
  intro attached toEach
  have hall : ∀ excluded,
      (world.perform network cleanup (.invokeAll invocation excluded)).2.state =
        (toEach (attached.filter fun id => id ∉ excluded)).state := by
    intro excluded
    rw [← h.sound.registry.map_id_filter excluded]
    refine World.state_invoke_eq_toEach network cleanup (.everyone excluded) (.inr nofun) ?_ hsilent
    intro connection hmem
    exact ((Audience.mem_listed_iff h.sound _ _).mp hmem).1
  refine ⟨?_, hall, ?_, ?_⟩
  · have hnone := hall []
    rw [List.filter_eq_self.mpr (by simp)] at hnone
    exact hnone
  · intro excluded other hsame
    rw [← show world.stores.registry.values.map Connection.id = attached from
      h.sound.registry.map_id_values] at hsame
    simp only [World.perform, World.invokeAll, World.fanOut_congr network hsame world]
  · intro group hpolicy hmembers
    have hids : ((Audience.members group []).listed world.stores).map Connection.id =
        world.stores.groups.memberIds group := by
      refine ((h.sound.members group).map_id_filter []).trans ?_
      exact List.filter_eq_self.mpr (by simp)
    rw [← hids]
    refine World.state_invoke_eq_toEach network cleanup (.members group []) (.inl hpolicy) ?_
      hsilent
    intro connection hmem
    exact hmembers _ _ ((Audience.mem_listed_iff h.sound _ _).mp hmem).1

/-- Two connections put into one queue of a single place, and a third keeps a record. The first takes the
place, so the second finds the queue full, whether they are invoked at once or one after another, as a
room or as all that are attached. -/
theorem broadcast_eq_unicasts_shared_queue :
    let first : Connection := ⟨0, ⟨"first"⟩⟩
    let second : Connection := ⟨1, ⟨"second"⟩⟩
    let third : Connection := ⟨2, ⟨"third"⟩⟩
    let hello : Invocation := ⟨"hello", []⟩
    let peers := ((Peers.empty.setMailbox 0 ⟨1, [], .listening⟩).set first
      (.channel 0 true 0 0)).addSharing second 0
    let world := ((World.fresh peers).run Peers.network .retain
      ([first, second, third].flatMap fun connection =>
        [.connect connection, .addToGroup "room" connection.id])).2
    let after := (world.perform Peers.network .retain (.invokeAll hello [])).2
    let excluding := world.perform Peers.network .retain (.invokeAll hello [third.id, ⟨"nobody"⟩])
    Reachable Peers.network .retain world ∧ Peers.network.Silent hello world.state ∧
      after.state =
        (world.toEach Peers.network .retain hello [first.id, second.id, third.id]).state ∧
      excluding = world.perform Peers.network .retain (.invokeAll hello [third.id, third.id]) ∧
      (∀ id member, world.stores.member "room" id = some member →
        world.stores.registry.get? id = some member) ∧
      (world.perform Peers.network .retain (.invokeGroup "room" hello [])).2.state =
        (world.toEach Peers.network .retain hello [first.id, second.id, third.id]).state ∧
      after.peers.droppedCount second = 1 ∧ after.peers.sentCount first = 1 := by
  intro first second third hello peers world after excluding
  have hreach : Reachable Peers.network .retain world := (Reachable.fresh peers).run _
  have hsilent : Peers.network.Silent hello world.state := by
    apply Peers.silent_of_no_errands
    intro connection
    show (peers.peer connection).errands = []
    simp only [peers, Peers.addSharing, Peers.peer_set]
    split
    · rfl
    · split
      · rfl
      · rfl
  have hmembers : ∀ id member, world.stores.member "room" id = some member →
      world.stores.registry.get? id = some member := by
    intro id member hmember
    have hid : member.id = id := hreach.sound.members "room" id member hmember
    subst hid
    have hlisted : member ∈ world.stores.groups.membersOf "room" :=
      ((hreach.sound.members "room").mem_values_iff member).mpr hmember
    have hroom : world.stores.groups.membersOf "room" = world.stores.registry.values := by decide
    rw [hroom] at hlisted
    exact (hreach.sound.registry.mem_values_iff member).mp hlisted
  obtain ⟨hall, -, hexcluded, hgroup⟩ := broadcast_eq_unicasts hreach hsilent
  exact ⟨hreach, hsilent, hall, hexcluded _ _ (by decide), hmembers,
    hgroup "room" (by decide) hmembers, by decide, by decide⟩

end

end Switchboard
