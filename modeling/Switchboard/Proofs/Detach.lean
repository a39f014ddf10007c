import Switchboard.Proofs.Broadcast

namespace Switchboard

section

variable {σ : Type} {network : Network σ} {cleanup : Cleanup} {world : World σ}

theorem get?_disconnect (connection : Connection) (id : ConnectionId) :
    (world.disconnect cleanup connection).stores.registry.get? id =
      if id = connection.id then none else world.stores.registry.get? id := by
  rw [World.stores_disconnect]
  split
  · exact Registry.get?_detach world.stores.registry connection.id id
  · exact Registry.get?_detach world.stores.registry connection.id id

theorem member_disconnect (h : world.stores.Sound) (connection : Connection) (group : String)
    (id : ConnectionId) :
    (world.disconnect cleanup connection).stores.member group id =
      if cleanup = .onDisconnect then
        (world.stores.member group id).filter fun member => member ≠ connection
      else world.stores.member group id := by
  rw [World.stores_disconnect]
  split
  · exact Stores.member_leaveAll (h.unregister connection.id) group connection id
  · rfl

theorem member_disconnect_of_ne (h : world.stores.Sound) {gone member : Connection}
    (hne : member ≠ gone) (group : String) (id : ConnectionId) :
    (world.disconnect cleanup gone).stores.member group id = some member ↔
      world.stores.member group id = some member := by
  rw [member_disconnect h]
  split
  · rw [Option.filter_eq_some_iff, decide_eq_true_eq]
    exact and_iff_left hne
  · exact Iff.rfl

theorem mem_closedAttached_iff (h : world.stores.Sound) (connection : Connection) :
    connection ∈ world.closedAttached network ↔
      world.stores.registry.get? connection.id = some connection ∧
        network.isClosed connection world.peers = true := by
  unfold World.closedAttached Registry.select
  rw [List.mem_filter, h.registry.mem_values_iff]

theorem get?_sweep (id : ConnectionId) :
    (world.sweep network cleanup).2.stores.registry.get? id =
      (world.stores.registry.get? id).filter fun connection =>
        !network.isClosed connection world.peers := by
  have hdetached := Registry.get?_detachAll world.stores.registry
    (fun connection => network.isClosed connection world.peers) id
  rw [World.stores_sweep]
  split
  · have hkept : ∀ stores connection, (Stores.leaveAll stores connection).registry =
        stores.registry := fun _ _ => rfl
    rw [Stores.view_foldl Stores.registry hkept]
    exact hdetached
  · exact hdetached

theorem member_sweep (h : world.stores.Sound) (group : String) (id : ConnectionId) :
    (world.sweep network cleanup).2.stores.member group id =
      if cleanup = .onDisconnect then
        (world.stores.member group id).filter fun member =>
          member ∉ world.closedAttached network
      else world.stores.member group id := by
  rw [World.stores_sweep]
  split
  · exact Stores.member_foldl_leaveAll (h.detachAll _) group _ id
  · rfl

theorem within_disconnect (h : world.stores.Sound) (connection : Connection) :
    (world.disconnect cleanup connection).stores.Within world.stores where
  attached id found hget := by
    rw [get?_disconnect] at hget
    split at hget
    · exact absurd hget (by simp)
    · exact hget
  member group id member hget := by
    rw [member_disconnect h] at hget
    split at hget
    · exact (Option.filter_eq_some_iff.mp hget).1
    · exact hget

theorem within_sweep (h : world.stores.Sound) :
    (world.sweep network cleanup).2.stores.Within world.stores where
  attached id connection hget := by
    rw [get?_sweep] at hget
    exact (Option.filter_eq_some_iff.mp hget).1
  member group id member hget := by
    rw [member_sweep h] at hget
    split at hget
    · exact (Option.filter_eq_some_iff.mp hget).1
    · exact hget

theorem called_disconnect_iff (h : Reachable network cleanup world) (gone : Connection)
    (audience : Audience) (invocation : Invocation) (connection : Connection) :
    connection ∈ ((world.disconnect cleanup gone).calls network cleanup
        (audience.operation invocation)).map Call.connection ↔
      audience.Includes (world.disconnect cleanup gone).stores connection :=
  World.called_iff network cleanup (World.sound_disconnect cleanup h.sound gone) audience invocation
    connection

/-- When a connection is gone whose identifier is attached as another one, the identifier is detached
all the same: it is looked up in vain and no invocation of all or of the one client reaches the other
one. Every other identifier stays attached as it was, and every membership of another connection stays
in place, so that invocations of its groups still reach it. -/
theorem disconnect_detaches_successor_keeps_memberships (h : Reachable network cleanup world)
    {old new : Connection} (hattached : world.stores.registry.get? old.id = some new)
    (hne : new ≠ old) :
    let after := world.disconnect cleanup old
    (∀ id, after.stores.registry.get? id =
      if id = old.id then none else world.stores.registry.get? id) ∧
      (∀ invocation excluded, new ∉
        (after.calls network cleanup (.invokeAll invocation excluded)).map Call.connection) ∧
      (∀ invocation, after.calls network cleanup (.invokeClient old.id invocation) = []) ∧
      (∀ group id, after.stores.member group id = some new ↔
        world.stores.member group id = some new) ∧
      ∀ group invocation excluded, new ∈
          (after.calls network cleanup (.invokeGroup group invocation excluded)).map
            Call.connection ↔
        world.stores.member group old.id = some new ∧ old.id ∉ excluded := by
  intro after
  have hid : new.id = old.id := h.sound.registry old.id new hattached
  have hdetached : after.stores.registry.get? old.id = none := by
    rw [get?_disconnect, if_pos rfl]
  have hmember : ∀ group id, after.stores.member group id = some new ↔
      world.stores.member group id = some new :=
    member_disconnect_of_ne h.sound hne
  refine ⟨get?_disconnect old, ?_, ?_, hmember, ?_⟩
  · intro invocation excluded hcalled
    have hincluded := (called_disconnect_iff h old (.everyone excluded) invocation new).mp hcalled
    have hstill : after.stores.registry.get? new.id = some new := hincluded.1
    rw [hid, hdetached] at hstill
    exact absurd hstill (by simp)
  · intro invocation
    have horder := World.order_invoke network cleanup after (.client old.id) invocation
    rw [show (Audience.client old.id).listed after.stores = [] from
      congrArg Option.toList hdetached] at horder
    exact List.map_eq_nil_iff.mp horder
  · intro group invocation excluded
    have hincluded := called_disconnect_iff h old (.members group excluded) invocation new
    refine hincluded.trans ?_
    change after.stores.member group new.id = some new ∧ new.id ∉ excluded ↔ _
    rw [hmember, hid]

end

/-- A client comes back under its identifier, joins a group again, and then its old connection is found
to be gone. -/
theorem disconnect_detaches_returned_client :
    let old : Connection := ⟨0, ⟨"client"⟩⟩
    let new : Connection := ⟨1, ⟨"client"⟩⟩
    let world := ((World.fresh Peers.empty).run Peers.network .onDisconnect
      [.connect old, .addToGroup "room" old.id, .connect new, .addToGroup "room" new.id]).2
    let after := world.disconnect .onDisconnect old
    Reachable Peers.network .onDisconnect world ∧
      world.stores.registry.get? old.id = some new ∧ new ≠ old ∧
      after.stores.registry.get? new.id = none ∧ after.stores.member "room" new.id = some new := by
  intro old new world after
  have hreach : Reachable Peers.network .onDisconnect world := (Reachable.fresh Peers.empty).run _
  have hattached : world.stores.registry.get? old.id = some new := by decide
  have hne : new ≠ old := by decide
  obtain ⟨hget, -, -, hmember, -⟩ :=
    disconnect_detaches_successor_keeps_memberships hreach hattached hne
  exact ⟨hreach, hattached, hne, hget new.id, (hmember "room" new.id).mpr (by decide)⟩

/-- It is not so that a connection stays attached when an earlier one of its identifier is gone. -/
theorem not_attached_after_disconnect_of_predecessor :
    ¬ ∀ (cleanup : Cleanup) (world : World Peers), Reachable Peers.network cleanup world →
      ∀ old new : Connection, world.stores.registry.get? old.id = some new → new ≠ old →
        (world.disconnect cleanup old).stores.registry.get? old.id = some new := by
  intro hstays
  let old : Connection := ⟨0, ⟨"client"⟩⟩
  let new : Connection := ⟨1, ⟨"client"⟩⟩
  let world := ((World.fresh Peers.empty).run Peers.network .retain [.connect old, .connect new]).2
  have hreach : Reachable Peers.network .retain world := (Reachable.fresh Peers.empty).run _
  have hstill := hstays .retain world hreach old new (by decide) (by decide)
  exact absurd hstill (by decide)

end Switchboard
