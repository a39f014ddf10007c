import Switchboard.Proofs.Stores

/-!
What each operation on the stores of a hub leaves behind. An operation that finds nothing to do leaves
the stores as they are, so its effect is the same change of the stores in every case.
-/

namespace Switchboard

namespace World

variable {σ : Type}

/-- What a hub and its connections are at a moment, without what has been logged. -/
def state (world : World σ) : Stores × σ :=
  (world.stores, world.peers)

theorem state_fst (world : World σ) : world.state.1 = world.stores := rfl

theorem state_foldl {α : Type} {change : World σ → α → World σ} {effect : Stores → α → Stores}
    (h : ∀ world a, (change world a).state = (effect world.stores a, world.peers))
    (items : List α) (world : World σ) :
    (items.foldl change world).state = (items.foldl effect world.stores, world.peers) := by
  induction items generalizing world with
  | nil => rfl
  | cons item rest ih =>
      have hstores : (change world item).stores = effect world.stores item :=
        congrArg Prod.fst (h world item)
      have hpeers : (change world item).peers = world.peers := congrArg Prod.snd (h world item)
      rw [List.foldl_cons, List.foldl_cons, ih, hstores, hpeers]

theorem state_register (world : World σ) (connection : Connection) :
    (world.register connection).state = (world.stores.register connection, world.peers) := rfl

theorem state_unregister (world : World σ) (id : ConnectionId) :
    (world.unregister id).2.state = (world.stores.unregister id, world.peers) := by
  unfold unregister
  simp only
  split
  · rfl
  · rename_i habsent
    have hnone := Table.get?_eq_none_of_not_contains habsent
    have hsame : world.stores.registry.detach id = world.stores.registry :=
      Table.erase_eq_self hnone
    unfold Stores.unregister
    rw [hsame]
    rfl

theorem state_join (world : World σ) (group : String) (id : ConnectionId) :
    (world.join group id).2.state = (world.stores.join group id, world.peers) := by
  unfold join Stores.join
  cases world.stores.registry.get? id with
  | none => rfl
  | some connection => rfl

theorem state_leave (world : World σ) (group : String) (id : ConnectionId) :
    (world.leave group id).2.state = (world.stores.leave group id, world.peers) := by
  unfold leave
  simp only
  split
  · rfl
  · rename_i habsent
    have hnone := Table.get?_eq_none_of_not_contains habsent
    have hsame : world.stores.groups.leave group id = world.stores.groups :=
      Directory.alter_eq_self (Group.remove_eq_self hnone)
    unfold Stores.leave
    rw [hsame]
    rfl

theorem state_evict (world : World σ) (group : String) (connection : Connection) :
    (world.evict group connection).2.state =
      (world.stores.evict group connection, world.peers) := by
  unfold evict
  simp only
  split
  · rfl
  · rename_i habsent
    have hsame : world.stores.groups.evict group connection = world.stores.groups :=
      Directory.alter_eq_self (Group.removeSame_eq_self (Bool.eq_false_iff.mpr habsent))
    unfold Stores.evict
    rw [hsame]
    rfl

theorem state_leaveAll (world : World σ) (connection : Connection) :
    (world.leaveAll connection).2.state =
      (world.stores.leaveAll connection, world.peers) := by
  unfold leaveAll
  simp only
  split
  · rfl
  · rename_i hnone
    have hsame : world.stores.groups.leaveAll connection = world.stores.groups :=
      Directory.leaveAll_eq_self (Nat.eq_zero_of_not_pos hnone)
    unfold Stores.leaveAll
    rw [hsame]
    rfl

theorem state_pruneGroups (world : World σ) :
    world.pruneGroups.2.state = (world.stores.prune, world.peers) := by
  unfold pruneGroups
  simp only
  split
  · rfl
  · rename_i hnone
    have hsame : world.stores.groups.prune = world.stores.groups :=
      Directory.prune_eq_self (Nat.sub_eq_zero_iff_le.mp (Nat.eq_zero_of_not_pos hnone))
    unfold Stores.prune
    rw [hsame]
    rfl

theorem stores_join (world : World σ) (group : String) (id : ConnectionId) :
    (world.join group id).2.stores = world.stores.join group id :=
  congrArg Prod.fst (world.state_join group id)

theorem stores_leave (world : World σ) (group : String) (id : ConnectionId) :
    (world.leave group id).2.stores = world.stores.leave group id :=
  congrArg Prod.fst (world.state_leave group id)

theorem stores_evict (world : World σ) (group : String) (connection : Connection) :
    (world.evict group connection).2.stores = world.stores.evict group connection :=
  congrArg Prod.fst (world.state_evict group connection)

theorem stores_leaveAll (world : World σ) (connection : Connection) :
    (world.leaveAll connection).2.stores = world.stores.leaveAll connection :=
  congrArg Prod.fst (world.state_leaveAll connection)

theorem stores_pruneGroups (world : World σ) :
    world.pruneGroups.2.stores = world.stores.prune :=
  congrArg Prod.fst world.state_pruneGroups

theorem state_grant (world : World σ) (request : Request) :
    (world.grant request).state = (world.stores.grant request, world.peers) := by
  cases request with
  | register connection => exact world.state_register connection
  | unregister id => exact world.state_unregister id
  | leave group id => exact world.state_leave group id
  | join group id => exact world.state_join group id

theorem state_grantAll (world : World σ) (requests : List Request) :
    (world.grantAll requests).state =
      (requests.foldl Stores.grant world.stores, world.peers) :=
  state_foldl state_grant requests world

section Closed

variable (network : Network σ)

/-- The attached connections that are closed, in the order in which they are listed. -/
def closedAttached (world : World σ) : List Connection :=
  world.stores.registry.select fun connection => network.isClosed connection world.peers

theorem removeClosed_fst (world : World σ) :
    (world.removeClosed network).1 = world.closedAttached network := by
  unfold removeClosed closedAttached
  simp only [Registry.detachEach_idsOf]
  split
  · rename_i hempty
    exact (List.isEmpty_iff.mp hempty).symm
  · rfl

theorem state_removeClosed (world : World σ) :
    (world.removeClosed network).2.state =
      (world.stores.detachAll fun connection => network.isClosed connection world.peers,
        world.peers) := by
  unfold removeClosed
  simp only [Registry.detachEach_idsOf]
  split
  · rename_i hempty
    unfold Stores.detachAll
    rw [Registry.detachAll_eq_self (List.isEmpty_iff.mp hempty)]
    rfl
  · rfl

end Closed

section Lifetime

variable (network : Network σ) (cleanup : Cleanup)

theorem state_evictAll (world : World σ) (group : String) (gone : List Connection) :
    (gone.foldl (fun world connection => (world.evict group connection).2) world).state =
      (gone.foldl (fun stores connection => stores.evict group connection) world.stores,
        world.peers) :=
  state_foldl (fun world connection => world.state_evict group connection) gone world

theorem state_leaveAllEach (world : World σ) (gone : List Connection) :
    (gone.foldl (fun world connection => (world.leaveAll connection).2) world).state =
      (gone.foldl Stores.leaveAll world.stores, world.peers) :=
  state_foldl state_leaveAll gone world

theorem state_disconnect (world : World σ) (connection : Connection) :
    (world.disconnect cleanup connection).state =
      (if cleanup = .onDisconnect then
        (world.stores.unregister connection.id).leaveAll connection
      else world.stores.unregister connection.id, world.peers) := by
  have hdetach := world.state_unregister connection.id
  unfold disconnect
  simp only
  split
  · rw [state_leaveAll]
    exact congrArg (fun state : Stores × σ => (state.1.leaveAll connection, state.2)) hdetach
  · exact hdetach

theorem state_sweep (world : World σ) :
    (world.sweep network cleanup).2.state =
      (if cleanup = .onDisconnect then
        (world.closedAttached network).foldl Stores.leaveAll
          (world.stores.detachAll fun connection => network.isClosed connection world.peers)
      else world.stores.detachAll fun connection => network.isClosed connection world.peers,
        world.peers) := by
  have hremove := world.state_removeClosed network
  unfold sweep
  simp only
  split
  · rw [state_leaveAllEach, removeClosed_fst]
    exact congrArg (fun state : Stores × σ =>
      ((world.closedAttached network).foldl Stores.leaveAll state.1, state.2)) hremove
  · exact hremove

theorem stores_disconnect (world : World σ) (connection : Connection) :
    (world.disconnect cleanup connection).stores =
      if cleanup = .onDisconnect then
        (world.stores.unregister connection.id).leaveAll connection
      else world.stores.unregister connection.id :=
  congrArg Prod.fst (state_disconnect cleanup world connection)

theorem stores_sweep (world : World σ) :
    (world.sweep network cleanup).2.stores =
      if cleanup = .onDisconnect then
        (world.closedAttached network).foldl Stores.leaveAll
          (world.stores.detachAll fun connection => network.isClosed connection world.peers)
      else world.stores.detachAll fun connection => network.isClosed connection world.peers :=
  congrArg Prod.fst (state_sweep network cleanup world)

end Lifetime

end World

end Switchboard
