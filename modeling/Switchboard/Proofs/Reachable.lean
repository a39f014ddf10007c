import Switchboard.Proofs.FanOut

namespace Switchboard

/-- Whom an invocation is sent to. -/
inductive Audience
  | everyone (excluded : List ConnectionId)
  | client (id : ConnectionId)
  | members (group : String) (excluded : List ConnectionId)

namespace Audience

def operation (audience : Audience) (invocation : Invocation) : Operation :=
  match audience with
  | .everyone excluded => .invokeAll invocation excluded
  | .client id => .invokeClient id invocation
  | .members group excluded => .invokeGroup group invocation excluded

def Includes (audience : Audience) (stores : Stores) (connection : Connection) : Prop :=
  match audience with
  | .everyone excluded =>
      stores.registry.get? connection.id = some connection ∧ connection.id ∉ excluded
  | .client id => stores.registry.get? id = some connection
  | .members group excluded =>
      stores.member group connection.id = some connection ∧ connection.id ∉ excluded

/-- The connections of an audience in the order in which the stores list them. -/
def listed (audience : Audience) (stores : Stores) : List Connection :=
  match audience with
  | .everyone excluded =>
      stores.registry.values.filter fun connection => connection.id ∉ excluded
  | .client id => (stores.registry.get? id).toList
  | .members group excluded =>
      (stores.groups.membersOf group).filter fun connection => connection.id ∉ excluded

theorem mem_listed_iff {stores : Stores} (h : stores.Sound) (audience : Audience)
    (connection : Connection) :
    connection ∈ audience.listed stores ↔ audience.Includes stores connection := by
  cases audience with
  | everyone excluded =>
      unfold listed Includes
      simp only [List.mem_filter, decide_eq_true_eq]
      rw [h.registry.mem_values_iff]
  | client id =>
      unfold listed Includes
      simp only [Option.mem_toList]
  | members group excluded =>
      unfold listed Includes
      simp only [List.mem_filter, decide_eq_true_eq]
      exact and_congr_left fun _ => (h.members group).mem_values_iff connection

theorem nodup_listed {stores : Stores} (h : stores.Sound) (audience : Audience) :
    (audience.listed stores).Nodup := by
  cases audience with
  | everyone excluded => exact h.registry.nodup_values.filter _
  | client id =>
      change (stores.registry.get? id).toList.Nodup
      cases stores.registry.get? id with
      | none => exact List.nodup_nil
      | some connection => exact List.nodup_singleton connection
  | members group excluded => exact (h.members group).nodup_values.filter _

/-- What is done to the stores after the last call: under lazy cleanup the members of the group that
answered that they are closed are evicted from it. -/
def settle (audience : Audience) (cleanup : Cleanup) (gone : List Connection) (stores : Stores) :
    Stores :=
  match audience with
  | .members group _ =>
      if cleanup = .lazy then
        gone.foldl (fun stores connection => stores.evict group connection) stores
      else stores
  | _ => stores

end Audience

namespace World

variable {σ : Type} (network : Network σ) (cleanup : Cleanup)

def recorded (world : World σ) : World (σ × List Call) :=
  ⟨world.stores, (world.peers, []), world.log⟩

/-- The calls of connections that an operation makes, in order. -/
def calls (world : World σ) (operation : Operation) : List Call :=
  (world.recorded.perform network.recorded cleanup operation).2.peers.2

theorem state_invokeClient (invocation : Invocation) (id : ConnectionId) (world : World σ) :
    (world.invokeClient network id invocation).state =
      (world.stores.registry.get? id).toList.foldl (network.exchange invocation) world.state := by
  unfold invokeClient
  split
  · rename_i hnone
    rw [hnone]
    rfl
  · rename_i connection hsome
    rw [hsome]
    exact state_fanOut network invocation [] [connection] world

theorem state_invoke (world : World σ) (audience : Audience) (invocation : Invocation) :
    (world.perform network cleanup (audience.operation invocation)).2.state =
      let order := audience.listed world.stores
      let sent := order.foldl (network.exchange invocation) world.state
      (audience.settle cleanup (Call.closed (network.calls invocation order world.state)) sent.1,
        sent.2) := by
  cases audience with
  | everyone excluded => exact state_fanOut network invocation excluded _ world
  | client id => exact state_invokeClient network invocation id world
  | members group excluded =>
      have hstate := state_fanOut network invocation excluded
        (world.stores.groups.membersOf group) world
      have hclosed := closed_fanOut network invocation excluded
        (world.stores.groups.membersOf group) world
      unfold Audience.operation Audience.listed Audience.settle perform invokeGroup
      simp only
      by_cases hlazy : cleanup = .lazy
      · rw [if_pos hlazy, if_pos hlazy, state_evictAll, hclosed]
        exact congrArg (fun state : Stores × σ => (List.foldl
          (fun stores connection => stores.evict group connection) state.1 _, state.2)) hstate
      · rw [if_neg hlazy, if_neg hlazy]
        exact hstate

theorem calls_invoke (world : World σ) (audience : Audience) (invocation : Invocation) :
    world.calls network cleanup (audience.operation invocation) =
      network.calls invocation (audience.listed world.stores) world.state := by
  have hstate := state_invoke network.recorded cleanup world.recorded audience invocation
  have hrecord := network.foldl_exchange_recorded invocation (audience.listed world.stores)
    world.stores world.peers []
  have hpeers := congrArg (fun state : Stores × (σ × List Call) => state.2.2) hstate
  unfold calls
  refine hpeers.trans ?_
  change (List.foldl (network.recorded.exchange invocation) (world.stores, (world.peers, []))
    (audience.listed world.stores)).2.2 = _
  rw [hrecord]
  exact List.nil_append _

theorem sound_of_state {world : World σ} {state : Stores × σ} (h : world.state = state)
    (hsound : state.1.Sound) : world.stores.Sound := by
  rw [← h] at hsound
  exact hsound

theorem sound_disconnect {world : World σ} (h : world.stores.Sound) (connection : Connection) :
    (world.disconnect cleanup connection).stores.Sound := by
  apply sound_of_state (state_disconnect cleanup world connection)
  have hdetached := h.unregister connection.id
  split
  · exact hdetached.leaveAll connection
  · exact hdetached

theorem sound_sweep {world : World σ} (h : world.stores.Sound) :
    (world.sweep network cleanup).2.stores.Sound := by
  apply sound_of_state (state_sweep network cleanup world)
  have hdetached := h.detachAll fun connection => network.isClosed connection world.peers
  split
  · exact hdetached.foldl (fun _ connection hsound => hsound.leaveAll connection) _
  · exact hdetached

theorem sound_invoke {world : World σ} (h : world.stores.Sound) (audience : Audience)
    (invocation : Invocation) :
    (world.perform network cleanup (audience.operation invocation)).2.stores.Sound := by
  apply sound_of_state (state_invoke network cleanup world audience invocation)
  have hsent := network.sound_foldl_exchange invocation (state_fst world ▸ h)
    (audience.listed world.stores)
  unfold Audience.settle
  split
  · split
    · exact hsent.foldl (fun _ connection hsound => hsound.evict _ connection) _
    · exact hsent
  · exact hsent

theorem sound_perform {world : World σ} (h : world.stores.Sound) (operation : Operation) :
    (world.perform network cleanup operation).2.stores.Sound := by
  cases operation with
  | connect connection => exact h.register connection
  | disconnect connection => exact sound_disconnect cleanup h connection
  | invokeAll invocation excluded =>
      exact sound_invoke network cleanup h (.everyone excluded) invocation
  | invokeClient id invocation => exact sound_invoke network cleanup h (.client id) invocation
  | invokeGroup group invocation excluded =>
      exact sound_invoke network cleanup h (.members group excluded) invocation
  | addToGroup group id => exact sound_of_state (world.state_join group id) (h.join group id)
  | removeFromGroup group id => exact sound_of_state (world.state_leave group id) (h.leave group id)
  | pruneGroups => exact sound_of_state world.state_pruneGroups h.prune
  | sweep => exact sound_sweep network cleanup h
  | fanOut recipients invocation excluded =>
      exact sound_of_state (state_fanOut network invocation excluded recipients world)
        (network.sound_foldl_exchange invocation h _)
  | register connection => exact h.register connection
  | unregister id => exact sound_of_state (world.state_unregister id) (h.unregister id)
  | removeClosed => exact sound_of_state (world.state_removeClosed network) (h.detachAll _)
  | join group id => exact sound_of_state (world.state_join group id) (h.join group id)
  | leave group id => exact sound_of_state (world.state_leave group id) (h.leave group id)
  | evict group connection =>
      exact sound_of_state (world.state_evict group connection) (h.evict group connection)
  | leaveAll connection =>
      exact sound_of_state (world.state_leaveAll connection) (h.leaveAll connection)
  | lookup id => exact h
  | contains id => exact h
  | snapshot => exact h
  | connectionIds => exact h
  | connectionCount => exact h
  | members group => exact h
  | memberIds group => exact h
  | containsMember group id => exact h
  | groupNames => exact h
  | groupCount => exact h

end World

/-- The worlds that a hub may come to: by its operations, by what happens to the connections on their
own, and with its tables listed anew in any order. -/
inductive Reachable {σ : Type} (network : Network σ) (cleanup : Cleanup) : World σ → Prop
  | fresh (peers : σ) : Reachable network cleanup (World.fresh peers)
  | perform {world : World σ} (h : Reachable network cleanup world) (operation : Operation) :
      Reachable network cleanup (world.perform network cleanup operation).2
  | stir {world : World σ} (h : Reachable network cleanup world) (peers : σ) :
      Reachable network cleanup { world with peers }
  | relist {world : World σ} (h : Reachable network cleanup world) {stores : Stores}
      (same : stores.Same world.stores) : Reachable network cleanup { world with stores }

theorem Reachable.sound {σ : Type} {network : Network σ} {cleanup : Cleanup} {world : World σ}
    (h : Reachable network cleanup world) : world.stores.Sound := by
  induction h with
  | fresh peers => exact Stores.Sound.empty
  | perform _ operation ih => exact World.sound_perform network cleanup ih operation
  | stir _ peers ih => exact ih
  | relist _ same ih => exact ih.of_same same

theorem Reachable.run {σ : Type} {network : Network σ} {cleanup : Cleanup} {world : World σ}
    (h : Reachable network cleanup world) (operations : List Operation) :
    Reachable network cleanup (world.run network cleanup operations).2 := by
  induction operations generalizing world with
  | nil => exact h
  | cons operation rest ih => exact ih (h.perform operation)

end Switchboard
