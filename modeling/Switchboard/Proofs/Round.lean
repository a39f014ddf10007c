import Switchboard.Proofs.Reachable

/-!
Invocations as rounds: to whom an invocation is handed in turn, how that has fared so far, and what is
done at the end. An operation that invokes goes through its round from the beginning to the end.
-/

namespace Switchboard

/-- An invocation under way: who is still to come, and how it has fared with those before. -/
structure Round where
  invocation : Invocation
  excluded : List ConnectionId
  waiting : List Connection
  report : Report
  group : Option String

namespace Round

/-- What is done when nobody is waiting any more: the report is logged, and under lazy cleanup the members
of the group that answered that they are closed are evicted from it. -/
def conclude {σ : Type} (cleanup : Cleanup) (round : Round) (world : World σ) : World σ :=
  let world := world.noteReport round.invocation.target round.group round.report
  match round.group with
  | none => world
  | some group =>
      if cleanup = .lazy then
        round.report.closed.foldl (fun world connection => (world.evict group connection).2) world
      else world

theorem peers_conclude {σ : Type} (cleanup : Cleanup) (round : Round) (world : World σ) :
    (round.conclude cleanup world).peers = world.peers := by
  unfold conclude
  cases round.group with
  | none => rfl
  | some group =>
      simp only
      split
      · exact congrArg Prod.snd (World.state_evictAll _ group round.report.closed)
      · rfl

end Round

namespace Operation

/-- The round that an operation begins; none if it invokes nobody. -/
def round (stores : Stores) : Operation → Option Round
  | .invokeAll invocation excluded =>
      some ⟨invocation, excluded, stores.registry.values, .empty, none⟩
  | .invokeClient id invocation =>
      (stores.registry.get? id).map fun connection => ⟨invocation, [], [connection], .empty, none⟩
  | .invokeGroup group invocation excluded =>
      some ⟨invocation, excluded, stores.groups.membersOf group, .empty, some group⟩
  | _ => none

/-- Whether an operation hands an invocation to recipients that are given to it, and so is none of the hub
itself. -/
def isFanOut : Operation → Bool
  | .fanOut .. => true
  | _ => false

theorem report_of_round {stores : Stores} {operation : Operation} {round : Round}
    (h : operation.round stores = some round) : round.report = .empty := by
  cases operation with
  | invokeAll invocation excluded =>
      cases h
      rfl
  | invokeClient id invocation =>
      obtain ⟨connection, -, rfl⟩ := Option.map_eq_some_iff.mp h
      rfl
  | invokeGroup group invocation excluded =>
      cases h
      rfl
  | _ => cases h

end Operation

namespace World

variable {σ : Type} (network : Network σ) (cleanup : Cleanup) (world : World σ)
  {operation : Operation}

theorem perform_of_round {round : Round} (h : operation.round world.stores = some round) :
    let (report, sent) :=
      world.fanOut network round.waiting round.invocation round.excluded
    (world.perform network cleanup operation).2 =
      ({ round with waiting := [], report } : Round).conclude cleanup sent := by
  cases operation with
  | invokeAll invocation excluded =>
      cases h
      rfl
  | invokeClient id invocation =>
      obtain ⟨connection, hget, rfl⟩ := Option.map_eq_some_iff.mp h
      change world.invokeClient network id invocation = _
      unfold invokeClient
      rw [hget]
      rfl
  | invokeGroup group invocation excluded =>
      cases h
      rfl
  | _ => cases h

theorem calls_of_round {round : Round} (h : operation.round world.stores = some round) :
    world.calls network cleanup operation =
      network.calls round.invocation
        (round.waiting.filter fun connection => connection.id ∉ round.excluded) world.state := by
  cases operation with
  | invokeAll invocation excluded =>
      cases h
      exact calls_invoke network cleanup world (.everyone excluded) invocation
  | invokeClient id invocation =>
      obtain ⟨connection, hget, rfl⟩ := Option.map_eq_some_iff.mp h
      have hcalls := calls_invoke network cleanup world (.client id) invocation
      unfold Audience.listed at hcalls
      simp only [hget] at hcalls
      exact hcalls
  | invokeGroup group invocation excluded =>
      cases h
      exact calls_invoke network cleanup world (.members group excluded) invocation
  | _ => cases h

/-- An operation that hands no invocation to anyone leaves the connections as they are. -/
theorem peers_of_no_round (h : operation.round world.stores = none)
    (hown : operation.isFanOut = false) :
    (world.perform network cleanup operation).2.peers = world.peers := by
  have hpeers : ∀ {after : World σ} {stores : Stores}, after.state = (stores, world.peers) →
      after.peers = world.peers := fun hstate => congrArg Prod.snd hstate
  cases operation with
  | connect connection => rfl
  | disconnect connection => exact hpeers (state_disconnect cleanup world connection)
  | invokeAll invocation excluded => cases h
  | invokeClient id invocation =>
      have hnone : world.stores.registry.get? id = none := Option.map_eq_none_iff.mp h
      change (world.invokeClient network id invocation).peers = world.peers
      unfold invokeClient
      rw [hnone]
      rfl
  | invokeGroup group invocation excluded => cases h
  | addToGroup group id => exact hpeers (world.state_join group id)
  | removeFromGroup group id => exact hpeers (world.state_leave group id)
  | pruneGroups => exact hpeers world.state_pruneGroups
  | sweep => exact hpeers (state_sweep network cleanup world)
  | fanOut recipients invocation excluded => cases hown
  | register connection => rfl
  | unregister id => exact hpeers (world.state_unregister id)
  | removeClosed => exact hpeers (world.state_removeClosed network)
  | join group id => exact hpeers (world.state_join group id)
  | leave group id => exact hpeers (world.state_leave group id)
  | evict group connection => exact hpeers (world.state_evict group connection)
  | leaveAll connection => exact hpeers (world.state_leaveAll connection)
  | _ => rfl

theorem calls_of_no_round (h : operation.round world.stores = none)
    (hown : operation.isFanOut = false) : world.calls network cleanup operation = [] := by
  have hpeers := peers_of_no_round network.recorded cleanup world.recorded h hown
  exact congrArg Prod.snd hpeers

theorem calls_fanOut (recipients : List Connection) (invocation : Invocation)
    (excluded : List ConnectionId) :
    world.calls network cleanup (.fanOut recipients invocation excluded) =
      network.calls invocation (recipients.filter fun connection => connection.id ∉ excluded)
        world.state := by
  have hstate := state_fanOut network.recorded invocation excluded recipients world.recorded
  have hrecord := network.foldl_exchange_recorded invocation
    (recipients.filter fun connection => connection.id ∉ excluded) world.stores world.peers []
  exact (congrArg (fun state => state.2.2) (hstate.trans hrecord)).trans (List.nil_append _)

/-- Whatever an operation does to the connections, it does by calling some of them in turn. -/
theorem exists_order (operation : Operation) :
    ∃ invocation order,
      (world.perform network cleanup operation).2.peers =
          (order.foldl (network.exchange invocation) world.state).2 ∧
        world.calls network cleanup operation = network.calls invocation order world.state := by
  cases hround : operation.round world.stores with
  | some round =>
      refine ⟨round.invocation, _, ?_, world.calls_of_round network cleanup hround⟩
      rw [world.perform_of_round network cleanup hround]
      refine Eq.trans ?_ (congrArg Prod.snd
        (state_fanOut network round.invocation round.excluded round.waiting world))
      exact Round.peers_conclude cleanup _ _
  | none =>
      cases hown : operation.isFanOut with
      | false =>
          refine ⟨⟨"", []⟩, [], world.peers_of_no_round network cleanup hround hown, ?_⟩
          exact world.calls_of_no_round network cleanup hround hown
      | true =>
          cases operation with
          | fanOut recipients invocation excluded =>
              refine ⟨invocation, _, ?_, calls_fanOut network cleanup world _ _ _⟩
              exact congrArg Prod.snd (state_fanOut network invocation excluded recipients world)
          | _ => cases hown

def runCalls (world : World σ) : List Operation → List Call
  | [] => []
  | operation :: rest =>
      world.calls network cleanup operation ++
        runCalls (world.perform network cleanup operation).2 rest

end World

end Switchboard
