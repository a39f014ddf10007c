import Switchboard.Peer
import Switchboard.Proofs.Reachable

namespace Switchboard

namespace Peer

/-- What being handed an invocation makes of a connection that keeps a record. -/
def take (invocation : Invocation) : Peer → Peer
  | .recorder received closed attempts =>
      .recorder (if closed then received else received ++ [invocation]) closed (attempts + 1)
  | peer => peer

end Peer

namespace Peers

def Recording (peers : Peers) : Prop :=
  ∀ connection, ∃ received closed attempts,
    peers.peer connection = .recorder received closed attempts

theorem peer_set (peers : Peers) (connection other : Connection) (state : Peer) :
    (peers.set connection state).peer other =
      if other = connection then state else peers.peer other := by
  change ((peers.states.insert connection state).get? other).getD _ = _
  rw [Table.get?_insert]
  split
  · rfl
  · rfl

theorem peer_close {peers : Peers} (h : peers.Recording) (connection other : Connection) :
    ∃ received closed attempts, peers.peer other = .recorder received closed attempts ∧
      (peers.close connection).peer other =
        .recorder received (closed || connection = other) attempts := by
  obtain ⟨received, closed, attempts, hother⟩ := h other
  refine ⟨received, closed, attempts, hother, ?_⟩
  obtain ⟨received', closed', attempts', hconnection⟩ := h connection
  unfold close
  rw [hconnection]
  simp only
  rw [peer_set]
  split
  · rename_i hsame
    subst hsame
    rw [hother] at hconnection
    cases hconnection
    simp
  · rename_i hne
    rw [hother]
    simp [Ne.symm hne]

theorem isClosed_of_recorder {peers : Peers} {connection : Connection}
    {received : List Invocation} {closed : Bool} {attempts : Nat}
    (h : peers.peer connection = .recorder received closed attempts) :
    peers.isClosed connection = closed := by
  unfold isClosed
  rw [h]

theorem isClosed_set_take {peers : Peers} (h : peers.Recording) (invocation : Invocation)
    (connection other : Connection) :
    (peers.set connection ((peers.peer connection).take invocation)).isClosed other =
      peers.isClosed other := by
  obtain ⟨received, closed, attempts, hother⟩ := h other
  rw [isClosed_of_recorder hother]
  rcases eq_or_ne other connection with rfl | hsame
  · exact isClosed_of_recorder ((peer_set _ _ _ _).trans (by rw [if_pos rfl, hother]; rfl))
  · exact isClosed_of_recorder ((peer_set _ _ _ _).trans (by rw [if_neg hsame, hother]))

theorem recording_set_take {peers : Peers} (h : peers.Recording) (invocation : Invocation)
    (connection : Connection) :
    (peers.set connection ((peers.peer connection).take invocation)).Recording := by
  intro other
  rw [peer_set]
  split
  · obtain ⟨received, closed, attempts, hconnection⟩ := h connection
    exact ⟨_, _, _, by rw [hconnection]; rfl⟩
  · exact h other

theorem exchange_recording {peers : Peers} (h : peers.Recording) (invocation : Invocation)
    (stores : Stores) (connection : Connection) :
    network.exchange invocation (stores, peers) connection =
      (stores, peers.set connection ((peers.peer connection).take invocation)) := by
  obtain ⟨received, closed, attempts, hconnection⟩ := h connection
  cases closed with
  | false => simp [Network.exchange, network, send, hconnection, Peer.take]
  | true => simp [Network.exchange, network, send, hconnection, Peer.take]

theorem answer_recording {peers : Peers} (h : peers.Recording) (invocation : Invocation)
    (stores : Stores) (connection : Connection) :
    (network.call invocation (stores, peers) connection).answer =
      if peers.isClosed connection then .refused .closed else .accepted := by
  obtain ⟨received, closed, attempts, hconnection⟩ := h connection
  rw [isClosed_of_recorder hconnection]
  cases closed with
  | false => simp [Network.call, network, send, hconnection]
  | true => simp [Network.call, network, send, hconnection]

theorem foldl_exchange_recording {peers : Peers} (h : peers.Recording) (invocation : Invocation)
    (stores : Stores) {order : List Connection} (hnodup : order.Nodup) :
    (order.foldl (network.exchange invocation) (stores, peers)).1 = stores ∧
      ∀ connection, (order.foldl (network.exchange invocation) (stores, peers)).2.peer connection =
        if connection ∈ order then (peers.peer connection).take invocation
        else peers.peer connection := by
  -- A recipient that came twice would take the invocation twice, so each one is new to the rest.
  induction order generalizing peers with
  | nil => exact ⟨rfl, fun connection => by simp⟩
  | cons first rest ih =>
      obtain ⟨hfirst, hrest⟩ := List.nodup_cons.mp hnodup
      rw [List.foldl_cons, exchange_recording h]
      obtain ⟨hstores, hpeers⟩ := ih (recording_set_take h invocation first) hrest
      refine ⟨hstores, ?_⟩
      intro connection
      rw [hpeers, peer_set]
      rcases eq_or_ne connection first with rfl | hsame
      · simp [hfirst]
      · simp [hsame]

theorem closed_calls_recording {peers : Peers} (h : peers.Recording) (invocation : Invocation)
    (stores : Stores) (order : List Connection) :
    Call.closed (network.calls invocation order (stores, peers)) =
      order.filter peers.isClosed := by
  induction order generalizing peers with
  | nil => rfl
  | cons first rest ih =>
      have hanswer := answer_recording h invocation stores first
      have hsame : (peers.set first ((peers.peer first).take invocation)).isClosed =
          peers.isClosed :=
        funext (isClosed_set_take h invocation first)
      have hrest := ih (recording_set_take h invocation first)
      rw [hsame] at hrest
      rw [Network.calls, exchange_recording h, ← List.singleton_append, Call.closed_append, hrest,
        Call.closed_singleton, hanswer, List.filter_cons]
      cases peers.isClosed first with
      | false => rfl
      | true => rfl

end Peers

section

variable (cleanup : Cleanup) {world : World Peers}

theorem state_invoke_recording (hsound : world.stores.Sound) (h : world.peers.Recording)
    (audience : Audience) (invocation : Invocation) :
    let after := (world.perform Peers.network cleanup (audience.operation invocation)).2
    after.stores = audience.settle cleanup
        ((audience.listed world.stores).filter world.peers.isClosed) world.stores ∧
      ∀ connection,
        (audience.Includes world.stores connection → after.peers.peer connection =
          (world.peers.peer connection).take invocation) ∧
        (¬ audience.Includes world.stores connection → after.peers.peer connection =
          world.peers.peer connection) := by
  intro after
  have hstate := World.state_invoke Peers.network cleanup world audience invocation
  obtain ⟨hstores, hpeers⟩ := Peers.foldl_exchange_recording h invocation world.stores
    (Audience.nodup_listed hsound audience)
  have hclosed := Peers.closed_calls_recording h invocation world.stores
    (audience.listed world.stores)
  constructor
  · have hafter := congrArg Prod.fst hstate
    change after.stores = audience.settle cleanup (Call.closed (Peers.network.calls invocation
      (audience.listed world.stores) (world.stores, world.peers)))
        ((audience.listed world.stores).foldl (Peers.network.exchange invocation)
          (world.stores, world.peers)).1 at hafter
    rw [hafter, hclosed, hstores]
  · intro connection
    have hafter := congrArg (fun state : Stores × Peers => state.2.peer connection) hstate
    have hpeer := hafter.trans (hpeers connection)
    rw [← Audience.mem_listed_iff hsound]
    constructor
    · intro hlisted
      rw [if_pos hlisted] at hpeer
      exact hpeer
    · intro hlisted
      rw [if_neg hlisted] at hpeer
      exact hpeer

end

end Switchboard
