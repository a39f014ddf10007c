import Switchboard.Cluster
import Switchboard.Proofs.Queueing
import Switchboard.Proofs.Round
import Switchboard.Proofs.Sending

/-!
Hubs side by side that share connections and nothing else. What one of them sends may fill the queues of
connections that others use too, but a full queue closes no connection, so what another hub keeps and
replies is as if it were alone.
-/

namespace Switchboard

namespace World

variable {σ τ : Type} {network : Network σ} {network' : Network τ} (cleanup : Cleanup)
  {world : World σ} {other : World τ}

theorem perform_congr_of_quiet (hstores : other.stores = world.stores)
    (hclosed : ∀ connection,
      network'.isClosed connection other.peers = network.isClosed connection world.peers)
    {operation : Operation} (hquiet : operation.round world.stores = none)
    (hown : operation.isFanOut = false) :
    (other.perform network' cleanup operation).1 = (world.perform network cleanup operation).1 ∧
      (other.perform network' cleanup operation).2.stores =
        (world.perform network cleanup operation).2.stores := by
  have hattached : other.closedAttached network' = world.closedAttached network := by
    unfold closedAttached
    rw [hstores]
    exact congrArg _ (funext hclosed)
  obtain ⟨stores, peers, log⟩ := world
  obtain ⟨stores', peers', log'⟩ := other
  cases hstores
  cases operation with
  | connect connection => exact ⟨rfl, rfl⟩
  | disconnect connection =>
      refine ⟨rfl, ?_⟩
      change (disconnect cleanup _ connection).stores = (disconnect cleanup _ connection).stores
      rw [stores_disconnect, stores_disconnect]
  | invokeAll invocation excluded => cases hquiet
  | invokeClient id invocation =>
      have hnone : stores.registry.get? id = none := Option.map_eq_none_iff.mp hquiet
      refine ⟨rfl, ?_⟩
      change (invokeClient network' id invocation _).stores =
        (invokeClient network id invocation _).stores
      unfold invokeClient
      rw [hnone]
      rfl
  | invokeGroup group invocation excluded => cases hquiet
  | addToGroup group id =>
      refine ⟨rfl, ?_⟩
      change (join _ group id).2.stores = (join _ group id).2.stores
      rw [stores_join, stores_join]
  | removeFromGroup group id =>
      refine ⟨rfl, ?_⟩
      change (leave _ group id).2.stores = (leave _ group id).2.stores
      rw [stores_leave, stores_leave]
  | pruneGroups =>
      unfold perform pruneGroups
      simp only [Reply.of]
      split
      · exact ⟨rfl, rfl⟩
      · exact ⟨rfl, rfl⟩
  | sweep =>
      constructor
      · unfold perform sweep
        simp only [Reply.of, removeClosed_fst, hattached]
      · change (sweep network' cleanup _).2.stores = (sweep network cleanup _).2.stores
        rw [stores_sweep, stores_sweep, hattached]
        simp only [hclosed]
  | fanOut recipients invocation excluded => cases hown
  | register connection => exact ⟨rfl, rfl⟩
  | unregister id =>
      unfold perform unregister
      simp only [Reply.of]
      split
      · exact ⟨rfl, rfl⟩
      · exact ⟨rfl, rfl⟩
  | removeClosed =>
      constructor
      · unfold perform
        simp only [Reply.of, removeClosed_fst, hattached]
      · have hstores : ∀ {ρ : Type} (network : Network ρ) (world : World ρ),
            (world.removeClosed network).2.stores = _ :=
          fun network world => congrArg Prod.fst (world.state_removeClosed network)
        change (removeClosed network' _).2.stores = (removeClosed network _).2.stores
        rw [hstores, hstores]
        simp only [hclosed]
  | join group id =>
      unfold perform join
      simp only [Reply.of]
      split
      · exact ⟨rfl, rfl⟩
      · exact ⟨rfl, rfl⟩
  | leave group id =>
      unfold perform leave
      simp only [Reply.of]
      split
      · exact ⟨rfl, rfl⟩
      · exact ⟨rfl, rfl⟩
  | evict group connection =>
      unfold perform evict
      simp only [Reply.of]
      split
      · exact ⟨rfl, rfl⟩
      · exact ⟨rfl, rfl⟩
  | leaveAll connection =>
      unfold perform leaveAll
      simp only [Reply.of]
      split
      · exact ⟨rfl, rfl⟩
      · exact ⟨rfl, rfl⟩
  | _ => exact ⟨rfl, rfl⟩

end World

/-- Connections that ask nothing of the hubs, and of which it cannot be changed by what they are handed
whether they are closed and whether they answer so: that is told by how they stand, which only their far
ends change. -/
structure Steadiness {σ ε : Type} (trunk : Trunk σ) (change : ε → σ → σ) (φ : Type) where
  calm : σ → Prop
  standing : σ → φ
  effect : ε → φ → φ
  isClosed : Connection → φ → Bool
  refuses : Connection → Invocation → φ → Bool
  errands : ∀ {peers}, calm peers → ∀ connection invocation,
    (trunk.send connection invocation peers).2.1 = []
  calm_send : ∀ {peers}, calm peers → ∀ connection invocation,
    calm (trunk.send connection invocation peers).1
  calm_change : ∀ {peers}, calm peers → ∀ event, calm (change event peers)
  standing_send : ∀ {peers}, calm peers → ∀ connection invocation,
    standing (trunk.send connection invocation peers).1 = standing peers
  standing_change : ∀ {peers}, calm peers → ∀ event,
    standing (change event peers) = effect event (standing peers)
  isClosed_eq : ∀ {peers}, calm peers → ∀ connection,
    trunk.isClosed connection peers = isClosed connection (standing peers)
  answer : ∀ {peers}, calm peers → ∀ connection invocation,
    (trunk.send connection invocation peers).2.2 = .refused .closed ↔
      refuses connection invocation (standing peers) = true

namespace Steadiness

variable {σ ε φ : Type} {trunk : Trunk σ} {change : ε → σ → σ} (steady : Steadiness trunk change φ)

/-- A cluster in which at most the connections have changed, but not how they stand. -/
structure Kept (cluster after : Cluster σ) : Prop where
  nodes : after.nodes = cluster.nodes
  calm : steady.calm after.peers
  standing : steady.standing after.peers = steady.standing cluster.peers

variable {steady} {cluster : Cluster σ} (h : steady.calm cluster.peers) (number : Nat)
  (invocation : Invocation)

include h

theorem exchange_eq (stores : Stores) (connection : Connection) :
    (Cluster.network trunk number).exchange invocation (stores, cluster) connection =
      (stores,
        { cluster with peers := (trunk.send connection invocation cluster.peers).1 }) := by
  simp [Network.exchange, Cluster.network, steady.errands h]

theorem foldl_exchange (stores : Stores) (order : List Connection) :
    let sent := order.foldl ((Cluster.network trunk number).exchange invocation) (stores, cluster)
    sent.1 = stores ∧ steady.Kept cluster sent.2 := by
  induction order generalizing cluster with
  | nil => exact ⟨rfl, rfl, h, rfl⟩
  | cons connection rest ih =>
      have hcalm : steady.calm ({ cluster with
          peers := (trunk.send connection invocation cluster.peers).1 } : Cluster σ).peers :=
        steady.calm_send h connection invocation
      obtain ⟨hstores, hkept⟩ := ih hcalm
      rw [List.foldl_cons, exchange_eq h]
      exact ⟨hstores, hkept.nodes, hkept.calm,
        hkept.standing.trans (steady.standing_send h connection invocation)⟩

/-- Who answers that it is closed is told by how the connections stand before the first call. -/
theorem closed_calls (stores : Stores) (order : List Connection) :
    Call.closed ((Cluster.network trunk number).calls invocation order (stores, cluster)) =
      order.filter fun connection =>
        steady.refuses connection invocation (steady.standing cluster.peers) := by
  induction order generalizing cluster with
  | nil => rfl
  | cons connection rest ih =>
      have hcalm : steady.calm ({ cluster with
          peers := (trunk.send connection invocation cluster.peers).1 } : Cluster σ).peers :=
        steady.calm_send h connection invocation
      have hrest := ih hcalm
      have hanswer := steady.answer h connection invocation
      simp only [steady.standing_send h] at hrest
      rw [Network.calls, exchange_eq h, ← List.singleton_append, Call.closed_append,
        Call.closed_singleton, hrest, List.filter_cons]
      change (if (trunk.send connection invocation cluster.peers).2.2 = .refused .closed then
        [connection] else []) ++ _ = _
      by_cases hrefuses :
          steady.refuses connection invocation (steady.standing cluster.peers) = true
      · rw [if_pos (hanswer.mpr hrefuses), if_pos hrefuses]
        rfl
      · rw [if_neg fun hclosed => hrefuses (hanswer.mp hclosed), if_neg hrefuses]
        rfl

end Steadiness

section

variable {σ ε φ : Type} {trunk : Trunk σ} {change : ε → σ → σ} {steady : Steadiness trunk change φ}
  {world other : World (Cluster σ)}

theorem Steadiness.kept_perform (h : steady.calm world.peers.peers) (number : Nat)
    (cleanup : Cleanup) (operation : Operation) :
    steady.Kept world.peers
      (world.perform (Cluster.network trunk number) cleanup operation).2.peers := by
  obtain ⟨invocation, order, hpeers, -⟩ :=
    world.exists_order (Cluster.network trunk number) cleanup operation
  rw [hpeers]
  exact (Steadiness.foldl_exchange h number invocation world.stores order).2

theorem Steadiness.stores_invoke (h : steady.calm world.peers.peers) (number : Nat)
    (cleanup : Cleanup) (audience : Audience) (invocation : Invocation) :
    (world.perform (Cluster.network trunk number) cleanup
        (audience.operation invocation)).2.stores =
      audience.settle cleanup
        ((audience.listed world.stores).filter fun connection =>
          steady.refuses connection invocation (steady.standing world.peers.peers))
        world.stores := by
  have hstate := World.state_invoke (Cluster.network trunk number) cleanup world audience invocation
  have hkept := (Steadiness.foldl_exchange h number invocation world.stores
    (audience.listed world.stores)).1
  have hclosed := Steadiness.closed_calls h number invocation world.stores
    (audience.listed world.stores)
  rw [← hclosed]
  exact (congrArg Prod.fst hstate).trans (congrArg (audience.settle cleanup _) hkept)

/-- What an operation of a hub replies and leaves in its stores is told by the stores and by how the
connections stand. -/
theorem Steadiness.perform_congr (h : steady.calm world.peers.peers)
    (hother : steady.calm other.peers.peers) (hstores : other.stores = world.stores)
    (hstanding : steady.standing other.peers.peers = steady.standing world.peers.peers)
    (number : Nat) (cleanup : Cleanup) {operation : Operation}
    (hown : operation.isFanOut = false) :
    (other.perform (Cluster.network trunk number) cleanup operation).1 =
        (world.perform (Cluster.network trunk number) cleanup operation).1 ∧
      (other.perform (Cluster.network trunk number) cleanup operation).2.stores =
        (world.perform (Cluster.network trunk number) cleanup operation).2.stores := by
  have hclosed : ∀ connection,
      (Cluster.network trunk number).isClosed connection other.peers =
        (Cluster.network trunk number).isClosed connection world.peers := by
    intro connection
    change trunk.isClosed connection other.peers.peers = trunk.isClosed connection world.peers.peers
    rw [steady.isClosed_eq hother, steady.isClosed_eq h, hstanding]
  have hinvoke : ∀ (audience : Audience) (invocation : Invocation),
      (other.perform (Cluster.network trunk number) cleanup
          (audience.operation invocation)).2.stores =
        (world.perform (Cluster.network trunk number) cleanup
          (audience.operation invocation)).2.stores := by
    intro audience invocation
    rw [Steadiness.stores_invoke h, Steadiness.stores_invoke hother, hstores, hstanding]
  cases hround : operation.round world.stores with
  | none => exact World.perform_congr_of_quiet cleanup hstores hclosed hround hown
  | some round =>
      cases operation with
      | invokeAll invocation excluded => exact ⟨rfl, hinvoke (.everyone excluded) invocation⟩
      | invokeClient id invocation => exact ⟨rfl, hinvoke (.client id) invocation⟩
      | invokeGroup group invocation excluded =>
          exact ⟨rfl, hinvoke (.members group excluded) invocation⟩
      | _ => cases hround

end

/-- Something that happens in a cluster: a hub performs an operation, its tables are listed anew, or the
connections change by an event at their far ends. -/
inductive Act (ε : Type)
  | operate (number : Nat) (operation : Operation)
  | relist (number : Nat) (arrange : Stores → Stores)
  | occur (event : ε)

namespace Act

variable {ε : Type}

def hub : Act ε → Option Nat
  | .operate number _ => some number
  | .relist number _ => some number
  | .occur _ => none

/-- Whether an act is left when a hub is to be alone. -/
def concerns (number : Nat) (act : Act ε) : Bool :=
  act.hub = none ∨ act.hub = some number

def Proper : Act ε → Prop
  | .operate _ operation => operation.isFanOut = false
  | .relist _ arrange => ∀ stores, (arrange stores).Same stores
  | .occur _ => True

end Act

namespace Cluster

variable {σ ε : Type} (trunk : Trunk σ) (change : ε → σ → σ)

def relist (cluster : Cluster σ) (number : Nat) (arrange : Stores → Stores) : Cluster σ :=
  { cluster with
    nodes := cluster.nodes.mapEntries fun other node =>
      if other = number then { node with stores := arrange node.stores } else node }

theorem get?_relist (cluster : Cluster σ) (number : Nat) (arrange : Stores → Stores)
    (other : Nat) :
    (cluster.relist number arrange).nodes.get? other =
      if other = number then
        (cluster.nodes.get? other).map fun node => { node with stores := arrange node.stores }
      else cluster.nodes.get? other := by
  unfold relist
  rw [Table.get?_mapEntries]
  split
  · rfl
  · exact congrFun Option.map_id _

def act (cluster : Cluster σ) : Act ε → Option Reply × Cluster σ
  | .operate number operation => cluster.perform trunk number operation
  | .relist number arrange => (none, cluster.relist number arrange)
  | .occur event => (none, { cluster with peers := change event cluster.peers })

/-- What comes of acts in turn: what a hub replies to its operations, and the cluster in the end. -/
def follow (number : Nat) (cluster : Cluster σ) : List (Act ε) → List Reply × Cluster σ
  | [] => ([], cluster)
  | act :: rest =>
      let (reply, cluster) := cluster.act trunk change act
      let (replies, cluster) := follow number cluster rest
      ((if act.hub = some number then reply.toList else []) ++ replies, cluster)

/-- A cluster as one of its hubs finds it when it begins an operation. -/
def around (cluster : Cluster σ) (node : Node) : World (Cluster σ) :=
  ⟨node.stores, cluster, []⟩

theorem perform_of_node {cluster : Cluster σ} {number : Nat} {node : Node}
    (h : cluster.nodes.get? number = some node) (operation : Operation) :
    let result :=
      (cluster.around node).perform (network trunk number) node.settings.cleanup operation
    let after := cluster.perform trunk number operation
    after.1 = some result.1 ∧ after.2.peers = result.2.peers.peers ∧
      after.2.nodes =
        result.2.peers.nodes.insert number { node with stores := result.2.stores } := by
  intro result after
  have hafter : after = (some result.1, { result.2.peers with
      nodes := result.2.peers.nodes.insert number { node with stores := result.2.stores }
      log := result.2.peers.log ++ result.2.log }) := by
    change cluster.perform trunk number operation = _
    unfold perform
    rw [h]
    rfl
  rw [hafter]
  exact ⟨rfl, rfl, rfl⟩

theorem perform_of_no_node {cluster : Cluster σ} {number : Nat}
    (h : cluster.nodes.get? number = none) (operation : Operation) :
    cluster.perform trunk number operation = (none, cluster) := by
  unfold perform
  rw [h]

end Cluster

namespace Steadiness

variable {σ ε φ : Type} {trunk : Trunk σ} {change : ε → σ → σ} (steady : Steadiness trunk change φ)

/-- A hub is the same in two clusters, and the connections stand there as they do here. -/
structure Alike (number : Nat) (cluster other : Cluster σ) : Prop where
  node : other.nodes.get? number = cluster.nodes.get? number
  calm : steady.calm cluster.peers
  calm' : steady.calm other.peers
  standing : steady.standing other.peers = steady.standing cluster.peers

variable {steady} {cluster other : Cluster σ} {number : Nat}

/-- An act of one hub leaves the others as they are, and the connections as they stand. -/
theorem act_aside (h : steady.calm cluster.peers) {act : Act ε} {hub : Nat}
    (hact : act.hub = some hub) :
    let after := (cluster.act trunk change act).2
    steady.calm after.peers ∧ steady.standing after.peers = steady.standing cluster.peers ∧
      ∀ another, another ≠ hub → after.nodes.get? another = cluster.nodes.get? another := by
  intro after
  cases act with
  | occur event => cases hact
  | operate number operation =>
      cases hact
      change steady.calm (cluster.perform trunk hub operation).2.peers ∧
        steady.standing (cluster.perform trunk hub operation).2.peers =
            steady.standing cluster.peers ∧
          ∀ another, another ≠ hub →
            (cluster.perform trunk hub operation).2.nodes.get? another = cluster.nodes.get? another
      cases hnode : cluster.nodes.get? hub with
      | none =>
          rw [Cluster.perform_of_no_node trunk hnode]
          exact ⟨h, rfl, fun _ _ => rfl⟩
      | some node =>
          have hcalm : steady.calm (cluster.around node).peers.peers := h
          obtain ⟨-, hpeers, hnodes⟩ := Cluster.perform_of_node trunk hnode operation
          have hkept := kept_perform hcalm hub node.settings.cleanup operation
          rw [hpeers, hnodes]
          refine ⟨hkept.calm, hkept.standing, ?_⟩
          intro another hne
          rw [Table.get?_insert, if_neg hne, hkept.nodes]
          rfl
  | relist number arrange =>
      cases hact
      refine ⟨h, rfl, ?_⟩
      intro another hne
      exact (cluster.get?_relist hub arrange another).trans (if_neg hne)

theorem Alike.aside (h : steady.Alike number cluster other) {act : Act ε} {hub : Nat}
    (hact : act.hub = some hub) (hne : hub ≠ number) :
    steady.Alike number (cluster.act trunk change act).2 other := by
  obtain ⟨hcalm, hstanding, hnodes⟩ := act_aside h.calm hact
  exact ⟨h.node.trans (hnodes number hne.symm).symm, hcalm, h.calm',
    h.standing.trans hstanding.symm⟩

theorem Alike.operate (h : steady.Alike number cluster other) {operation : Operation}
    (hown : operation.isFanOut = false) :
    (other.perform trunk number operation).1 = (cluster.perform trunk number operation).1 ∧
      steady.Alike number (cluster.perform trunk number operation).2
        (other.perform trunk number operation).2 := by
  cases hnode : cluster.nodes.get? number with
  | none =>
      rw [Cluster.perform_of_no_node trunk hnode,
        Cluster.perform_of_no_node trunk (h.node.trans hnode)]
      exact ⟨rfl, h⟩
  | some node =>
      have hcalm : steady.calm (cluster.around node).peers.peers := h.calm
      have hcalm' : steady.calm (other.around node).peers.peers := h.calm'
      obtain ⟨hfirst, hpeers, hnodes⟩ := Cluster.perform_of_node trunk hnode operation
      obtain ⟨hfirst', hpeers', hnodes'⟩ :=
        Cluster.perform_of_node trunk (h.node.trans hnode) operation
      obtain ⟨hreply, hstores⟩ :=
        perform_congr hcalm hcalm' rfl h.standing number node.settings.cleanup hown
      have hkept := kept_perform hcalm number node.settings.cleanup operation
      have hkept' := kept_perform hcalm' number node.settings.cleanup operation
      refine ⟨?_, ?_, ?_, ?_, ?_⟩
      · rw [hfirst, hfirst', hreply]
      · rw [hnodes, hnodes', Table.get?_insert, Table.get?_insert, if_pos rfl, if_pos rfl, hstores]
      · rw [hpeers]
        exact hkept.calm
      · rw [hpeers']
        exact hkept'.calm
      · rw [hpeers, hpeers']
        exact hkept'.standing.trans (h.standing.trans hkept.standing.symm)

theorem Alike.beside (h : steady.Alike number cluster other) {act : Act ε}
    (hconcerns : act.concerns number = true) (hproper : act.Proper) :
    (other.act trunk change act).1 = (cluster.act trunk change act).1 ∧
      steady.Alike number (cluster.act trunk change act).2 (other.act trunk change act).2 := by
  cases act with
  | operate hub operation =>
      have hhub : hub = number := by simpa [Act.concerns, Act.hub] using hconcerns
      cases hhub
      exact h.operate hproper
  | relist hub arrange =>
      refine ⟨rfl, ?_, h.calm, h.calm', h.standing⟩
      refine (other.get?_relist hub arrange number).trans
        (Eq.trans ?_ (cluster.get?_relist hub arrange number).symm)
      rw [h.node]
  | occur event =>
      refine ⟨rfl, h.node, steady.calm_change h.calm event, steady.calm_change h.calm' event, ?_⟩
      change steady.standing (change event other.peers) =
        steady.standing (change event cluster.peers)
      rw [steady.standing_change h.calm, steady.standing_change h.calm', h.standing]

theorem Alike.follow_filter {acts : List (Act ε)} (h : steady.Alike number cluster other)
    (hproper : ∀ act ∈ acts, act.Proper) :
    let whole := cluster.follow trunk change number acts
    let alone := other.follow trunk change number (acts.filter (Act.concerns number))
    alone.1 = whole.1 ∧ steady.Alike number whole.2 alone.2 := by
  induction acts generalizing cluster other with
  | nil => exact ⟨rfl, h⟩
  | cons act rest ih =>
      obtain ⟨hfirst, hrest⟩ := List.forall_mem_cons.mp hproper
      cases hconcerns : act.concerns number with
      | true =>
          obtain ⟨hreply, hafter⟩ := h.beside hconcerns hfirst
          obtain ⟨hreplies, hend⟩ := ih hafter hrest
          rw [List.filter_cons_of_pos hconcerns]
          refine ⟨?_, hend⟩
          unfold Cluster.follow
          simp only [hreply, hreplies]
      | false =>
          obtain ⟨hub, hact⟩ : ∃ hub, act.hub = some hub := by
            cases act with
            | occur event => cases hconcerns
            | operate hub operation => exact ⟨hub, rfl⟩
            | relist hub arrange => exact ⟨hub, rfl⟩
          have hne : hub ≠ number := by
            rintro rfl
            simp [Act.concerns, hact] at hconcerns
          obtain ⟨hreplies, hend⟩ := ih (h.aside hact hne) hrest
          rw [List.filter_cons_of_neg (by simp [hconcerns])]
          refine ⟨?_, hend⟩
          rw [hreplies, Cluster.follow]
          simp only [hact, Option.some.injEq, hne, if_false, List.nil_append]

end Steadiness

/-- What happens at the far end of a connection: it comes up with an empty queue of a number, closes, goes
away or receives up to a number of invocations, or all, or it is settled what a scripted connection
answers. -/
inductive FarEnd
  | dial (connection : Connection) (number capacity : Nat)
  | close (connection : Connection)
  | leave (connection : Connection)
  | receive (connection : Connection) (count : Option Nat)
  | decide (connection : Connection) (answer : Answer)

/-- How connections stand: each as it was before it was handed anything, and each queue by what has become
of its receiver. -/
@[ext] structure Standing where
  bearing : Connection → Peer
  receiver : Nat → Receiver

namespace Standing

def isClosed (standing : Standing) (connection : Connection) : Bool :=
  match standing.bearing connection with
  | .channel number _ _ _ => standing.receiver number != .listening
  | .recorder _ closed _ => closed
  | .scripted .. => false

/-- Whether a connection answers that it is closed. -/
def refuses (standing : Standing) (connection : Connection) : Bool :=
  match standing.bearing connection with
  | .channel number _ _ _ => standing.receiver number != .listening
  | .recorder _ closed _ => closed
  | .scripted _ answer _ => answer = .refused .closed

def set (standing : Standing) (connection : Connection) (peer : Peer) : Standing :=
  { standing with bearing := Function.update standing.bearing connection peer }

def setReceiver (standing : Standing) (number : Nat) (receiver : Receiver) : Standing :=
  { standing with receiver := Function.update standing.receiver number receiver }

/-- No connection has errands. -/
def Calm (standing : Standing) : Prop :=
  ∀ connection, (standing.bearing connection).errands = []

theorem Calm.set {standing : Standing} (h : standing.Calm) (connection : Connection) {state : Peer}
    (hstate : state.errands = []) : (standing.set connection state).Calm := by
  intro other
  change (Function.update standing.bearing connection state other).errands = []
  rw [Function.update_apply]
  split
  · exact hstate
  · exact h other

theorem Calm.setReceiver {standing : Standing} (h : standing.Calm) (number : Nat)
    (receiver : Receiver) : (standing.setReceiver number receiver).Calm :=
  h

def dial (standing : Standing) (connection : Connection) (number : Nat) : Standing :=
  (standing.setReceiver number .listening).set connection (.channel number true 0 0)

def close (standing : Standing) (connection : Connection) : Standing :=
  match standing.bearing connection with
  | .channel number true _ _ =>
      standing.setReceiver number (if standing.receiver number = .gone then .gone else .closed)
  | .recorder _ _ _ => standing.set connection (.recorder [] true 0)
  | _ => standing

def leave (standing : Standing) (connection : Connection) : Standing :=
  match standing.bearing connection with
  | .channel number true _ _ =>
      (standing.setReceiver number .gone).set connection (.channel number false 0 0)
  | .recorder _ _ _ => standing.set connection (.recorder [] true 0)
  | _ => standing

def decide (standing : Standing) (connection : Connection) (answer : Answer) : Standing :=
  match standing.bearing connection with
  | .scripted errands _ _ => standing.set connection (.scripted errands answer 0)
  | _ => standing

end Standing

namespace FarEnd

def change : FarEnd → Peers → Peers
  | .dial connection number capacity, peers =>
      (peers.setMailbox number ⟨capacity, [], .listening⟩).set connection (.channel number true 0 0)
  | .close connection, peers => peers.close connection
  | .leave connection, peers => peers.dropReceiver connection
  | .receive connection count, peers => (peers.receive connection count).2
  | .decide connection answer, peers => peers.setAnswer connection answer

def effect : FarEnd → Standing → Standing
  | .dial connection number _, standing => standing.dial connection number
  | .close connection, standing => standing.close connection
  | .leave connection, standing => standing.leave connection
  | .receive _ _, standing => standing
  | .decide connection answer, standing => standing.decide connection answer

/-- So comes up a channel that is added with a queue. -/
theorem change_dial_of_addChannel {peers created : Peers} {connection : Connection} {capacity : Nat}
    (h : peers.addChannel connection capacity = .ok created) :
    (dial connection peers.mailboxes.size capacity).change peers = created := by
  obtain ⟨-, rfl⟩ := Peers.addChannel_eq_ok_iff.mp h
  rfl

theorem calm_effect {standing : Standing} (h : standing.Calm) (event : FarEnd) :
    (event.effect standing).Calm := by
  cases event with
  | dial connection number capacity => exact (h.setReceiver number .listening).set connection rfl
  | close connection =>
      change (standing.close connection).Calm
      unfold Standing.close
      split
      · exact h.setReceiver _ _
      · exact h.set connection rfl
      · exact h
  | leave connection =>
      change (standing.leave connection).Calm
      unfold Standing.leave
      split
      · exact (h.setReceiver _ .gone).set connection rfl
      · exact h.set connection rfl
      · exact h
  | receive connection count => exact h
  | decide connection answer =>
      change (standing.decide connection answer).Calm
      unfold Standing.decide
      split
      · rename_i errands _ _ hbearing
        have herrands : errands = [] := by simpa [hbearing, Peer.errands] using h connection
        exact h.set connection herrands
      · exact h

end FarEnd

namespace Peers

def standing (peers : Peers) : Standing where
  bearing connection := (peers.peer connection).bearing
  receiver number := (peers.mailbox number).receiver

theorem standing_set (peers : Peers) (connection : Connection) (state : Peer) :
    (peers.set connection state).standing = peers.standing.set connection state.bearing := by
  refine Standing.ext ?_ rfl
  funext other
  change ((peers.set connection state).peer other).bearing =
    Function.update peers.standing.bearing connection state.bearing other
  rw [peer_set, Function.update_apply]
  split
  · rfl
  · rfl

theorem standing_setMailbox (peers : Peers) (number : Nat) (mailbox : Mailbox) :
    (peers.setMailbox number mailbox).standing =
      peers.standing.setReceiver number mailbox.receiver := by
  refine Standing.ext rfl ?_
  funext other
  change ((peers.setMailbox number mailbox).mailbox other).receiver =
    Function.update peers.standing.receiver number mailbox.receiver other
  rw [mailbox_setMailbox, Function.update_apply]
  split
  · rfl
  · rfl

theorem standing_send (peers : Peers) (connection : Connection) (invocation : Invocation) :
    (peers.send connection invocation).1.standing = peers.standing :=
  Standing.ext (funext fun other => peers.bearing_send connection other invocation)
    (funext fun number => peers.receiver_send connection invocation number)

theorem bearing_standing {peers : Peers} {connection : Connection} {state : Peer}
    (h : peers.peer connection = state) :
    peers.standing.bearing connection = state.bearing :=
  congrArg Peer.bearing h

theorem standing_close (peers : Peers) (connection : Connection) :
    (peers.close connection).standing = peers.standing.close connection := by
  unfold close Standing.close
  cases hpeer : peers.peer connection with
  | channel number owner sent dropped =>
      rw [bearing_standing hpeer]
      cases owner with
      | false => rfl
      | true =>
          refine (peers.standing_setMailbox number _).trans ?_
          rw [Mailbox.close_eq]
          rfl
  | recorder received closed attempts =>
      rw [bearing_standing hpeer]
      exact peers.standing_set connection _
  | scripted errands answer attempts => rw [bearing_standing hpeer]; rfl

theorem standing_dropReceiver (peers : Peers) (connection : Connection) :
    (peers.dropReceiver connection).standing = peers.standing.leave connection := by
  unfold dropReceiver Standing.leave
  cases hpeer : peers.peer connection with
  | channel number owner sent dropped =>
      rw [bearing_standing hpeer]
      cases owner with
      | false => rfl
      | true =>
          refine (standing_set _ connection _).trans ?_
          rw [standing_setMailbox]
          rfl
  | recorder received closed attempts =>
      rw [bearing_standing hpeer]
      exact peers.standing_set connection _
  | scripted errands answer attempts => rw [bearing_standing hpeer]; rfl

theorem standing_receive (peers : Peers) (connection : Connection) (count : Option Nat) :
    (peers.receive connection count).2.standing = peers.standing := by
  unfold receive
  cases hpeer : peers.peer connection with
  | channel number owner sent dropped =>
      cases owner with
      | false => rfl
      | true =>
          exact (peers.standing_setMailbox number _).trans
            (Standing.ext rfl (Function.update_eq_self number peers.standing.receiver))
  | recorder received closed attempts => rfl
  | scripted errands answer attempts => rfl

theorem standing_setAnswer (peers : Peers) (connection : Connection) (answer : Answer) :
    (peers.setAnswer connection answer).standing = peers.standing.decide connection answer := by
  unfold setAnswer Standing.decide
  cases hpeer : peers.peer connection with
  | channel number owner sent dropped => rw [bearing_standing hpeer]; rfl
  | recorder received closed attempts => rw [bearing_standing hpeer]; rfl
  | scripted errands before attempts =>
      rw [bearing_standing hpeer]
      exact peers.standing_set connection _

theorem standing_change (peers : Peers) (event : FarEnd) :
    (event.change peers).standing = event.effect peers.standing := by
  cases event with
  | dial connection number capacity =>
      refine (standing_set _ connection _).trans ?_
      rw [standing_setMailbox]
      rfl
  | close connection => exact peers.standing_close connection
  | leave connection => exact peers.standing_dropReceiver connection
  | receive connection count => exact peers.standing_receive connection count
  | decide connection answer => exact peers.standing_setAnswer connection answer

theorem isClosed_eq_standing (peers : Peers) (connection : Connection) :
    peers.isClosed connection = peers.standing.isClosed connection := by
  unfold isClosed Standing.isClosed
  cases hpeer : peers.peer connection with
  | channel number owner sent dropped => rw [bearing_standing hpeer]; rfl
  | recorder received closed attempts => rw [bearing_standing hpeer]; rfl
  | scripted errands answer attempts => rw [bearing_standing hpeer]; rfl

theorem answer_closed_iff (peers : Peers) (connection : Connection) (invocation : Invocation) :
    (peers.send connection invocation).2.2 = .refused .closed ↔
      peers.standing.refuses connection = true := by
  unfold send Standing.refuses
  cases hpeer : peers.peer connection with
  | channel number owner sent dropped =>
      rw [bearing_standing hpeer]
      change ((peers.mailbox number).offer invocation).1 = _ ↔
        (peers.mailbox number).isClosed = true
      unfold Mailbox.offer
      split
      · rename_i hclosed
        exact iff_of_true rfl hclosed
      · rename_i hopen
        refine iff_of_false ?_ hopen
        split
        · exact nofun
        · exact nofun
  | recorder received closed attempts =>
      rw [bearing_standing hpeer]
      cases closed with
      | false => exact iff_of_false nofun nofun
      | true => exact iff_of_true rfl rfl
  | scripted errands answer attempts =>
      rw [bearing_standing hpeer]
      exact decide_eq_true_iff.symm

/-- Connections without errands stand as they do whatever they are handed. -/
def steadiness : Steadiness trunk FarEnd.change Standing where
  calm peers := peers.standing.Calm
  standing := standing
  effect := FarEnd.effect
  isClosed connection standing := standing.isClosed connection
  refuses connection _ standing := standing.refuses connection
  errands {peers} h connection invocation := by
    change (peers.send connection invocation).2.1 = []
    rw [errands_of_send, ← Peer.errands_bearing]
    exact h connection
  calm_send {peers} h connection invocation := by
    change (peers.send connection invocation).1.standing.Calm
    rw [standing_send]
    exact h
  calm_change {peers} h event := by
    rw [standing_change]
    exact FarEnd.calm_effect h event
  standing_send {peers} _ connection invocation := peers.standing_send connection invocation
  standing_change {peers} _ event := peers.standing_change event
  isClosed_eq {peers} _ connection := peers.isClosed_eq_standing connection
  answer {peers} _ connection invocation := peers.answer_closed_iff connection invocation

end Peers

/-- Any number of hubs, each with its own settings, share connections that ask nothing of them and that no
invocation closes. Whatever is done at the hubs and at the far ends of the connections, each hub is left
with the same connections and groups, and gives the same replies, as when everything that is done at the
other hubs is left out. -/
theorem hub_unaffected_by_others {σ ε φ : Type} {trunk : Trunk σ} {change : ε → σ → σ}
    (steady : Steadiness trunk change φ) {cluster : Cluster σ} (h : steady.calm cluster.peers)
    {acts : List (Act ε)} (hproper : ∀ act ∈ acts, act.Proper) (number : Nat) :
    let whole := cluster.follow trunk change number acts
    let alone := cluster.follow trunk change number (acts.filter (Act.concerns number))
    whole.1 = alone.1 ∧ whole.2.nodes.get? number = alone.2.nodes.get? number := by
  have hstart : steady.Alike number cluster cluster := ⟨rfl, h, h, rfl⟩
  obtain ⟨hreplies, hend⟩ := hstart.follow_filter hproper
  exact ⟨hreplies.symm, hend.node.symm⟩

/-- Two hubs share a connection with a place for one invocation. What the second hub sends fills the
queue, so that the first finds it full where alone it would have had a place. Then the far end closes: the
first hub evicts the connection from a room and sweeps it away, as it would alone. -/
theorem hub_unaffected_by_others_full_queue :
    let shared : Connection := ⟨0, ⟨"shared"⟩⟩
    let hello : Invocation := ⟨"hello", []⟩
    let nodes : Table Nat Node :=
      (Table.empty.insert 0 (.create ⟨1, .lazy⟩)).insert 1 (.create ⟨0, .onDisconnect⟩)
    let cluster : Cluster Peers := ⟨nodes, Peers.empty, []⟩
    let acts : List (Act FarEnd) :=
      [.occur (.dial shared 0 1), .operate 0 (.connect shared), .operate 1 (.connect shared),
        .operate 0 (.addToGroup "room" shared.id), .operate 1 (.invokeAll hello []),
        .operate 0 (.invokeGroup "room" hello []), .occur (.close shared), .operate 1 .sweep,
        .operate 0 (.invokeGroup "room" hello []), .operate 0 (.members "room"), .operate 0 .sweep]
    Peers.steadiness.calm cluster.peers ∧ (∀ act ∈ acts, act.Proper) ∧
      (cluster.follow Peers.trunk FarEnd.change 0 acts).1 =
        (cluster.follow Peers.trunk FarEnd.change 0 (acts.filter (Act.concerns 0))).1 ∧
      (cluster.follow Peers.trunk FarEnd.change 0 acts).2.nodes.get? 0 =
        (cluster.follow Peers.trunk FarEnd.change 0 (acts.filter (Act.concerns 0))).2.nodes.get? 0 ∧
      (cluster.follow Peers.trunk FarEnd.change 0 acts).1 =
        [.done, .done, .done, .done, .connections [], .count 1] ∧
      (cluster.follow Peers.trunk FarEnd.change 0 acts).2.peers.droppedCount shared = 2 ∧
      (cluster.follow Peers.trunk FarEnd.change 0
        (acts.filter (Act.concerns 0))).2.peers.droppedCount shared = 1 := by
  intro shared hello nodes cluster acts
  have hcalm : Peers.steadiness.calm cluster.peers := fun _ => rfl
  have hproper : ∀ act ∈ acts, act.Proper := by
    simp [acts, Act.Proper, Operation.isFanOut]
  obtain ⟨hreplies, hnode⟩ := hub_unaffected_by_others Peers.steadiness hcalm hproper 0
  exact ⟨hcalm, hproper, hreplies, hnode, by decide, by decide, by decide⟩

end Switchboard
