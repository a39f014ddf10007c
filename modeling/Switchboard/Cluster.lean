import Switchboard.Hub.Operation
import Switchboard.Peer

namespace Switchboard

open Switchboard.Text

structure Node where
  settings : LifetimeSettings
  stores : Stores

namespace Node

def create (settings : LifetimeSettings) : Node :=
  ⟨settings.usable, Stores.empty⟩

def outline (node : Node) : Outline :=
  .record "DefaultHubLifetimeManager"
    [("connections", node.stores.registry.outline), ("groups", node.stores.groups.outline),
      ("config", node.settings.outline)]

end Node

/-- How connections that hubs share behave; their errands say which hub they are for. -/
structure Trunk (σ : Type) where
  send : Connection → Invocation → σ → σ × List Errand × Answer
  isClosed : Connection → σ → Bool

def Peers.trunk : Trunk Peers where
  send connection invocation peers := peers.send connection invocation
  isClosed connection peers := peers.isClosed connection

structure Cluster (σ : Type) where
  nodes : Table Nat Node
  peers : σ
  log : List Event

namespace Cluster

variable {σ : Type}

def runErrand (cluster : Cluster σ) (errand : Errand) : Cluster σ :=
  match cluster.nodes.get? errand.1 with
  | none => cluster
  | some node =>
    let world : World Unit := ⟨node.stores, (), cluster.log⟩
    let world := world.grant errand.2
    { cluster with
      nodes := cluster.nodes.insert errand.1 { node with stores := world.stores }
      log := world.log }

def send (trunk : Trunk σ) (cluster : Cluster σ) (connection : Connection)
    (invocation : Invocation) : Answer × Cluster σ :=
  let (peers, errands, answer) := trunk.send connection invocation cluster.peers
  (answer, errands.foldl runErrand { cluster with peers })

/-- The rest of the cluster as one hub sees it: errands to itself are requests, and errands to other
hubs are run there. -/
def network (trunk : Trunk σ) (number : Nat) : Network (Cluster σ) where
  send connection invocation _ cluster :=
    let (peers, errands, answer) := trunk.send connection invocation cluster.peers
    let (own, others) := errands.partition fun errand => errand.1 = number
    ⟨others.foldl runErrand { cluster with peers }, own.map Prod.snd, answer⟩
  isClosed connection cluster := trunk.isClosed connection cluster.peers

def perform (trunk : Trunk σ) (cluster : Cluster σ) (number : Nat) (operation : Operation) :
    Option Reply × Cluster σ :=
  match cluster.nodes.get? number with
  | none => (none, cluster)
  | some node =>
    let world : World (Cluster σ) := ⟨node.stores, cluster, []⟩
    let (reply, world) :=
      world.perform (network trunk number) node.settings.cleanup operation
    let after := world.peers
    (some reply,
      { after with
        nodes := after.nodes.insert number { node with stores := world.stores }
        log := after.log ++ world.log })

end Cluster

end Switchboard
