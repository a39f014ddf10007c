import Switchboard.Event
import Switchboard.Group
import Switchboard.Invocation
import Switchboard.Registry

/-!
A hub knows which connections are attached and which groups they are in. It keeps connections only as
names: how they take invocations is told by a network, whose state stands beside that of the hub.
-/

namespace Switchboard

/-- What a hub keeps: the attached connections and the groups. -/
structure Stores where
  registry : Registry
  groups : Directory

def Stores.empty : Stores :=
  ⟨Table.empty, Table.empty⟩

/-- What a connection may ask of the hub while it is handed an invocation. -/
inductive Request
  | register (connection : Connection)
  | unregister (id : ConnectionId)
  | leave (group : String) (id : ConnectionId)
  | join (group : String) (id : ConnectionId)
deriving DecidableEq

/-- What comes of handing an invocation to a connection: the connections afterwards, what it asks of
the hub meanwhile, and its answer. -/
structure Attempt (σ : Type) where
  peers : σ
  requests : List Request
  answer : Answer

/-- How connections behave; `σ` is the joint state of all of them. What a connection asks of the hub
may depend on what the hub keeps. -/
structure Network (σ : Type) where
  send : Connection → Invocation → Stores → σ → Attempt σ
  isClosed : Connection → σ → Bool

/-- A hub among its connections, with what has been logged. -/
structure World (σ : Type) where
  stores : Stores
  peers : σ
  log : List Event

namespace World

variable {σ : Type}

def fresh (peers : σ) : World σ :=
  ⟨Stores.empty, peers, []⟩

def note (world : World σ) (event : Event) : World σ :=
  { world with log := world.log ++ [event] }

def withRegistry (world : World σ) (registry : Registry) : World σ :=
  { world with stores := { world.stores with registry } }

def withGroups (world : World σ) (groups : Directory) : World σ :=
  { world with stores := { world.stores with groups } }

/-- Attaches a connection, in place of an earlier one of the same identifier. -/
def register (world : World σ) (connection : Connection) : World σ :=
  let registry := world.stores.registry
  (world.withRegistry (registry.attach connection)).note
    (.registered connection.id (registry.contains connection.id))

/-- Detaches whatever connection has the identifier, and tells whether there was one. -/
def unregister (world : World σ) (id : ConnectionId) : Bool × World σ :=
  let registry := world.stores.registry
  if registry.contains id then
    (true, (world.withRegistry (registry.detach id)).note (.unregistered id))
  else (false, world)

/-- Makes the attached connection of an identifier a member of a group, and tells whether the
identifier is new there. -/
def join (world : World σ) (group : String) (id : ConnectionId) : Bool × World σ :=
  let groups := world.stores.groups
  match world.stores.registry.get? id with
  | none => (false, world.note (.joinIgnored group id))
  | some connection =>
    let added := !(groups.group group).contains connection.id
    (added, (world.withGroups (groups.join group connection)).note (.joined group id added))

/-- Takes the member of an identifier out of a group, and tells whether there was one. -/
def leave (world : World σ) (group : String) (id : ConnectionId) : Bool × World σ :=
  let groups := world.stores.groups
  if groups.containsMember group id then
    (true, (world.withGroups (groups.leave group id)).note (.left group id))
  else (false, world)

/-- Takes a connection out of a group, but not another of the same identifier, and tells whether it
was there. -/
def evict (world : World σ) (group : String) (connection : Connection) : Bool × World σ :=
  let groups := world.stores.groups
  if (groups.group group).holds connection then
    (true, (world.withGroups (groups.evict group connection)).note (.evicted group connection.id))
  else (false, world)

/-- Takes a connection out of every group, and counts the groups it was in. -/
def leaveAll (world : World σ) (connection : Connection) : Nat × World σ :=
  let groups := world.stores.groups
  let count := groups.countHolding connection
  if 0 < count then
    (count, (world.withGroups (groups.leaveAll connection)).note (.leftAll connection.id count))
  else (0, world)

def pruneGroups (world : World σ) : Nat × World σ :=
  let groups := world.stores.groups
  let count := groups.size - groups.prune.size
  if 0 < count then (count, (world.withGroups groups.prune).note (.pruned count))
  else (0, world)

/-- Detaches the connections that are closed, and gives them. Each one that is found closed is looked
at once more before it is detached. -/
def removeClosed (network : Network σ) (world : World σ) : List Connection × World σ :=
  let registry := world.stores.registry
  let closed (connection : Connection) : Bool := network.isClosed connection world.peers
  let (removed, registry) := registry.detachEach closed (registry.idsOf closed)
  if removed.isEmpty then ([], world)
  else (removed, (world.withRegistry registry).note (.closedRemoved removed.length))

def grant (world : World σ) : Request → World σ
  | .register connection => world.register connection
  | .unregister id => (world.unregister id).2
  | .leave group id => (world.leave group id).2
  | .join group id => (world.join group id).2

def grantAll (world : World σ) (requests : List Request) : World σ :=
  requests.foldl grant world

end World

end Switchboard
