import Switchboard.Hub.Lifetime

namespace Switchboard

inductive Operation
  | connect (connection : Connection)
  | disconnect (connection : Connection)
  | invokeAll (invocation : Invocation) (excluded : List ConnectionId)
  | invokeClient (id : ConnectionId) (invocation : Invocation)
  | invokeGroup (group : String) (invocation : Invocation) (excluded : List ConnectionId)
  | addToGroup (group : String) (id : ConnectionId)
  | removeFromGroup (group : String) (id : ConnectionId)
  | pruneGroups
  | sweep
  | fanOut (recipients : List Connection) (invocation : Invocation) (excluded : List ConnectionId)
  | register (connection : Connection)
  | unregister (id : ConnectionId)
  | removeClosed
  | join (group : String) (id : ConnectionId)
  | leave (group : String) (id : ConnectionId)
  | evict (group : String) (connection : Connection)
  | leaveAll (connection : Connection)
  | lookup (id : ConnectionId)
  | contains (id : ConnectionId)
  | snapshot
  | connectionIds
  | connectionCount
  | members (group : String)
  | memberIds (group : String)
  | containsMember (group : String) (id : ConnectionId)
  | groupNames
  | groupCount

inductive Reply
  | done
  | flag (b : Bool)
  | count (n : Nat)
  | found (connection : Option Connection)
  | connections (all : List Connection)
  | ids (all : List ConnectionId)
  | names (all : List String)
  | report (report : Report)
deriving DecidableEq

def Reply.of {α β : Type} (reply : α → Reply) (result : α × β) : Reply × β :=
  (reply result.1, result.2)

namespace World

variable {σ : Type} (network : Network σ) (cleanup : Cleanup)

def perform (world : World σ) : Operation → Reply × World σ
  | .connect connection => (.done, world.connect connection)
  | .disconnect connection => (.done, world.disconnect cleanup connection)
  | .invokeAll invocation excluded => (.done, world.invokeAll network invocation excluded)
  | .invokeClient id invocation => (.done, world.invokeClient network id invocation)
  | .invokeGroup group invocation excluded =>
    (.done, world.invokeGroup network cleanup group invocation excluded)
  | .addToGroup group id => (.done, (world.join group id).2)
  | .removeFromGroup group id => (.done, (world.leave group id).2)
  | .pruneGroups => Reply.of .count world.pruneGroups
  | .sweep => Reply.of .count (world.sweep network cleanup)
  | .fanOut recipients invocation excluded =>
    Reply.of .report (world.fanOut network recipients invocation excluded)
  | .register connection => (.done, world.register connection)
  | .unregister id => Reply.of .flag (world.unregister id)
  | .removeClosed => Reply.of .connections (world.removeClosed network)
  | .join group id => Reply.of .flag (world.join group id)
  | .leave group id => Reply.of .flag (world.leave group id)
  | .evict group connection => Reply.of .flag (world.evict group connection)
  | .leaveAll connection => Reply.of .count (world.leaveAll connection)
  | .lookup id => (.found (world.stores.registry.get? id), world)
  | .contains id => (.flag (world.stores.registry.contains id), world)
  | .snapshot => (.connections world.stores.registry.values, world)
  | .connectionIds => (.ids world.stores.registry.keys, world)
  | .connectionCount => (.count world.stores.registry.size, world)
  | .members group => (.connections (world.stores.groups.membersOf group), world)
  | .memberIds group => (.ids (world.stores.groups.memberIds group), world)
  | .containsMember group id => (.flag (world.stores.groups.containsMember group id), world)
  | .groupNames => (.names world.stores.groups.keys, world)
  | .groupCount => (.count world.stores.groups.size, world)

def run (world : World σ) : List Operation → List Reply × World σ
  | [] => ([], world)
  | operation :: rest =>
    let (reply, world) := world.perform network cleanup operation
    let (replies, world) := run world rest
    (reply :: replies, world)

end World

end Switchboard
