import Switchboard.Connection
import Switchboard.Level
import Switchboard.Text.Numeral

namespace Switchboard

inductive FieldValue
  | text (s : String)
  | number (n : Nat)
  | flag (b : Bool)
deriving DecidableEq

inductive Event
  | bufferRaised
  | registered (id : ConnectionId) (replaced : Bool)
  | unregistered (id : ConnectionId)
  | closedRemoved (count : Nat)
  | joinIgnored (group : String) (id : ConnectionId)
  | joined (group : String) (id : ConnectionId) (added : Bool)
  | left (group : String) (id : ConnectionId)
  | evicted (group : String) (id : ConnectionId)
  | leftAll (id : ConnectionId) (groups : Nat)
  | pruned (count : Nat)
  | dropped (id : ConnectionId) (target : String)
  | passedOver (id : ConnectionId) (target : String)
  | invocationIgnored (id : ConnectionId) (target : String)
  | fannedOut (target : String) (group : Option String) (sent skipped failed : Nat)
deriving DecidableEq

namespace Event

def level : Event → Level
  | .bufferRaised => .warn
  | .closedRemoved _ => .info
  | .registered .. | .unregistered _ | .joinIgnored .. | .evicted .. | .leftAll .. | .pruned _
  | .dropped .. => .debug
  | .joined .. | .left .. | .passedOver .. | .invocationIgnored .. | .fannedOut .. => .trace

def message : Event → String
  | .bufferRaised => "connection_buffer of 0 is not usable, using 1"
  | .registered .. => "Connection registered"
  | .unregistered _ => "Connection unregistered"
  | .closedRemoved _ => "Removed closed connections"
  | .joinIgnored .. => "Ignoring group add for unknown connection"
  | .joined .. => "Connection added to group"
  | .left .. => "Connection removed from group"
  | .evicted .. => "Evicted closed connection from group"
  | .leftAll .. => "Connection removed from all groups"
  | .pruned _ => "Pruned empty groups"
  | .dropped .. => "Dropped invocation, send buffer full"
  | .passedOver .. => "Skipped invocation to closed connection"
  | .invocationIgnored .. => "Ignoring invocation for unknown connection"
  | .fannedOut .. => "Invocation fanned out"

/-- The fields of an event. An invocation of every connection has a star for its group. -/
def fields : Event → List (String × FieldValue)
  | .bufferRaised => []
  | .registered id replaced => [("connection_id", .text id.text), ("replaced", .flag replaced)]
  | .unregistered id => [("connection_id", .text id.text)]
  | .closedRemoved count => [("count", .number count)]
  | .joinIgnored group id => [("group", .text group), ("connection_id", .text id.text)]
  | .joined group id added =>
    [("group", .text group), ("connection_id", .text id.text), ("added", .flag added)]
  | .left group id => [("group", .text group), ("connection_id", .text id.text)]
  | .evicted group id => [("group", .text group), ("connection_id", .text id.text)]
  | .leftAll id groups => [("connection_id", .text id.text), ("groups", .number groups)]
  | .pruned count => [("count", .number count)]
  | .dropped id target => [("connection_id", .text id.text), ("target", .text target)]
  | .passedOver id target => [("connection_id", .text id.text), ("target", .text target)]
  | .invocationIgnored id target =>
    [("connection_id", .text id.text), ("target_method", .text target)]
  | .fannedOut target group sent skipped failed =>
    [("target_method", .text target), ("group", .text (group.getD "*")), ("sent", .number sent),
      ("skipped", .number skipped), ("failed", .number failed)]

/-- The part of the program that an event comes from, by which log filters select it. -/
def origin : Event → String
  | .registered .. | .unregistered _ | .closedRemoved _ => "hub_lifetime::connection::registry"
  | .joinIgnored .. | .joined .. | .left .. | .evicted .. | .leftAll .. | .pruned _ =>
    "hub_lifetime::groups::registry"
  | .dropped .. | .passedOver .. => "hub_lifetime::broadcast::dispatcher"
  | .bufferRaised | .invocationIgnored .. | .fannedOut .. => "hub_lifetime::lifetime::manager"

end Event

end Switchboard
