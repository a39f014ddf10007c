import Switchboard.Hub.FanOut
import Switchboard.Settings.Basic

namespace Switchboard

namespace LifetimeSettings

/-- The settings that a hub works with: a buffer holds at least one invocation. -/
def usable (settings : LifetimeSettings) : LifetimeSettings :=
  if settings.buffer = 0 then { settings with buffer := 1 } else settings

def setUpLog (settings : LifetimeSettings) : List Event :=
  if settings.buffer = 0 then [.bufferRaised] else []

end LifetimeSettings

namespace World

variable {σ : Type} (network : Network σ) (cleanup : Cleanup)

def connect (world : World σ) (connection : Connection) : World σ :=
  world.register connection

/-- A connection is gone: its identifier is detached, and its memberships are given up if the policy
says so. -/
def disconnect (world : World σ) (connection : Connection) : World σ :=
  let (_, world) := world.unregister connection.id
  if cleanup = .onDisconnect then (world.leaveAll connection).2 else world

def invokeAll (invocation : Invocation) (excluded : List ConnectionId) (world : World σ) :
    World σ :=
  let (report, world) :=
    world.fanOut network world.stores.registry.values invocation excluded
  world.noteReport invocation.target none report

def invokeClient (id : ConnectionId) (invocation : Invocation) (world : World σ) : World σ :=
  match world.stores.registry.get? id with
  | none => world.note (.invocationIgnored id invocation.target)
  | some connection =>
    let (report, world) := world.fanOut network [connection] invocation []
    world.noteReport invocation.target none report

/-- Sends an invocation to every member of a group, except those of excluded identifiers. Members
found closed are evicted afterwards if the policy says so. -/
def invokeGroup (group : String) (invocation : Invocation) (excluded : List ConnectionId)
    (world : World σ) : World σ :=
  let (report, world) :=
    world.fanOut network (world.stores.groups.membersOf group) invocation excluded
  let world := world.noteReport invocation.target (some group) report
  if cleanup = .lazy then
    report.closed.foldl (fun world connection => (world.evict group connection).2) world
  else world

/-- Detaches the connections that are closed, as if each had gone, and counts them. -/
def sweep (world : World σ) : Nat × World σ :=
  let (removed, world) := world.removeClosed network
  (removed.length,
    if cleanup = .onDisconnect then
      removed.foldl (fun world connection => (world.leaveAll connection).2) world
    else world)

end World

end Switchboard
