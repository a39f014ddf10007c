import Switchboard.Connection
import Switchboard.Table
import Switchboard.Text.Diagnostic
import Switchboard.Text.Numeral

namespace Switchboard

open Switchboard.Text

/-- A group and its members by their identifiers. A member may be detached by now. -/
structure Group where
  name : String
  members : Table ConnectionId Connection

namespace Group

def named (name : String) : Group :=
  ⟨name, Table.empty⟩

/-- Makes a connection a member, in place of an earlier one of the same identifier. -/
def insert (group : Group) (connection : Connection) : Group :=
  { group with members := group.members.insert connection.id connection }

def remove (group : Group) (id : ConnectionId) : Group :=
  { group with members := group.members.erase id }

def holds (group : Group) (connection : Connection) : Bool :=
  group.members.get? connection.id == some connection

/-- Takes out a connection, but not another of the same identifier. -/
def removeSame (group : Group) (connection : Connection) : Group :=
  if group.holds connection then group.remove connection.id else group

def contains (group : Group) (id : ConnectionId) : Bool :=
  group.members.contains id

inductive Change
  | insert (connection : Connection)
  | remove (id : ConnectionId)
  | removeSame (connection : Connection)
deriving DecidableEq

/-- Makes a change, and tells whether it has brought a new identifier in or taken one out. -/
def change (group : Group) : Change → Bool × Group
  | .insert connection => (!group.contains connection.id, group.insert connection)
  | .remove id => (group.contains id, group.remove id)
  | .removeSame connection => (group.holds connection, group.removeSame connection)

def connections (group : Group) : List Connection :=
  group.members.values

def memberIds (group : Group) : List ConnectionId :=
  group.members.keys

def size (group : Group) : Nat :=
  group.members.size

def isEmpty (group : Group) : Bool :=
  group.members.isEmpty

def outline (group : Group) : Outline :=
  .record "Group"
    [("name", .leaf (quoted group.name)), ("members", .leaf (Numeral.render group.size))]

@[simp] theorem name_insert (group : Group) (connection : Connection) :
    (group.insert connection).name = group.name := rfl

@[simp] theorem name_remove (group : Group) (id : ConnectionId) :
    (group.remove id).name = group.name := rfl

@[simp] theorem name_removeSame (group : Group) (connection : Connection) :
    (group.removeSame connection).name = group.name := by
  unfold removeSame
  split <;> rfl

theorem member_insert (group : Group) (connection : Connection) (id : ConnectionId) :
    (group.insert connection).members.get? id =
      if id = connection.id then some connection else group.members.get? id :=
  Table.get?_insert _ _ _ _

theorem member_remove (group : Group) (removed id : ConnectionId) :
    (group.remove removed).members.get? id =
      if id = removed then none else group.members.get? id :=
  Table.get?_erase _ _ _

theorem holds_iff (group : Group) (connection : Connection) :
    group.holds connection = true ↔ group.members.get? connection.id = some connection := by
  simp [holds]

theorem member_removeSame (group : Group) (connection : Connection) (id : ConnectionId) :
    (group.removeSame connection).members.get? id =
      if id = connection.id ∧ group.members.get? connection.id = some connection then none
      else group.members.get? id := by
  unfold removeSame
  by_cases h : group.members.get? connection.id = some connection
  · rw [if_pos ((holds_iff group connection).2 h), member_remove]
    simp [h]
  · rw [if_neg fun hc => h ((holds_iff group connection).1 hc)]
    simp [h]

end Group

/-- Groups by their names. A group without members stays until it is pruned. -/
abbrev Directory := Table String Group

namespace Directory

def group (directory : Directory) (name : String) : Group :=
  (directory.get? name).getD (Group.named name)

/-- Makes a connection a member of a group, which is created if there is none of the name. -/
def join (directory : Directory) (name : String) (connection : Connection) : Directory :=
  directory.insert name ((directory.group name).insert connection)

def alter (directory : Directory) (name : String) (change : Group → Group) : Directory :=
  directory.mapEntries fun other group => if other = name then change group else group

def leave (directory : Directory) (name : String) (id : ConnectionId) : Directory :=
  directory.alter name (·.remove id)

def evict (directory : Directory) (name : String) (connection : Connection) : Directory :=
  directory.alter name (·.removeSame connection)

def leaveAll (directory : Directory) (connection : Connection) : Directory :=
  directory.mapEntries fun _ group => group.removeSame connection

def countHolding (directory : Directory) (connection : Connection) : Nat :=
  directory.values.countP (·.holds connection)

def prune (directory : Directory) : Directory :=
  directory.filter fun _ group => !group.isEmpty

def membersOf (directory : Directory) (name : String) : List Connection :=
  (directory.group name).connections

def memberIds (directory : Directory) (name : String) : List ConnectionId :=
  (directory.group name).memberIds

def containsMember (directory : Directory) (name : String) (id : ConnectionId) : Bool :=
  (directory.group name).contains id

def outline (directory : Directory) : Outline :=
  .record "GroupRegistry" [("groups", .leaf (Numeral.render directory.size))]

theorem get?_join (directory : Directory) (name other : String) (connection : Connection) :
    (directory.join name connection).get? other =
      if other = name then some ((directory.group name).insert connection)
      else directory.get? other :=
  Table.get?_insert _ _ _ _

theorem get?_alter (directory : Directory) (name other : String) (change : Group → Group) :
    (directory.alter name change).get? other =
      if other = name then (directory.get? other).map change else directory.get? other := by
  unfold alter
  rw [Table.get?_mapEntries]
  by_cases h : other = name
  · simp [h]
  · cases directory.get? other <;> simp [h]

theorem get?_leaveAll (directory : Directory) (connection : Connection) (name : String) :
    (directory.leaveAll connection).get? name =
      (directory.get? name).map (·.removeSame connection) :=
  Table.get?_mapEntries _ _ _

theorem get?_prune (directory : Directory) (name : String) :
    directory.prune.get? name = (directory.get? name).filter fun group => !group.isEmpty :=
  Table.get?_filter _ _ _

end Directory

end Switchboard
