import Switchboard.Connection
import Switchboard.Table
import Switchboard.Text.Diagnostic
import Switchboard.Text.Numeral

namespace Switchboard

open Switchboard.Text

abbrev Registry := Table ConnectionId Connection

namespace Registry

/-- Attaches a connection, in place of an earlier one of the same identifier. -/
def attach (registry : Registry) (connection : Connection) : Registry :=
  registry.insert connection.id connection

def detach (registry : Registry) (id : ConnectionId) : Registry :=
  registry.erase id

def select (registry : Registry) (test : Connection → Bool) : List Connection :=
  registry.values.filter test

def detachAll (registry : Registry) (test : Connection → Bool) : Registry :=
  registry.filter fun _ connection => !test connection

def idsOf (registry : Registry) (test : Connection → Bool) : List ConnectionId :=
  (registry.filter fun _ connection => test connection).keys

def detachIf (registry : Registry) (test : Connection → Bool) (id : ConnectionId) :
    Option Connection × Registry :=
  match registry.get? id with
  | none => (none, registry)
  | some connection =>
    if test connection then (some connection, registry.detach id) else (none, registry)

/-- Looks at identifiers in turn, detaches the connections that pass a test, and gives them. -/
def detachEach (registry : Registry) (test : Connection → Bool) :
    List ConnectionId → List Connection × Registry
  | [] => ([], registry)
  | id :: rest =>
    let (detached, registry) := registry.detachIf test id
    let (others, registry) := detachEach registry test rest
    (detached.toList ++ others, registry)

def outline (registry : Registry) : Outline :=
  .record "ConnectionRegistry" [("connections", .leaf (Numeral.render registry.size))]

theorem get?_attach (registry : Registry) (connection : Connection) (id : ConnectionId) :
    (registry.attach connection).get? id =
      if id = connection.id then some connection else registry.get? id :=
  Table.get?_insert _ _ _ _

theorem get?_detach (registry : Registry) (detached id : ConnectionId) :
    (registry.detach detached).get? id = if id = detached then none else registry.get? id :=
  Table.get?_erase _ _ _

theorem get?_detachAll (registry : Registry) (test : Connection → Bool) (id : ConnectionId) :
    (registry.detachAll test).get? id = (registry.get? id).filter fun c => !test c :=
  Table.get?_filter _ _ _

end Registry

end Switchboard
