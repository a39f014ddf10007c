import Switchboard.Failure
import Switchboard.Settings.Choices
import Switchboard.Text.Diagnostic
import Switchboard.Text.Numeral

namespace Switchboard

open Switchboard.Text

/-- How many invocations a connection may hold back, and what becomes of the memberships of
connections that are gone. -/
structure LifetimeSettings where
  buffer : Nat
  cleanup : Cleanup
deriving DecidableEq

structure ApplicationSettings where
  name : String
  environment : Environment
deriving DecidableEq

structure Settings where
  application : ApplicationSettings
  lifetime : LifetimeSettings
deriving DecidableEq

abbrev Variables := String → Option String

namespace LifetimeSettings

def maxBuffer : Nat := UInt64.size - 1

def initial : LifetimeSettings :=
  ⟨256, Cleanup.initial⟩

/-- The buffer size that a text names: a numeral from 1 to the largest, with blanks around it. -/
def bufferOfText (text : String) : Except SettingsFault Nat :=
  match Numeral.read maxBuffer (trim text.toList) with
  | .ok n => if n = 0 then .error (.buffer text) else .ok n
  | .error _ => .error (.buffer text)

def cleanupOfText (text : String) : Except SettingsFault Cleanup :=
  match Cleanup.ofText text with
  | .ok cleanup => .ok cleanup
  | .error normal => .error (.cleanup normal)

def ofVariables (given : Variables) : Except SettingsFault LifetimeSettings := do
  let buffer ←
    match given "HUB_CONNECTION_BUFFER" with
    | some text => bufferOfText text
    | none => .ok initial.buffer
  let cleanup ←
    match given "HUB_GROUP_CLEANUP" with
    | some text => cleanupOfText text
    | none => .ok initial.cleanup
  .ok ⟨buffer, cleanup⟩

def bufferField : Json.Field Nat where
  name := "connection_buffer"
  read _ := Json.readNatural "usize"
  absent := some initial.buffer

def cleanupField : Json.Field Cleanup where
  name := "group_cleanup"
  read := Cleanup.reader
  absent := some initial.cleanup

def reader (room : Nat) : Json.Reader LifetimeSettings := fun text => do
  let ((buffer, cleanup), rest) ←
    Json.readRecord "LifetimeConfig" bufferField cleanupField room text
  .ok (⟨buffer, cleanup⟩, rest)

def outline (settings : LifetimeSettings) : Outline :=
  .record "LifetimeConfig"
    [("connection_buffer", .leaf (Numeral.render settings.buffer)),
      ("group_cleanup", .leaf settings.cleanup.title)]

end LifetimeSettings

namespace ApplicationSettings

def initial : ApplicationSettings :=
  ⟨"hub-server", Environment.initial⟩

/-- The settings that variables give. An environment of an unknown name counts as not given. -/
def ofVariables (given : Variables) : ApplicationSettings where
  name := (given "APP_NAME").getD initial.name
  environment := ((given "APP_ENV").bind Environment.ofText?).getD initial.environment

def nameField : Json.Field String where
  name := "name"
  read _ := Json.readString "a string"
  absent := some initial.name

def environmentField : Json.Field Environment where
  name := "env"
  read := Environment.reader
  absent := some initial.environment

def reader (room : Nat) : Json.Reader ApplicationSettings := fun text => do
  let ((name, environment), rest) ←
    Json.readRecord "AppSettings" nameField environmentField room text
  .ok (⟨name, environment⟩, rest)

def outline (settings : ApplicationSettings) : Outline :=
  .record "AppSettings"
    [("name", .leaf (quoted settings.name)), ("env", .leaf settings.environment.title)]

end ApplicationSettings

namespace Settings

def ofVariables (given : Variables) : Except SettingsFault Settings := do
  let lifetime ← LifetimeSettings.ofVariables given
  .ok ⟨ApplicationSettings.ofVariables given, lifetime⟩

def applicationField : Json.Field ApplicationSettings where
  name := "app"
  read := ApplicationSettings.reader
  absent := none

def lifetimeField : Json.Field LifetimeSettings where
  name := "lifetime"
  read := LifetimeSettings.reader
  absent := none

def reader (room : Nat) : Json.Reader Settings := fun text => do
  let ((application, lifetime), rest) ←
    Json.readRecord "AppConfig" applicationField lifetimeField room text
  .ok (⟨application, lifetime⟩, rest)

def outline (settings : Settings) : Outline :=
  .record "AppConfig"
    [("app", settings.application.outline), ("lifetime", settings.lifetime.outline)]

end Settings

end Switchboard
