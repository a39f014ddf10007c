import Switchboard.Settings.Basic
import Switchboard.Settings.EnvFile
import Switchboard.Table
import Switchboard.Text.Diagnostic

namespace Switchboard

open Switchboard.Text

/-- Why a variable cannot be set: the character that ends texts is part of its name or its value, or
it has no proper name. -/
inductive Unsettable.Cause
  | zeroCharacter
  | improperName
deriving DecidableEq

structure Unsettable where
  name : String
  value : String
  cause : Unsettable.Cause
deriving DecidableEq

def Unsettable.Cause.message : Unsettable.Cause → String
  | .zeroCharacter => "file name contained an unexpected NUL byte"
  | .improperName => "Invalid argument (os error 22)"

def Unsettable.message (fault : Unsettable) : String :=
  "failed to set environment variable `" ++ quoted fault.name ++ "` to `" ++ quoted fault.value ++
    "`: " ++ fault.cause.message

/-- The variables around the program. Their values are bytes, which need not be a text. -/
structure Ambient where
  «variables» : Table String ByteArray

namespace Ambient

/-- The value of a variable; none if it is not set or no text. -/
def value? (ambient : Ambient) (name : String) : Option String :=
  (ambient.variables.get? name).bind String.fromUTF8?

def lookup (ambient : Ambient) (name : String) : Option String :=
  Variable.lookUp ambient.value? name

def set (ambient : Ambient) (name value : String) : Except Unsettable Ambient :=
  if name.toList.contains '\x00' || value.toList.contains '\x00' then
    .error ⟨name, value, .zeroCharacter⟩
  else if name.isEmpty || name.toList.contains '=' then .error ⟨name, value, .improperName⟩
  else .ok ⟨ambient.variables.insert name value.toUTF8⟩

def complete (ambient : Ambient) (entry : String × String) : Except Unsettable Ambient :=
  if (ambient.lookup entry.1).isSome then .ok ambient else ambient.set entry.1 entry.2

def load (ambient : Ambient) (file : Option ByteArray) : Except Unsettable Ambient :=
  match file with
  | none => .ok ambient
  | some file => (EnvFile.entries ambient.value? file).foldlM complete ambient

def settings (ambient : Ambient) (file : Option ByteArray) :
    Except Unsettable (Ambient × Except SettingsFault Settings) := do
  let ambient ← ambient.load file
  .ok (ambient, Settings.ofVariables ambient.lookup)

end Ambient

end Switchboard
