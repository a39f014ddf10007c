import Switchboard.Json.Record
import Switchboard.Text.Characters
import Switchboard.Text.LowerCase

namespace Switchboard

open Switchboard.Text

inductive Environment
  | development
  | staging
  | production
deriving DecidableEq

namespace Environment

def initial : Environment := .development

def choices : List (String × Environment) :=
  [("development", .development), ("staging", .staging), ("production", .production)]

def name : Environment → String
  | .development => "development"
  | .staging => "staging"
  | .production => "production"

def title : Environment → String
  | .development => "Development"
  | .staging => "Staging"
  | .production => "Production"

def isProduction (environment : Environment) : Bool :=
  environment == .production

def isDevelopment (environment : Environment) : Bool :=
  environment == .development

def ofText? (text : String) : Option Environment :=
  choices.lookup (String.ofList (lowerCase text.toList))

def reader : Nat → Json.Reader Environment :=
  Json.readName choices

end Environment

/-- When memberships of connections that are gone are given up: never, when a send finds the
connection closed, or as soon as it is detached. -/
inductive Cleanup
  | retain
  | lazy
  | onDisconnect
deriving DecidableEq

namespace Cleanup

def initial : Cleanup := .retain

def choices : List (String × Cleanup) :=
  [("retain", .retain), ("lazy", .lazy), ("on_disconnect", .onDisconnect)]

/-- The spellings that variables may use: also a hyphen in place of the underscore. -/
def spellings : List (String × Cleanup) :=
  choices ++ [("on-disconnect", .onDisconnect)]

def name : Cleanup → String
  | .retain => "retain"
  | .lazy => "lazy"
  | .onDisconnect => "on_disconnect"

def title : Cleanup → String
  | .retain => "Retain"
  | .lazy => "Lazy"
  | .onDisconnect => "OnDisconnect"

/-- A text as policies are compared with it: without blanks around it and in lower case. -/
def normalize (text : String) : String :=
  String.ofList (lowerCase (trim text.toList))

/-- The policy of a spelling, which may be padded with blanks and written in any case. A text that is
no spelling is given back as it was compared. -/
def ofText (text : String) : Except String Cleanup :=
  let normal := normalize text
  match spellings.lookup normal with
  | some cleanup => .ok cleanup
  | none => .error normal

def reader : Nat → Json.Reader Cleanup :=
  Json.readName choices

end Cleanup

end Switchboard
