import Switchboard.Json.Printer
import Switchboard.Json.Record

namespace Switchboard

/-- A call of a method of the client. -/
structure Invocation where
  target : String
  arguments : List Json

namespace Invocation

def arity (invocation : Invocation) : Nat :=
  invocation.arguments.length

def same (a b : Invocation) : Bool :=
  a.target == b.target && Json.sameItems a.arguments b.arguments

/-- The JSON text of an invocation, with its fields in their own order. -/
def text (invocation : Invocation) : String :=
  (Json.object [("target", .string invocation.target), ("arguments", .array invocation.arguments)]).text

def targetField : Json.Field String where
  name := "target"
  read _ := Json.readString "a string"
  absent := none

def argumentsField : Json.Field (List Json) where
  name := "arguments"
  read := Json.readList Json.readValue
  absent := some []

def reader (room : Nat) : Json.Reader Invocation := fun text => do
  let ((target, arguments), rest) ← Json.readRecord "Invocation" targetField argumentsField room text
  .ok (⟨target, arguments⟩, rest)

def parse (text : String) : Except Json.Fault Invocation :=
  Json.readAll reader text

end Invocation

inductive Refusal
  | closed
  | full
deriving DecidableEq

namespace Refusal

def message : Refusal → String
  | .closed => "Connection is closed"
  | .full => "Connection send buffer is full"

def title : Refusal → String
  | .closed => "Closed"
  | .full => "Full"

def isClosed (refusal : Refusal) : Bool :=
  refusal == .closed

end Refusal

inductive Answer
  | accepted
  | refused (refusal : Refusal)
deriving DecidableEq

end Switchboard
