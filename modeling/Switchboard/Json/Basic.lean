import Switchboard.Decimal.Binary64

namespace Switchboard

open Decimal

/-- A number of a JSON value: whole and within 64 bits, or a floating-point number. -/
inductive Json.Number
  | whole (n : Int)
  | float (x : Binary64)
deriving DecidableEq

inductive Json
  | null
  | bool (b : Bool)
  | number (n : Json.Number)
  | string (s : String)
  | array (items : List Json)
  | object (members : List (String × Json))

namespace Json

/-- Equality of numbers: a whole one is never equal to a floating-point one. -/
def Number.same : Number → Number → Bool
  | .whole m, .whole n => m == n
  | .float x, .float y => x.same y
  | _, _ => false

mutual

def same : Json → Json → Bool
  | .null, .null => true
  | .bool a, .bool b => a == b
  | .number m, .number n => m.same n
  | .string s, .string t => s == t
  | .array xs, .array ys => sameItems xs ys
  | .object xs, .object ys => sameMembers xs ys
  | _, _ => false

def sameItems : List Json → List Json → Bool
  | [], [] => true
  | x :: xs, y :: ys => x.same y && sameItems xs ys
  | _, _ => false

def sameMembers : List (String × Json) → List (String × Json) → Bool
  | [], [] => true
  | (j, x) :: xs, (k, y) :: ys => j == k && x.same y && sameMembers xs ys
  | _, _ => false

end

/-- Sets a member, in place of an earlier one of the same name. -/
def putMember (name : String) (value : Json) : List (String × Json) → List (String × Json)
  | [] => [(name, value)]
  | (other, old) :: rest =>
    if name = other then (name, value) :: rest
    else if name < other then (name, value) :: (other, old) :: rest
    else (other, old) :: putMember name value rest

/-- An object of the given members; the last of one name counts. -/
def ofMembers (members : List (String × Json)) : Json :=
  .object (members.foldl (fun all (name, value) => putMember name value all) [])

def ofInt (n : Int) : Json :=
  .number (.whole n)

def ofNat (n : Nat) : Json :=
  ofInt n

def member? (name : String) : Json → Option Json
  | .object members => members.lookup name
  | _ => none

mutual

def depth : Json → Nat
  | .array items => depthItems items + 1
  | .object members => depthMembers members + 1
  | _ => 0

def depthItems : List Json → Nat
  | [] => 0
  | item :: rest => max item.depth (depthItems rest)

def depthMembers : List (String × Json) → Nat
  | [] => 0
  | (_, value) :: rest => max value.depth (depthMembers rest)

end

end Json

end Switchboard
