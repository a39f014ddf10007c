import Switchboard.Text.Diagnostic

namespace Switchboard

open Switchboard.Text

/-- The text by which clients and groups refer to a connection. -/
structure ConnectionId where
  text : String
deriving DecidableEq

namespace ConnectionId

def description (id : ConnectionId) : String :=
  "ConnectionId(" ++ quoted id.text ++ ")"

def nibble (bits position : Nat) : Char :=
  Nat.digitChar (bits / Nat.pow 16 position % 16)

/-- The identifier made from 122 random bits: five groups of hexadecimal digits, among them the
version and the variant that mark it as random. -/
def ofRandomBits (bits : Nat) : ConnectionId :=
  let digits (first count : Nat) := (List.range count).map fun i => nibble bits (first + i)
  let variant := Nat.digitChar (8 + bits / Nat.pow 16 30 % 4)
  ⟨String.ofList
    (digits 0 8 ++ '-' :: digits 8 4 ++ '-' :: '4' :: digits 12 3 ++
      '-' :: variant :: digits 15 3 ++ '-' :: digits 18 12)⟩

def isHexDigit (c : Char) : Bool :=
  c.isDigit || ('a' ≤ c && c ≤ 'f')

def isRandom (id : ConnectionId) : Bool :=
  let chars := id.text.toList
  let fits (position : Nat) (c : Char) : Bool :=
    if position = 8 ∨ position = 13 ∨ position = 18 ∨ position = 23 then c = '-'
    else if position = 14 then c = '4'
    else if position = 19 then c = '8' || c = '9' || c = 'a' || c = 'b'
    else isHexDigit c
  chars.length = 36 && (chars.zipIdx.all fun (c, position) => fits position c)

end ConnectionId

/-- One connection. Two connections may have the same identifier, when a client comes back before its
old connection is gone; the serial number tells them apart. -/
structure Connection where
  serial : Nat
  id : ConnectionId
deriving DecidableEq

end Switchboard
