import Switchboard.Json.Basic
import Switchboard.Decimal.Shortest

namespace Switchboard.Json

open Switchboard.Text

def hexDigit (n : Nat) : Char :=
  Nat.digitChar n

def charText (c : Char) : List Char :=
  if c = '"' then ['\\', '"']
  else if c = '\\' then ['\\', '\\']
  else if c = '\x08' then ['\\', 'b']
  else if c = '\x0c' then ['\\', 'f']
  else if c = '\n' then ['\\', 'n']
  else if c = '\r' then ['\\', 'r']
  else if c = '\t' then ['\\', 't']
  else if c.toNat < 0x20 then
    ['\\', 'u', '0', '0', hexDigit (c.toNat / 16), hexDigit (c.toNat % 16)]
  else [c]

def stringText (s : String) : List Char :=
  '"' :: s.toList.flatMap charText ++ ['"']

def Number.text : Number → String
  | .whole n => Numeral.renderInt n
  | .float x => x.text

mutual

def chars : Json → List Char
  | .null => ['n', 'u', 'l', 'l']
  | .bool true => ['t', 'r', 'u', 'e']
  | .bool false => ['f', 'a', 'l', 's', 'e']
  | .number n => n.text.toList
  | .string s => stringText s
  | .array all => '[' :: itemChars all ++ [']']
  | .object all => '{' :: memberChars all ++ ['}']

def itemChars : List Json → List Char
  | [] => []
  | [item] => item.chars
  | item :: rest => item.chars ++ ',' :: itemChars rest

def memberChars : List (String × Json) → List Char
  | [] => []
  | [(name, value)] => stringText name ++ ':' :: value.chars
  | (name, value) :: rest => stringText name ++ ':' :: value.chars ++ ',' :: memberChars rest

end

def text (value : Json) : String :=
  String.ofList value.chars

end Switchboard.Json
