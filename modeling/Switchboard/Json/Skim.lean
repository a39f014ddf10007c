import Switchboard.Json.Lexeme

/-!
Passing over a value without building it. Only its form is checked: numbers may be too large and
escapes may be halves of pairs, and containers may be nested to any depth.
-/

namespace Switchboard.Json

def skimChars : Nat → List Char → Except Fault (List Char)
  | 0, _ => .error .endInString
  | bound + 1, text =>
    match text with
    | [] => .error .endInString
    | '"' :: rest => .ok rest
    | '\\' :: [] => .error .endInString
    | '\\' :: 'u' :: rest => do
      let (_, rest) ← readHexUnit rest
      skimChars bound rest
    | '\\' :: letter :: rest =>
      if (escaped? letter).isSome then skimChars bound rest else .error .invalidEscape
    | c :: rest => if c.toNat < 0x20 then .error .controlCharacter else skimChars bound rest

def skimString (text : List Char) : Except Fault (List Char) :=
  skimChars (text.length + 1) text

def skimExponent (text : List Char) : Except Fault (List Char) :=
  let text :=
    match text with
    | '+' :: rest => rest
    | '-' :: rest => rest
    | _ => text
  let (digits, rest) := spanDigits text
  if digits.isEmpty then .error .invalidNumber else .ok rest

def skimTail (text : List Char) : Except Fault (List Char) :=
  match text with
  | 'e' :: rest => skimExponent rest
  | 'E' :: rest => skimExponent rest
  | _ => .ok text

def skimNumber (text : List Char) : Except Fault (List Char) :=
  let afterWhole (text : List Char) : Except Fault (List Char) :=
    match text with
    | '.' :: rest =>
      let (digits, rest) := spanDigits rest
      if digits.isEmpty then .error .invalidNumber else skimTail rest
    | _ => skimTail text
  match text with
  | '0' :: rest =>
    if rest.head?.any Char.isDigit then .error .invalidNumber else afterWhole rest
  | _ =>
    let (digits, rest) := spanDigits text
    if digits.isEmpty then .error .invalidNumber else afterWhole rest

/-- Passes over the items of a list up to its end, each by `item`. The bound is at least the length
of the text. -/
def skimItems (item : List Char → Except Fault (List Char)) :
    Nat → List Char → Except Fault (List Char)
  | 0, _ => .error .endInList
  | bound + 1, text => do
    let rest ← item text
    match skipSpace rest with
    | [] => .error .endInList
    | ',' :: rest => skimItems item bound rest
    | ']' :: rest => .ok rest
    | _ => .error .expectedListEnd

def skimName (text : List Char) : Except Fault (List Char) :=
  match skipSpace text with
  | [] => .error .endInObject
  | '"' :: rest => do
    let rest ← skimString rest
    match skipSpace rest with
    | [] => .error .endInObject
    | ':' :: rest => .ok rest
    | _ => .error .expectedColon
  | _ => .error .keyNotString

def skimMembers (item : List Char → Except Fault (List Char)) :
    Nat → List Char → Except Fault (List Char)
  | 0, _ => .error .endInObject
  | bound + 1, text => do
    let rest ← skimName text
    let rest ← item rest
    match skipSpace rest with
    | [] => .error .endInObject
    | ',' :: rest => skimMembers item bound rest
    | '}' :: rest => .ok rest
    | _ => .error .expectedObjectEnd

/-- Passes over a value in which containers are nested at most `room` deep. -/
def skimWithin (room : Nat) (text : List Char) : Except Fault (List Char) :=
  match skipSpace text with
  | [] => .error .endInValue
  | 'n' :: rest => readWord ['u', 'l', 'l'] rest
  | 't' :: rest => readWord ['r', 'u', 'e'] rest
  | 'f' :: rest => readWord ['a', 'l', 's', 'e'] rest
  | '"' :: rest => skimString rest
  | '-' :: rest => skimNumber rest
  | '[' :: rest =>
    match room with
    | 0 => .error .tooDeep
    | room + 1 =>
      match skipSpace rest with
      | [] => .error .endInList
      | ']' :: rest => .ok rest
      | rest => skimItems (skimWithin room) (rest.length + 1) rest
  | '{' :: rest =>
    match room with
    | 0 => .error .tooDeep
    | room + 1 =>
      match skipSpace rest with
      | [] => .error .endInObject
      | '}' :: rest => .ok rest
      | rest => skimMembers (skimWithin room) (rest.length + 1) rest
  | c :: rest => if c.isDigit then skimNumber (c :: rest) else .error .expectedValue

/-- Passes over a value of any depth: a text has room for no more containers than characters. -/
def skim (text : List Char) : Except Fault (List Char) :=
  skimWithin (text.length + 1) text

end Switchboard.Json
