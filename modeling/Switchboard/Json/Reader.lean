import Switchboard.Json.Lexeme

namespace Switchboard.Json

def nextItem (first : Bool) (text : List Char) : Except Fault (Option (List Char)) :=
  match skipSpace text with
  | [] => .error .endInList
  | ']' :: _ => .ok none
  | c :: rest =>
    if first then .ok (some (c :: rest))
    else if c = ',' then
      match skipSpace rest with
      | [] => .error .endInValue
      | ']' :: _ => .error .trailingComma
      | rest => .ok (some rest)
    else .error .expectedListEnd

def closeList (text : List Char) : Except Fault (List Char) :=
  match skipSpace text with
  | [] => .error .endInList
  | ']' :: rest => .ok rest
  | ',' :: rest =>
    match skipSpace rest with
    | ']' :: _ => .error .trailingComma
    | _ => .error .trailingText
  | _ => .error .trailingText

/-- Finds the next member of an object and reads its name: none before the closing brace. -/
def nextName (first : Bool) (text : List Char) : Except Fault (Option (String × List Char)) :=
  match skipSpace text with
  | [] => .error .endInObject
  | '}' :: _ => .ok none
  | c :: rest =>
    if first then
      if c = '"' then some <$> readStringBody rest else .error .keyNotString
    else if c = ',' then
      match skipSpace rest with
      | [] => .error .endInValue
      | '"' :: rest => some <$> readStringBody rest
      | '}' :: _ => .error .trailingComma
      | _ => .error .keyNotString
    else .error .expectedObjectEnd

def readColon (text : List Char) : Except Fault (List Char) :=
  match skipSpace text with
  | [] => .error .endInObject
  | ':' :: rest => .ok rest
  | _ => .error .expectedColon

def closeObject (text : List Char) : Except Fault (List Char) :=
  match skipSpace text with
  | [] => .error .endInObject
  | '}' :: rest => .ok rest
  | ',' :: _ => .error .trailingComma
  | _ => .error .trailingText

/-- Reads the items of a list up to its closing bracket. The bound is at least the length of the
text. -/
def readItems (item : Reader α) : Nat → Bool → Reader (List α)
  | 0, _, _ => .error .endInList
  | bound + 1, first, text => do
    match ← nextItem first text with
    | none => .ok ([], text)
    | some text => do
      let (a, rest) ← item text
      let (as, rest) ← readItems item bound false rest
      .ok (a :: as, rest)

/-- Reads the members of an object up to its closing brace. `member` decides from a name how the
value is read into what has been collected. -/
def readMembers (member : σ → String → Except Fault (Reader σ)) : Nat → Bool → σ → Reader σ
  | 0, _, _, _ => .error .endInObject
  | bound + 1, first, all, text => do
    match ← nextName first text with
    | none => .ok (all, text)
    | some (name, rest) => do
      let read ← member all name
      let rest ← readColon rest
      let (all, rest) ← read rest
      readMembers member bound false all rest

def readValue (room : Nat) : Reader Json := fun text =>
  match skipSpace text with
  | [] => .error .endInValue
  | 'n' :: rest => do
    let rest ← readWord ['u', 'l', 'l'] rest
    .ok (.null, rest)
  | 't' :: rest => do
    let rest ← readWord ['r', 'u', 'e'] rest
    .ok (.bool true, rest)
  | 'f' :: rest => do
    let rest ← readWord ['a', 'l', 's', 'e'] rest
    .ok (.bool false, rest)
  | '"' :: rest => do
    let (s, rest) ← readStringBody rest
    .ok (.string s, rest)
  | '-' :: rest => do
    let (n, rest) ← readNumber true rest
    .ok (.number n, rest)
  | '[' :: rest =>
    match room with
    | 0 => .error .tooDeep
    | room + 1 => do
      let (all, rest) ← readItems (readValue room) (rest.length + 1) true rest
      let rest ← closeList rest
      .ok (.array all, rest)
  | '{' :: rest =>
    match room with
    | 0 => .error .tooDeep
    | room + 1 => do
      let member (all : List (String × Json)) (name : String) :
          Except Fault (Reader (List (String × Json))) :=
        .ok fun text => do
          let (v, rest) ← readValue room text
          .ok (putMember name v all, rest)
      let (all, rest) ← readMembers member (rest.length + 1) true [] rest
      let rest ← closeObject rest
      .ok (.object all, rest)
  | c :: rest =>
    if c.isDigit then do
      let (n, rest) ← readNumber false (c :: rest)
      .ok (.number n, rest)
    else .error .expectedValue

def maxDepth : Nat := 127

/-- Reads a whole text: nothing but blanks may follow the value. -/
def readAll (reader : Nat → Reader α) (text : String) : Except Fault α := do
  let (a, rest) ← reader maxDepth text.toList
  if (skipSpace rest).isEmpty then .ok a else .error .trailingText

def parse (text : String) : Except Fault Json :=
  readAll readValue text

end Switchboard.Json
