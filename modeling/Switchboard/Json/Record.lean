import Switchboard.Json.Reader
import Switchboard.Json.Skim

namespace Switchboard.Json

/-- The fault of a value that is not of the expected kind. A value that cannot be named, because it
is itself malformed, is reported as such. -/
def mismatch (expected : String) (text : List Char) : Fault :=
  let wrong (found : Except Fault Found) : Fault :=
    match found with
    | .ok found => .wrongKind found expected
    | .error fault => fault
  let ofNumber : Number → Found
    | .whole n => .whole n
    | .float x => .float x
  match skipSpace text with
  | [] => .endInValue
  | 'n' :: rest => wrong ((fun _ => .null) <$> readWord ['u', 'l', 'l'] rest)
  | 't' :: rest => wrong ((fun _ => .bool true) <$> readWord ['r', 'u', 'e'] rest)
  | 'f' :: rest => wrong ((fun _ => .bool false) <$> readWord ['a', 'l', 's', 'e'] rest)
  | '"' :: rest => wrong ((fun (s, _) => .string s) <$> readStringBody rest)
  | '-' :: rest => wrong ((fun (n, _) => ofNumber n) <$> readNumber true rest)
  | '[' :: _ => wrong (.ok .list)
  | '{' :: _ => wrong (.ok .object)
  | c :: rest =>
    if c.isDigit then wrong ((fun (n, _) => ofNumber n) <$> readNumber false (c :: rest))
    else .expectedValue

def readString (expected : String) : Reader String := fun text =>
  match skipSpace text with
  | '"' :: rest => readStringBody rest
  | text => .error (mismatch expected text)

def readNatural (expected : String) : Reader Nat := fun text =>
  let ofNumber : Number × List Char → Except Fault (Nat × List Char)
    | (.whole n, rest) =>
      if n < 0 then .error (.wrongValue (.whole n) expected) else .ok (n.toNat, rest)
    | (.float x, _) => .error (.wrongKind (.float x) expected)
  match skipSpace text with
  | '-' :: rest => readNumber true rest >>= ofNumber
  | c :: rest =>
    if c.isDigit then readNumber false (c :: rest) >>= ofNumber
    else .error (mismatch expected (c :: rest))
  | [] => .error .endInValue

def readList (item : Nat → Reader α) (room : Nat) : Reader (List α) := fun text =>
  match skipSpace text with
  | '[' :: rest =>
    match room with
    | 0 => .error .tooDeep
    | room + 1 => do
      let (all, rest) ← readItems (item room) (rest.length + 1) true rest
      let rest ← closeList rest
      .ok (all, rest)
  | text => .error (mismatch "a sequence" text)

def chooseName (choices : List (String × α)) (name : String) : Except Fault α :=
  match choices.lookup name with
  | some a => .ok a
  | none => .error (.unknownName name (choices.map Prod.fst))

/-- Reads one of the given names, alone or as the only member of an object that says nothing more
about it. -/
def readName (choices : List (String × α)) (room : Nat) : Reader α := fun text =>
  match skipSpace text with
  | [] => .error .endInValue
  | '"' :: rest => do
    let (name, rest) ← readStringBody rest
    let a ← chooseName choices name
    .ok (a, rest)
  | '{' :: rest =>
    match room with
    | 0 => .error .tooDeep
    | _ + 1 => do
      let (name, rest) ←
        match skipSpace rest with
        | [] => .error .endInObject
        | '"' :: rest => readStringBody rest
        | '}' :: _ => .error .expectedValue
        | _ => .error .keyNotString
      let a ← chooseName choices name
      let rest ← readColon rest
      let rest ←
        match skipSpace rest with
        | 'n' :: rest => readWord ['u', 'l', 'l'] rest
        | text => .error (mismatch "unit" text)
      match skipSpace rest with
      | [] => .error .endInObject
      | '}' :: rest => .ok (a, rest)
      | _ => .error .expectedValue
  | _ => .error .expectedValue

/-- A field of a record: its name, how its value is read, and its value when it is left out, if it
may be. -/
structure Field (α : Type) where
  name : String
  read : Nat → Reader α
  absent : Option α

def Field.resolve (field : Field α) (found : Option α) : Except Fault α :=
  match found <|> field.absent with
  | some a => .ok a
  | none => .error (.missingField field.name)

/-- Reads the value of a field of a record that is written as a list: the value, whether it was
there, and the rest. -/
def Field.readItem (field : Field α) (title : String) (position room : Nat) (first : Bool) :
    Reader α := fun text => do
  match ← nextItem first text with
  | some text => field.read room text
  | none =>
    match field.absent with
    | some a => .ok (a, text)
    | none => .error (.wrongLength position ("struct " ++ title ++ " with 2 elements"))

/-- How a member of an object is read into the two fields collected so far. Members of other names
are passed over. -/
def fieldMember (f : Field α) (g : Field β) (room : Nat) (found : Option α × Option β)
    (name : String) : Except Fault (Reader (Option α × Option β)) :=
  if name = f.name then
    if found.1.isSome then .error (.repeatedField name)
    else .ok fun text => do
      let (a, rest) ← f.read room text
      .ok ((some a, found.2), rest)
  else if name = g.name then
    if found.2.isSome then .error (.repeatedField name)
    else .ok fun text => do
      let (b, rest) ← g.read room text
      .ok ((found.1, some b), rest)
  else .ok fun text => do
    let rest ← skim text
    .ok (found, rest)

def readRecord (title : String) (f : Field α) (g : Field β) (room : Nat) : Reader (α × β) :=
  fun text =>
    match skipSpace text with
    | '[' :: rest =>
      match room with
      | 0 => .error .tooDeep
      | room + 1 => do
        let (a, rest) ← f.readItem title 0 room true rest
        let (b, rest) ← g.readItem title 1 room false rest
        let rest ← closeList rest
        .ok ((a, b), rest)
    | '{' :: rest =>
      match room with
      | 0 => .error .tooDeep
      | room + 1 => do
        let (found, rest) ←
          readMembers (fieldMember f g room) (rest.length + 1) true (none, none) rest
        let a ← f.resolve found.1
        let b ← g.resolve found.2
        let rest ← closeObject rest
        .ok ((a, b), rest)
    | text => .error (mismatch ("struct " ++ title) text)

end Switchboard.Json
