import Switchboard.Text.Characters

/-!
Files of variables: lines `name=value` with quotes, escapes, comments, and references to variables
that are known by then. A file is read up to its first malformed line; a line that is no text is one.
-/

namespace Switchboard.Variable

/-- The name of the variable that a name is looked for in, and what is looked for in its value. -/
def split (name : List Char) : List Char × List Char :=
  (name.takeWhile (· ≠ '='), name.dropWhile (· ≠ '='))

def after? : List Char → List Char → Option (List Char)
  | [], text => some text
  | _ :: _, [] => none
  | c :: start, d :: text => if c = d then after? start text else none

/-- What is found under a name, given the values of the variables. They are kept as texts `name=value`,
and a name is looked for together with an equals sign: so one that holds an equals sign itself may go on
into the value of a variable. -/
def lookUp (value? : String → Option String) (name : String) : Option String :=
  match split name.toList with
  | (_, []) => value? name
  | (own, _ :: start) => do
    let value ← value? (String.ofList own)
    let rest ← after? (start ++ ['=']) value.toList
    some (String.ofList rest)

end Switchboard.Variable

namespace Switchboard.EnvFile

open Switchboard.Text

/-- Where a character stands with respect to quotes, as far as line ends are concerned. -/
inductive Quoting
  | plain
  | afterBlank
  | escaped
  | single
  | singleEscaped
  | double
  | doubleEscaped
deriving DecidableEq

def Quoting.next (quoting : Quoting) (c : Char) : Quoting :=
  let ofPlain : Quoting :=
    if c = '\\' then .escaped
    else if c = '"' then .double
    else if c = '\'' then .single
    else .plain
  match quoting with
  | .afterBlank => ofPlain
  | .escaped => .plain
  | .plain => if isBlank c && c ≠ '\n' && c ≠ '\r' then .afterBlank else ofPlain
  | .double => if c = '\\' then .doubleEscaped else if c = '"' then .plain else .double
  | .doubleEscaped => .double
  | .single => if c = '\\' then .singleEscaped else if c = '\'' then .plain else .single
  | .singleEscaped => .single

/-- The line up to a comment that starts directly after a single blank; otherwise the place where it
ends. -/
def scan (quoting : Quoting) : List Char → List Char × Option Quoting
  | [] => ([], some quoting)
  | c :: rest =>
    if quoting = .afterBlank && c = '#' then ([], none)
    else
      let (line, ending) := scan (quoting.next c) rest
      (c :: line, ending)

/-- The lines of a file, each with the byte that ends it. -/
def lines : List UInt8 → List (List UInt8)
  | [] => []
  | 10 :: rest => [10] :: lines rest
  | byte :: rest =>
    match lines rest with
    | [] => [[byte]]
    | line :: more => (byte :: line) :: more

def legible : List (List UInt8) → List (List Char)
  | [] => []
  | line :: rest =>
    match String.fromUTF8? line.toByteArray with
    | none => []
    | some text => text.toList :: legible rest

/-- An entry may go over several lines when a quote is open at the end of one: the parts of a file,
ended by `none` when the last one is never complete. `before` holds the lines of the part so far. -/
def parts (before : List Char) (quoting : Quoting) : List (List Char) → List (Option (List Char))
  | [] => if quoting = .plain then [] else [none]
  | line :: rest =>
    if (trimStart (before ++ line)).head? = some '#' then some [] :: parts [] .plain rest
    else
      match scan quoting line with
      | (kept, none) => some (before ++ kept) :: parts [] .plain rest
      | (_, some .plain) => some (before ++ line) :: parts [] .plain rest
      | (_, some quoting) => parts (before ++ line) quoting rest

/-- What the next character of a value is part of. The quoted places remember whether they are inside
double quotes. -/
inductive Place
  | bare
  | single
  | double
  | escape (inDouble : Bool)
  | reference (inDouble : Bool) (name : List Char)
  | bracedReference (inDouble : Bool) (name : List Char)
  | afterValue
deriving DecidableEq

def Place.outside (inDouble : Bool) : Place :=
  if inDouble then .double else .bare

def escaped? (c : Char) : Option Char :=
  if c = '\\' ∨ c = '\'' ∨ c = '"' ∨ c = '$' ∨ c = ' ' then some c
  else if c = 'n' then some '\n'
  else none

def resolve (known : String → Option String) (name : List Char) : List Char :=
  ((Variable.lookUp known (String.ofList name)).getD "").toList

/-- Reads a value from a place on; none if it is malformed. A reference ends before the first
character that cannot be part of its name, and that character stands for itself. -/
def value? (known : String → Option String) (place : Place) : List Char → Option (List Char)
  | [] =>
    match place with
    | .bare | .afterValue | .escape false => some []
    | .reference false name => some (resolve known name)
    | _ => none
  | c :: rest =>
    match place with
    | .afterValue =>
      if c = ' ' ∨ c = '\t' then value? known .afterValue rest
      else if c = '#' then some []
      else none
    | .escape inDouble =>
      match escaped? c with
      | some d => (value? known (.outside inDouble) rest).map (d :: ·)
      | none => none
    | .single =>
      if c = '\'' then value? known .bare rest
      else (value? known .single rest).map (c :: ·)
    | .reference inDouble name =>
      if isWordCharacter c then value? known (.reference inDouble (name ++ [c])) rest
      else if c = '{' ∧ name = [] then value? known (.bracedReference inDouble []) rest
      else if c = '$' then
        (value? known (.reference inDouble []) rest).map (resolve known name ++ ·)
      else (value? known (.outside inDouble) rest).map (resolve known name ++ c :: ·)
    | .bracedReference inDouble name =>
      if c = '}' then
        (value? known (.outside inDouble) rest).map (resolve known name ++ ·)
      else value? known (.bracedReference inDouble (name ++ [c])) rest
    | .double =>
      if c = '$' then value? known (.reference true []) rest
      else if c = '"' then value? known .bare rest
      else if c = '\\' then value? known (.escape true) rest
      else (value? known .double rest).map (c :: ·)
    | .bare =>
      if c = '$' then value? known (.reference false []) rest
      else if c = '\'' then value? known .single rest
      else if c = '"' then value? known .double rest
      else if c = '\\' then value? known (.escape false) rest
      else if c = ' ' ∨ c = '\t' then value? known .afterValue rest
      else (value? known .bare rest).map (c :: ·)

def startsName (c : Char) : Bool :=
  c.isAlpha || c = '_'

def continuesName (c : Char) : Bool :=
  c.isAlphanum || c = '_' || c = '.'

def name? (line : List Char) : Option (List Char × List Char) :=
  if line.head?.any startsName then
    some (line.takeWhile continuesName, line.dropWhile continuesName)
  else none

def equals? : List Char → Option (List Char)
  | '=' :: rest => some rest
  | _ => none

/-- Takes a name and an equals sign off the front of a line, with blanks around the name. The word
`export` before the name is passed over. -/
def binding? (line : List Char) : Option (List Char × List Char) := do
  let (name, rest) ← name? line
  let rest := trimStart rest
  match equals? rest with
  | some rest => some (name, rest)
  | none =>
    if name = "export".toList then do
      let (name, rest) ← name? rest
      let rest ← equals? (trimStart rest)
      some (name, rest)
    else none

/-- Reads a part of a file: `some none` if it says nothing, `none` if it is malformed. -/
def entryOf? (known : String → Option String) (part : List Char) :
    Option (Option (String × String)) :=
  let line := trimStart (trimEnd part)
  if line.isEmpty || line.head? = some '#' then some none
  else do
    let (name, rest) ← binding? line
    let rest := trimStart rest
    if rest.isEmpty || rest.head? = some '#' then some (some (String.ofList name, ""))
    else do
      let value ← value? known .bare rest
      some (some (String.ofList name, String.ofList value))

/-- The parts of a file. A byte order mark at its start is passed over. -/
def partsOf (file : ByteArray) : List (Option (List Char)) :=
  let bytes :=
    match file.data.toList with
    | 0xef :: 0xbb :: 0xbf :: rest => rest
    | bytes => bytes
  parts [] .plain (legible (lines bytes))

def withEntry (known : String → Option String) (entry : String × String) :
    String → Option String :=
  fun name => known name <|> if name = entry.1 then some entry.2 else none

def entriesOf (known : String → Option String) :
    List (Option (List Char)) → List (String × String)
  | [] => []
  | none :: _ => []
  | some part :: rest =>
    match entryOf? known part with
    | none => []
    | some none => entriesOf known rest
    | some (some entry) => entry :: entriesOf (withEntry known entry) rest

def entries (known : String → Option String) (file : ByteArray) : List (String × String) :=
  entriesOf known (partsOf file)

end Switchboard.EnvFile
