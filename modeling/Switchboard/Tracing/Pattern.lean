import Switchboard.Text.Characters
import Switchboard.Text.Numeral

/-!
The values that a directive may ask a field for: a truth value, a number, or a pattern that the value
has to match. Only what counts as such a text is settled here.

A text is a pattern if it is well formed, describes texts, and does not nest too deeply. Classes of
letters and digits and the edges of words are known for ASCII alone, and so are the two cases of a
letter: a pattern that needs them for all scripts is refused, and so is one for ASCII that would match
half a character. A value stands between braces, so it holds no closing brace: whatever needs one is
malformed.
-/

namespace Switchboard.Tracing.Pattern

open Switchboard.Text

/-- How a part of a pattern is read: for all scripts or for ASCII, with both cases of a letter being
alike or not, and with blanks and comments passed over or not. -/
structure Mode where
  allScripts : Bool
  anyCase : Bool
  spaced : Bool
deriving DecidableEq

def Mode.initial : Mode := ⟨true, false, false⟩

def skipSpaced (inComment : Bool) : List Char → List Char
  | [] => []
  | c :: rest =>
    if inComment then skipSpaced (c ≠ '\n') rest
    else if isBlank c then skipSpaced false rest
    else if c = '#' then skipSpaced true rest
    else c :: rest

def Mode.skip (mode : Mode) (text : List Char) : List Char :=
  if mode.spaced then skipSpaced false text else text

def Mode.admitsLiteral (mode : Mode) : Bool :=
  !mode.allScripts || !mode.anyCase

/-- What an escape stands for: a character or a byte of its own, a class of characters or all others,
the edge of a word, or an end of the text. -/
inductive Escape
  | literal (c : Char)
  | byte (c : Char)
  | kind (negated : Bool)
  | wordEdge
  | textEnd
deriving DecidableEq

/-- Reads a number of exactly so many hexadecimal digits, given the value of those before. -/
def readDigits? (mode : Mode) (value : Nat) : Nat → List Char → Option (Nat × List Char)
  | 0, text => some (value, text)
  | count + 1, text =>
    match mode.skip text with
    | [] => none
    | c :: rest => do
      let d ← Numeral.hexValue? c
      readDigits? mode (16 * value + d) count rest

def readCodePoint? (mode : Mode) (count : Nat) (text : List Char) : Option (Char × List Char) := do
  let (n, rest) ← readDigits? mode 0 count text
  if n.isValidChar then some (Char.ofNat n, rest) else none

def readEscape? (mode : Mode) : List Char → Option (Escape × List Char)
  | [] => none
  | c :: rest =>
    if c = 'x' then (readCodePoint? mode 2 rest).map fun (c, rest) => (.byte c, rest)
    else if c = 'u' then (readCodePoint? mode 4 rest).map fun (c, rest) => (.literal c, rest)
    else if c = 'U' then (readCodePoint? mode 8 rest).map fun (c, rest) => (.literal c, rest)
    else if c = 'd' ∨ c = 's' ∨ c = 'w' then some (.kind false, rest)
    else if c = 'D' ∨ c = 'S' ∨ c = 'W' then some (.kind true, rest)
    else if c = 'b' ∨ c = 'B' ∨ c = '<' ∨ c = '>' then some (.wordEdge, rest)
    else if c = 'A' ∨ c = 'z' then some (.textEnd, rest)
    else if c = 'a' then some (.literal '\x07', rest)
    else if c = 'f' then some (.literal '\x0c', rest)
    else if c = 't' then some (.literal '\t', rest)
    else if c = 'n' then some (.literal '\n', rest)
    else if c = 'r' then some (.literal '\r', rest)
    else if c = 'v' then some (.literal '\x0b', rest)
    else if c.toNat < 0x80 && !c.isAlphanum then some (.literal c, rest)
    else none

def Mode.admitsMember (mode : Mode) (c : Char) : Bool :=
  if mode.allScripts then !mode.anyCase else c.toNat < 0x80

/-- Whether a class or all characters outside of it may be asked for. -/
def Mode.admitsKind (mode : Mode) (negated : Bool) : Bool :=
  if mode.allScripts then !mode.anyCase else !negated

def readMember? (mode : Mode) : List Char → Option (Option Char × List Char)
  | [] => none
  | '\\' :: rest => do
    match ← readEscape? mode rest with
    | (.literal c, rest) => if mode.admitsMember c then some (some c, rest) else none
    | (.byte c, rest) => if mode.admitsMember c then some (some c, rest) else none
    | (.kind negated, rest) => if mode.allScripts || negated then none else some (none, rest)
    | _ => none
  | c :: rest => if mode.admitsMember c then some (some c, rest) else none

/-- The character that decides what a dash before some text is. Where blanks are passed over, so is one
number sign, but not what it says. -/
def Mode.lookPast (mode : Mode) (text : List Char) : Option Char :=
  if mode.spaced then
    let next := trimStart text
    let next := if next.head? = some '#' then trimStart next.tail else next
    next.head? <|> text.head?
  else text.head?

/-- Reads a member of a class or a range of them, and gives the rest. A dash stands for itself when it
is the last of a class or one of two that join classes. -/
def readRange? (mode : Mode) (text : List Char) : Option (List Char) := do
  let (first, rest) ← readMember? mode text
  match mode.skip rest with
  | '-' :: afterDash =>
    let next := mode.lookPast afterDash
    if next = some ']' || next = some '-' then some ('-' :: afterDash)
    else do
      let (last, rest) ← readMember? mode (mode.skip afterDash)
      if (← first) ≤ (← last) then some rest else none
  | rest => some rest

def kindNames : List String :=
  ["alnum", "alpha", "ascii", "blank", "cntrl", "digit", "graph", "lower", "print", "punct", "space",
    "upper", "word", "xdigit"]

/-- Reads a kind that is given by its name after an opening bracket: whether it is negated, and the
rest. -/
def readKind? : List Char → Option (Bool × List Char)
  | ':' :: rest =>
    let negated := rest.head? = some '^'
    let rest := if negated then rest.tail else rest
    let name := String.ofList (rest.takeWhile (· ≠ ':'))
    match rest.dropWhile (· ≠ ':') with
    | ':' :: ']' :: rest => if kindNames.contains name then some (negated, rest) else none
    | _ => none
  | _ => none

/-- The members of a class that have been read: how deep the classes nest that were joined with it, how
many members there are since, and how deep these nest. -/
structure Members where
  joined : Option Nat
  count : Nat
  deepest : Nat
deriving DecidableEq

namespace Members

def none : Members := ⟨.none, 0, 0⟩

def add (members : Members) (depth : Nat) : Members :=
  { members with count := members.count + 1, deepest := max members.deepest depth }

/-- How deep a class nests: several members are one level deeper than a single one, and so are classes
that are joined. -/
def depth (members : Members) : Nat :=
  let depth := if members.count ≤ 1 then members.deepest else members.deepest + 1
  match members.joined with
  | .none => depth
  | some joined => max joined depth + 1

def join (members : Members) : Members := ⟨some members.depth, 0, 0⟩

end Members

def readDashes (mode : Mode) (members : Members) : Nat → List Char → Members × List Char
  | 0, text => (members, text)
  | bound + 1, text =>
    match mode.skip text with
    | '-' :: rest => readDashes mode (members.add 0) bound rest
    | text => (members, text)

/-- Reads what follows an opening bracket: a negation, then dashes or a closing bracket that stand for
themselves. -/
def openClass? (mode : Mode) (text : List Char) : Option (Members × List Char) := do
  let text := mode.skip text
  let negated := text.head? = some '^'
  let text := if negated then mode.skip text.tail else text
  if negated && !mode.allScripts then none
  else
    match text with
    | '-' :: _ =>
      if mode.admitsMember '-' then some (readDashes mode .none text.length text) else none
    | ']' :: rest => if mode.admitsMember ']' then some (Members.none.add 0, rest) else none
    | text => some (.none, text)

/-- Reads on inside brackets up to the closing one, and tells how deep the class nests. `outer` holds
the members of the classes around this one; the bound is at least the length of the text. -/
def closeClass? (mode : Mode) (members : Members) (outer : List Members) :
    Nat → List Char → Option (Nat × List Char)
  | 0, _ => none
  | bound + 1, text =>
    match mode.skip text with
    | [] => none
    | ']' :: rest =>
      match outer with
      | [] => some (members.depth + 1, rest)
      | around :: outer => closeClass? mode (around.add (members.depth + 1)) outer bound rest
    | '[' :: rest =>
      match readKind? rest with
      | some (negated, rest) =>
        if mode.admitsKind negated then closeClass? mode (members.add 0) outer bound rest else none
      | none => do
        let (inner, rest) ← openClass? mode rest
        closeClass? mode inner (members :: outer) bound rest
    | '&' :: '&' :: rest => closeClass? mode members.join outer bound rest
    | '-' :: '-' :: rest => closeClass? mode members.join outer bound rest
    | '~' :: '~' :: rest => closeClass? mode members.join outer bound rest
    | text => (readRange? mode text).bind (closeClass? mode (members.add 0) outer bound)

def readClass? (mode : Mode) (text : List Char) : Option (Nat × List Char) := do
  let (members, inside) ← openClass? mode text
  closeClass? mode members [] (inside.length + 1) inside

def flags : List Char :=
  ['i', 'm', 's', 'U', 'u', 'R', 'x', '-']

/-- Whether some letters may change the mode: none twice, and a minus sign before others only. -/
def areFlags (letters : List Char) : Bool :=
  letters.all flags.contains && letters.eraseDups.length = letters.length &&
    letters.getLast? ≠ some '-'

/-- A switch of the mode after some letters: on before a minus sign and off after it. -/
def switched (letters : List Char) (letter : Char) (before : Bool) : Bool :=
  if (letters.takeWhile (· ≠ '-')).contains letter then true
  else if letters.contains letter then false
  else before

def Mode.change (mode : Mode) (letters : List Char) : Mode where
  allScripts := switched letters 'u' mode.allScripts
  anyCase := switched letters 'i' mode.anyCase
  spaced := switched letters 'x' mode.spaced

def isGroupName : List Char → Bool
  | [] => false
  | c :: rest =>
    (c = '_' || isLetter c) &&
      rest.all fun c => c = '_' || c = '.' || c = '[' || c = ']' || isWordCharacter c

/-- A part of a pattern: how deep it nests, and whether it may be repeated. -/
structure Part where
  depth : Nat
  repeatable : Bool
deriving DecidableEq

/-- What has been read of a group: how deep the branches before this one nest, how deep the parts of
this branch do that are followed by others, and its last part. -/
structure Contents where
  branches : Option Nat
  earlier : Option Nat
  last : Option Part
deriving DecidableEq

namespace Contents

def empty : Contents := ⟨none, none, none⟩

def add (contents : Contents) (part : Part) : Contents :=
  match contents.last with
  | none => { contents with last := some part }
  | some last =>
    { contents with earlier := some (max (contents.earlier.getD 0) last.depth), last := some part }

def branchDepth (contents : Contents) : Nat :=
  match contents.earlier, contents.last with
  | _, none => 0
  | none, some last => last.depth
  | some earlier, some last => max earlier last.depth + 1

def depth (contents : Contents) : Nat :=
  match contents.branches with
  | none => contents.branchDepth
  | some branches => max branches contents.branchDepth + 1

def branch (contents : Contents) : Contents :=
  ⟨some (max (contents.branches.getD 0) contents.branchDepth), none, none⟩

def repeatLast (contents : Contents) : Option Contents :=
  match contents.last with
  | some ⟨depth, true⟩ => some { contents with last := some ⟨depth + 1, true⟩ }
  | _ => none

end Contents

/-- What has been read of a pattern: the mode, the contents of the innermost open group, the modes and
the contents outside of the open groups, and the names of groups. -/
structure Progress where
  mode : Mode
  contents : Contents
  outer : List (Mode × Contents)
  names : List (List Char)
deriving DecidableEq

namespace Progress

def start : Progress := ⟨.initial, .empty, [], []⟩

def after (progress : Progress) (depth : Nat) : Progress :=
  { progress with contents := progress.contents.add ⟨depth, true⟩ }

def inside (progress : Progress) (mode : Mode) : Progress :=
  { progress with
    mode
    contents := .empty
    outer := (progress.mode, progress.contents) :: progress.outer }

def openNamed (progress : Progress) (text : List Char) : Option (Progress × List Char) :=
  let name := text.takeWhile (· ≠ '>')
  match text.dropWhile (· ≠ '>') with
  | '>' :: rest =>
    if isGroupName name && !progress.names.contains name then
      some ({ progress.inside progress.mode with names := name :: progress.names }, rest)
    else none
  | _ => none

/-- Reads letters that change the mode, either inside a group or for what follows. In the latter case
they are a part that cannot be repeated. -/
def openFlagged (progress : Progress) (text : List Char) : Option (Progress × List Char) :=
  let letters := text.takeWhile fun c => c ≠ ':' && c ≠ ')'
  let mode := progress.mode.change letters
  if !areFlags letters then none
  else
    match text.dropWhile fun c => c ≠ ':' && c ≠ ')' with
    | ':' :: rest => some (progress.inside mode, rest)
    | ')' :: rest =>
      if letters.isEmpty then none
      else some ({ progress with mode, contents := progress.contents.add ⟨0, false⟩ }, rest)
    | _ => none

def openGroup (progress : Progress) (text : List Char) : Option (Progress × List Char) :=
  match progress.mode.skip text with
  | '?' :: 'P' :: '<' :: rest => progress.openNamed rest
  | '?' :: '<' :: rest => progress.openNamed rest
  | '?' :: rest => progress.openFlagged rest
  | rest => some (progress.inside progress.mode, rest)

def closeGroup (progress : Progress) : Option Progress :=
  match progress.outer with
  | [] => none
  | (mode, contents) :: outer =>
    some { progress with
      mode
      contents := contents.add ⟨progress.contents.depth + 1, true⟩
      outer }

def readEscape (progress : Progress) (text : List Char) : Option (Progress × List Char) := do
  let mode := progress.mode
  let (escape, rest) ← readEscape? mode text
  let admitted :=
    match escape with
    | .literal _ => mode.admitsLiteral
    | .byte c => mode.admitsLiteral && (mode.allScripts || c.toNat < 0x80)
    | .kind negated => !mode.allScripts && !negated
    | .wordEdge => !mode.allScripts
    | .textEnd => true
  if admitted then some (progress.after 0, rest) else none

/-- Reads one part of a pattern, given its first character. A repetition may be followed by a question
mark of its own. -/
def step (progress : Progress) (c : Char) (rest : List Char) : Option (Progress × List Char) :=
  if c = '(' then progress.openGroup rest
  else if c = ')' then progress.closeGroup.map fun progress => (progress, rest)
  else if c = '|' then some ({ progress with contents := progress.contents.branch }, rest)
  else if c = '[' then
    (readClass? progress.mode rest).map fun (depth, rest) => (progress.after depth, rest)
  else if c = '*' ∨ c = '+' ∨ c = '?' then
    progress.contents.repeatLast.map fun contents =>
      ({ progress with contents }, if rest.head? = some '?' then rest.tail else rest)
  else if c = '{' then none
  else if c = '\\' then progress.readEscape rest
  else if c = '.' then if progress.mode.allScripts then some (progress.after 0, rest) else none
  else if c = '^' ∨ c = '$' then some (progress.after 0, rest)
  else if progress.mode.admitsLiteral then some (progress.after 0, rest)
  else none

def maxDepth : Nat := 250

/-- Whether the rest of a pattern is well formed. The bound is at least its length. -/
def completes (progress : Progress) : Nat → List Char → Bool
  | 0, _ => false
  | bound + 1, text =>
    match progress.mode.skip text with
    | [] => progress.outer.isEmpty && progress.contents.depth ≤ maxDepth
    | c :: rest =>
      match progress.step c rest with
      | none => false
      | some (progress, rest) => progress.completes bound rest

end Progress

def isPattern (text : List Char) : Bool :=
  Progress.start.completes (text.length + 1) text

/-- Whether a text is a number with a plus sign, which as a pattern would be malformed. -/
def isSignedNumber : List Char → Bool
  | '+' :: text =>
    let word := text.map Char.toLower
    let whole := text.takeWhile Char.isDigit
    let rest := text.dropWhile Char.isDigit
    let afterPoint := if rest.head? = some '.' then rest.tail else rest
    let places := if rest.head? = some '.' then afterPoint.takeWhile Char.isDigit else []
    let ending := if rest.head? = some '.' then afterPoint.dropWhile Char.isDigit else rest
    let isExponent : List Char → Bool
      | [] => true
      | mark :: digits =>
        let digits := if digits.head?.any fun c => c = '+' || c = '-' then digits.tail else digits
        (mark = 'e' || mark = 'E') && !digits.isEmpty && digits.all Char.isDigit
    word = ['i', 'n', 'f'] || word = "infinity".toList || word = ['n', 'a', 'n'] ||
      (!(whole ++ places).isEmpty && isExponent ending)
  | _ => false

def isValue (text : List Char) : Bool :=
  isSignedNumber text || isPattern text

end Switchboard.Tracing.Pattern
