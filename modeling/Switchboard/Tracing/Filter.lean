import Switchboard.Level
import Switchboard.Text.Bytes
import Switchboard.Tracing.Pattern

/-!
Filters of events: comma-separated directives, each with a level and what it applies to. Of the
directives that apply to an event the most specific one decides.
-/

namespace Switchboard.Tracing

open Switchboard.Text

structure FieldTest where
  name : String
  value : Option String
deriving DecidableEq

def FieldTest.isValued (test : FieldTest) : Bool :=
  test.value.isSome

/-- A stretch of work that events may lie in, with the names of its fields and the tests that their values
pass. -/
structure Span where
  name : String
  target : String
  level : Level
  fields : List String
  passed : List FieldTest
deriving DecidableEq

/-- A level for the events of some target, inside some span, or with some fields. -/
structure Directive where
  level : Ceiling
  target : Option String
  span : Option String
  fields : List FieldTest
deriving DecidableEq

namespace Directive

/-- Why a text gives no directive: it is malformed, or it would have to be cut inside a character. -/
inductive Fault
  | malformed
  | splitCharacter
deriving DecidableEq

/-- The level that a text names, by a word in any case or by its rank. -/
def ceiling? (text : List Char) : Option Ceiling :=
  let named (name : String) : Bool := text.map Char.toLower = name.toList
  match Numeral.read (UInt64.size - 1) text with
  | .ok 0 => some none
  | .ok n => (Level.all.find? (·.rank = n)).map some
  | .error _ =>
    if named "off" then some none
    else (Level.all.find? fun level => named level.name.toLower).map some

inductive Place
  | start
  | levelOrTarget (first : Nat)
  | inSpan (first : Nat)
  | inField (first : Nat)
  | afterField
  | afterSpan
  | inLevel (first : Nat)
deriving DecidableEq

def part (text : List Char) (first last : Nat) : Except Fault (List Char) :=
  match slice? text first last with
  | some part => .ok part
  | none => .error .splitCharacter

def ending (text : List Char) (first : Nat) : Except Fault (List Char) :=
  match dropBytes? first text with
  | some rest => .ok rest
  | none => .error .splitCharacter

/-- Reads the test of a field: its name, and a value if an equals sign follows. What stands after a
second equals sign does not count. -/
def fieldTest (text : List Char) : Except Fault FieldTest :=
  let name := String.ofList (text.takeWhile (· ≠ '='))
  match text.dropWhile (· ≠ '=') with
  | [] => if text.isEmpty then .error .malformed else .ok ⟨name, none⟩
  | _ :: rest =>
    let value := rest.takeWhile (· ≠ '=')
    if Pattern.isValue value then .ok ⟨name, some (String.ofList value)⟩ else .error .malformed

def step (text : List Char) (place : Place) (found : Directive) (position : Nat) (c : Char) :
    Except Fault (Place × Directive) :=
  match place with
  | .start =>
    if c = '[' then .ok (.inSpan (position + 1), found)
    else if c = '-' ∨ c = ':' ∨ c = '_' ∨ isWordCharacter c then
      .ok (.levelOrTarget position, found)
    else .error .malformed
  | .levelOrTarget first =>
    if c = '=' ∨ c = '[' then do
      let target ← part text first position
      let next := if c = '=' then Place.inLevel (position + 1) else .inSpan (position + 1)
      .ok (next, { found with target := some (String.ofList target) })
    else .ok (place, found)
  | .inSpan first =>
    if c = ']' then do
      let span ← part text first position
      .ok (.afterSpan, { found with span := some (String.ofList span) })
    else if c = '{' then do
      let span ← part text first position
      let span := if span.isEmpty then none else some (String.ofList span)
      .ok (.inField (position + 1), { found with span })
    else .ok (place, found)
  | .inField first =>
    if c = '}' then do
      let test ← part text first position >>= fieldTest
      .ok (.afterField, { found with fields := found.fields ++ [test] })
    else .ok (place, found)
  | .afterField => if c = ']' then .ok (.afterSpan, found) else .error .malformed
  | .afterSpan => if c = '=' then .ok (.inLevel (position + 1), found) else .error .malformed
  | .inLevel _ => .ok (place, found)

def walk (text : List Char) (place : Place) (found : Directive) (position : Nat) :
    List Char → Except Fault (Place × Directive)
  | [] => .ok (place, found)
  | c :: rest => do
    let (place, found) ← step text place found position c
    walk text place found (position + c.utf8Size) rest

/-- The directive that a text gives. Without a level everything is let through. Positions are counted
without the blanks at the ends, and parts are cut from the whole text. -/
def ofText (text : List Char) : Except Fault Directive := do
  let (place, found) ← walk text .start ⟨some .trace, none, none, []⟩ 0 (trim text)
  match place with
  | .levelOrTarget first => do
    let rest ← ending text first
    match ceiling? rest with
    | some level => .ok { found with level }
    | none => .ok { found with target := some (String.ofList rest) }
  | .inLevel first => do
    let rest ← ending text first
    if rest.isEmpty then .ok found
    else
      match ceiling? rest with
      | some level => .ok { found with level }
      | none => .error .malformed
  | .afterSpan => .ok found
  | _ => .error .malformed

/-- Whether a directive applies to the events inside of spans rather than to events. -/
def isDynamic (directive : Directive) : Bool :=
  directive.span.isSome || !directive.fields.isEmpty

def isStatic (directive : Directive) : Bool :=
  directive.span.isNone && directive.fields.all fun test => !test.isValued

/-- Whether a directive is about a target: about all, or about those that start alike. -/
def coversTarget (directive : Directive) (target : String) : Bool :=
  match directive.target with
  | none => true
  | some start => start.toList.isPrefixOf target.toList

/-- Whether a directive applies to an event of a target with the given fields. -/
def coversEvent (directive : Directive) (target : String) (fields : List String) : Bool :=
  directive.coversTarget target &&
    directive.fields.all fun test => fields.contains test.name

/-- Whether a directive applies to a span. A span has to have all fields that a directive about the insides
of spans asks for. -/
def coversSpan (directive : Directive) (span : Span) : Bool :=
  directive.coversTarget span.target &&
    (directive.fields.all fun test => span.fields.contains test.name) &&
    match directive.span with
    | none => true
    | some name => name == span.name

/-- The tests that ask for a value. Of several tests of one field the last one counts. -/
def valueTests (directive : Directive) : List FieldTest :=
  (directive.fields.filter (·.isValued)).foldr
    (fun test later => if later.any (·.name = test.name) then later else test :: later) []

def isPassedBy (directive : Directive) (span : Span) : Bool :=
  directive.valueTests.all span.passed.contains

/-- How specific a directive is: a longer target counts before more fields. -/
def weight (directive : Directive) : Nat × Nat :=
  (match directive.target with
    | none => 0
    | some target => target.utf8ByteSize + 1,
    directive.fields.length)

def outweighs (a b : Directive) : Bool :=
  let (m, n) := a.weight
  let (m', n') := b.weight
  m' < m || (m = m' && (n' < n || (n = n' && !(a.fields.map (·.name) < b.fields.map (·.name)))))

def sameScope (a b : Directive) : Bool :=
  a.target = b.target && a.span = b.span && a.fields = b.fields

end Directive

/-- Directives of which no two are about the same events, and a rank that the level of none exceeds. -/
structure Directives where
  all : List Directive
  bound : Nat
deriving DecidableEq

namespace Directives

def empty : Directives := ⟨[], 0⟩

/-- Adds a directive, in place of an earlier one about the same events. The bound is never lowered. -/
def add (directives : Directives) (directive : Directive) : Directives where
  all := directives.all.filter (fun other => !other.sameScope directive) ++ [directive]
  bound := max directives.bound directive.level.rank

def ofList (list : List Directive) : Directives :=
  list.foldl add empty

def decisive (directives : Directives) (applies : Directive → Bool) : Option Directive :=
  (directives.all.filter applies).foldl
    (fun best directive =>
      match best with
      | none => some directive
      | some other => if directive.outweighs other then some directive else some other)
    none

end Directives

/-- The directives of a filter: those that are decided for an event alone, and those that apply
inside of spans. -/
structure Filter where
  statics : Directives
  dynamics : Directives
deriving DecidableEq

namespace Filter

def ofDirectives (directives : List Directive) : Filter :=
  let dynamics := directives.filter (·.isDynamic)
  let statics := directives.filter (fun d => !d.isDynamic) ++ dynamics.filter (·.isStatic)
  ⟨.ofList statics, .ofList dynamics⟩

def pieces : List Char → List (List Char)
  | [] => [[]]
  | c :: rest =>
    if c = ',' then [] :: pieces rest
    else
      match pieces rest with
      | [] => [[c]]
      | piece :: more => (c :: piece) :: more

/-- The filter that a text gives. The first directive that cannot be read decides why there is none;
a text without directives lets nothing through. -/
def ofText (text : String) : Except Directive.Fault Filter := do
  let directives ←
    ((pieces text.toList).filter fun piece => !piece.isEmpty).mapM Directive.ofText
  .ok (ofDirectives directives)

def ofLevel (level : Level) : Filter :=
  ofDirectives [⟨some level, none, none, []⟩]

/-- The rank beyond which nothing is let through. A directive about the values of fields needs all
spans. -/
def bound (filter : Filter) : Nat :=
  if filter.dynamics.all.any fun directive => directive.fields.any (·.isValued) then
    Level.trace.rank
  else max filter.statics.bound filter.dynamics.bound

def admitsStatically (filter : Filter) (target : String) (fields : List String) (level : Level)
    (event : Bool) : Bool :=
  let applies (directive : Directive) : Bool :=
    directive.coversTarget target && (!event || directive.coversEvent target fields)
  match filter.statics.decisive applies with
  | none => false
  | some directive => directive.level.admits level

/-- The level that a span opens for the events inside it, if some directive is about it. It opens nothing as
long as its values pass the tests of none. -/
def spanLevel? (filter : Filter) (span : Span) : Option Ceiling :=
  match filter.dynamics.all.filter fun directive => directive.coversSpan span with
  | [] => none
  | directives =>
    some ((directives.filter fun directive => directive.isPassedBy span).foldl
      (fun best directive => if best.rank < directive.level.rank then directive.level else best)
      none)

def admitsInside (filter : Filter) (opened : List Ceiling) (level : Level) : Bool :=
  level.rank ≤ filter.dynamics.bound && opened.any fun ceiling => ceiling.admits level

/-- Whether an event is let through inside spans that open the given levels. -/
def admitsEvent (filter : Filter) (opened : List Ceiling) (target : String)
    (fields : List String) (level : Level) : Bool :=
  filter.admitsInside opened level || filter.admitsStatically target fields level true

/-- Whether a span is let through inside spans that open the given levels. One that a directive is
about is let through whatever its level. -/
def admitsSpan (filter : Filter) (opened : List Ceiling) (span : Span) : Bool :=
  (filter.spanLevel? span).isSome || filter.admitsInside opened span.level ||
    filter.admitsStatically span.target [] span.level false

end Filter

end Switchboard.Tracing
