import Switchboard.Json.Basic
import Switchboard.Json.Fault
import Switchboard.Text.Bytes

/-!
The smallest parts of a JSON text: blanks, words, strings and numbers. Each reader takes one off the
front of a text and gives the rest.
-/

namespace Switchboard.Json

open Switchboard.Decimal Switchboard.Text

/-- Takes a value off the front of a text and gives the rest, or the reason why it cannot. -/
abbrev Reader (α : Type) := List Char → Except Fault (α × List Char)

def isSpace (c : Char) : Bool :=
  c = ' ' || c = '\n' || c = '\t' || c = '\r'

def skipSpace (text : List Char) : List Char :=
  text.dropWhile isSpace

def readWord : List Char → List Char → Except Fault (List Char)
  | [], text => .ok text
  | _ :: _, [] => .error .endInValue
  | c :: rest, d :: text => if d = c then readWord rest text else .error .expectedWord

/-- Reads four hexadecimal digits. A text of fewer than four bytes ends too early. -/
def readHexUnit (text : List Char) : Except Fault (Nat × List Char) :=
  match text with
  | a :: b :: c :: d :: rest =>
    match Numeral.hexValue? a, Numeral.hexValue? b, Numeral.hexValue? c, Numeral.hexValue? d with
    | some a, some b, some c, some d => .ok (((a * 16 + b) * 16 + c) * 16 + d, rest)
    | _, _, _, _ => .error .invalidEscape
  | _ =>
    if byteCount text < 4 then .error .endInString else .error .invalidEscape

def escaped? : Char → Option Char
  | '"' => some '"'
  | '\\' => some '\\'
  | '/' => some '/'
  | 'b' => some '\x08'
  | 'f' => some '\x0c'
  | 'n' => some '\n'
  | 'r' => some '\r'
  | 't' => some '\t'
  | _ => none

def readUnicodeEscape (text : List Char) : Except Fault (Char × List Char) := do
  let (unit, rest) ← readHexUnit text
  if 0xdc00 ≤ unit && unit ≤ 0xdfff then .error .loneSurrogate
  else if unit < 0xd800 || 0xdbff < unit then .ok (Char.ofNat unit, rest)
  else
    match rest with
    | [] => .error .endInString
    | '\\' :: [] => .error .endInString
    | '\\' :: 'u' :: rest => do
      let (low, rest) ← readHexUnit rest
      if low < 0xdc00 || 0xdfff < low then .error .loneSurrogate
      else .ok (Char.ofNat ((unit - 0xd800) * 0x400 + (low - 0xdc00) + 0x10000), rest)
    | _ => .error .brokenPair

/-- Reads the characters of a string up to its closing quote. The bound is at least the length of
the text. -/
def readStringChars : Nat → Reader (List Char)
  | 0, _ => .error .endInString
  | bound + 1, text =>
    match text with
    | [] => .error .endInString
    | '"' :: rest => .ok ([], rest)
    | '\\' :: [] => .error .endInString
    | '\\' :: 'u' :: rest => do
      let (c, rest) ← readUnicodeEscape rest
      let (cs, rest) ← readStringChars bound rest
      .ok (c :: cs, rest)
    | '\\' :: letter :: rest =>
      match escaped? letter with
      | none => .error .invalidEscape
      | some c => do
        let (cs, rest) ← readStringChars bound rest
        .ok (c :: cs, rest)
    | c :: rest =>
      if c.toNat < 0x20 then .error .controlCharacter
      else do
        let (cs, rest) ← readStringChars bound rest
        .ok (c :: cs, rest)

def readStringBody : Reader String := fun text => do
  let (cs, rest) ← readStringChars (text.length + 1) text
  .ok (String.ofList cs, rest)

def spanDigits (text : List Char) : List Char × List Char :=
  (text.takeWhile Char.isDigit, text.dropWhile Char.isDigit)

def maxWhole : Nat := UInt64.size - 1

/-- Reads digits onto a number as long as it stays within 64 bits: the number, how many digits were
used, and whether one was left out. -/
def gather (n used : Nat) : List Char → Nat × Nat × Bool
  | [] => (n, used, false)
  | c :: rest =>
    if maxWhole < 10 * n + Numeral.digitValue c then (n, used, true)
    else gather (10 * n + Numeral.digitValue c) (used + 1) rest

/-- The magnitude `n * 10 ^ exponent`, rounded after the step to floating point and again after each
scaling by at most 308 places; none when it is too large. -/
def scaleDown (x : Binary64) (places : Nat) : Option Binary64 :=
  if places ≤ 308 then Binary64.pow10? places >>= x.div?
  else if x.isZero then some x
  else do
    let x ← Binary64.pow10? 308 >>= x.div?
    scaleDown x (places - 308)
termination_by places

def assemble (negative : Bool) (n : Nat) (exponent : Int) : Except Fault Binary64 :=
  let magnitude := do
    let x ← Binary64.ofNat? n
    if 0 ≤ exponent then
      if exponent ≤ 308 then Binary64.pow10? exponent.toNat >>= x.mul?
      else if x.isZero then some x
      else none
    else scaleDown x (-exponent).toNat
  match magnitude with
  | some x => .ok (if negative then x.neg else x)
  | none => .error .numberOutOfRange

def readExponent (negative : Bool) (n : Nat) (exponent : Int) : Reader Binary64 := fun text =>
  let (down, text) :=
    match text with
    | '+' :: rest => (false, rest)
    | '-' :: rest => (true, rest)
    | _ => (false, text)
  match text with
  | [] => .error .endInValue
  | c :: _ =>
    if c.isDigit then do
      let (digits, rest) := spanDigits text
      let places : Int := Numeral.value digits
      let x ← assemble negative n (if down then exponent - places else exponent + places)
      .ok (x, rest)
    else .error .invalidNumber

/-- Reads the digits after the point. Those beyond 64 bits are passed over. -/
def readFraction (negative : Bool) (n : Nat) (exponent : Int) : Reader Binary64 := fun text =>
  let (digits, rest) := spanDigits text
  if digits.isEmpty then
    if rest.isEmpty then .error .endInValue else .error .invalidNumber
  else
    let (n, used, _) := gather n 0 digits
    let exponent := exponent - used
    match rest with
    | 'e' :: rest => readExponent negative n exponent rest
    | 'E' :: rest => readExponent negative n exponent rest
    | _ => do
      let x ← assemble negative n exponent
      .ok (x, rest)

/-- A whole number, or the floating-point number that takes its place below the least of 64 bits and
for a negative zero. -/
def wholeNumber (negative : Bool) (n : Nat) : Except Fault Number :=
  if negative = false then .ok (.whole n)
  else if n = 0 ∨ UInt64.size / 2 < n then do
    let x ← assemble true n 0
    .ok (.float x)
  else .ok (.whole (-(n : Int)))

def readNumber (negative : Bool) : Reader Number := fun text =>
  let afterWhole (digits rest : List Char) : Except Fault (Number × List Char) :=
    let (n, used, beyond) := gather 0 0 digits
    let exponent : Int := digits.length - used
    match rest with
    | '.' :: rest => do
      let (x, rest) ← readFraction negative n exponent rest
      .ok (.float x, rest)
    | 'e' :: rest => do
      let (x, rest) ← readExponent negative n exponent rest
      .ok (.float x, rest)
    | 'E' :: rest => do
      let (x, rest) ← readExponent negative n exponent rest
      .ok (.float x, rest)
    | _ =>
      if beyond then do
        let x ← assemble negative n exponent
        .ok (.float x, rest)
      else do
        let n ← wholeNumber negative n
        .ok (n, rest)
  match text with
  | [] => .error .endInValue
  | '0' :: rest =>
    if (rest.head?.any Char.isDigit) then .error .invalidNumber else afterWhole ['0'] rest
  | c :: _ =>
    if c.isDigit then
      let (digits, rest) := spanDigits text
      afterWhole digits rest
    else .error .invalidNumber

end Switchboard.Json
