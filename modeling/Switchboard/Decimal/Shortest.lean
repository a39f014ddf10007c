import Switchboard.Decimal.Binary64
import Switchboard.Text.Numeral

namespace Switchboard.Decimal

open Switchboard.Text

namespace Shortest

/-- A positive decimal: `digits * 10 ^ exponent`. -/
structure Expansion where
  digits : Nat
  exponent : Int

def scaleTen (exponent : Int) (num den : Nat) : Nat × Nat :=
  if 0 ≤ exponent then (num * Nat.pow 10 exponent.toNat, den)
  else (num, den * Nat.pow 10 (-exponent).toNat)

def leadingExponent (num den : Nat) : Int :=
  if den ≤ num then ((Numeral.digits (num / den)).length : Int) - 1
  else -((Numeral.digits ((den + num - 1) / num - 1)).length : Int)

/-- The open ends of the interval that rounds to a positive number, in quarters of its last place:
the lower one is nearer below a power of two. -/
def quarters (x : Binary64) : Nat × Nat :=
  let below :=
    if x.significand = Nat.pow 2 Binary64.precision ∧ Binary64.minExponent < x.exponent then 1 else 2
  (4 * x.significand - below, 4 * x.significand + 2)

/-- Whether `n / d` reads back as the number: the ends count when the significand is even. -/
def readsBack (x : Binary64) (n d : Nat) : Bool :=
  let (low, high) := quarters x
  let (l, ld) := Binary64.scale (x.exponent - 2) low 1
  let (h, hd) := Binary64.scale (x.exponent - 2) high 1
  if x.significand % 2 = 0 then l * d ≤ n * ld && n * hd ≤ h * d
  else l * d < n * ld && n * hd < h * d

/-- The decimal nearest to the number on a grid, of those that read back. -/
def onGrid (x : Binary64) (exponent : Int) : Option Expansion :=
  let (num, den) := x.fraction
  let (n, d) := scaleTen (-exponent) num den
  let lower := n / d
  let fits (digits : Nat) : Bool :=
    let (a, b) := scaleTen exponent digits 1
    readsBack x a b
  let rest := n % d
  let preferUpper := d < 2 * rest || (2 * rest = d && lower % 2 = 1)
  if fits lower && (!preferUpper || !fits (lower + 1)) then some ⟨lower, exponent⟩
  else if fits (lower + 1) then some ⟨lower + 1, exponent⟩
  else none

def search (x : Binary64) (leading : Int) : Nat → Nat → Expansion
  | 0, _ => ⟨0, 0⟩
  | tries + 1, count =>
    match onGrid x (leading - count) with
    | some expansion => expansion
    | none => search x leading tries (count + 1)

/-- The shortest decimal that reads back as a positive number; seventeen digits always do. -/
def ofPositive (x : Binary64) : Expansion :=
  let (num, den) := x.fraction
  search x (leadingExponent num den) 17 0

end Shortest

def positional (exponent : Int) : Bool :=
  -5 ≤ exponent && exponent ≤ 15

def positionalText (digits : List Char) (leading : Int) : List Char :=
  if leading < 0 then
    ['0', '.'] ++ List.replicate (-leading - 1).toNat '0' ++ digits
  else
    let whole := leading.toNat + 1
    let padded := digits ++ List.replicate (whole - digits.length) '0'
    let places := padded.drop whole
    padded.take whole ++ ['.'] ++ (if places.isEmpty then ['0'] else places)

def exponentText (digits : List Char) (leading : Int) : List Char :=
  let places := digits.drop 1
  digits.take 1 ++ (if places.isEmpty then [] else '.' :: places) ++ ['e'] ++
    (if leading < 0 then ['-'] else ['+']) ++ Numeral.digits leading.natAbs

/-- The shortest text of a number: a point or an exponent marks it as no integer. -/
def Binary64.text (x : Binary64) : String :=
  let sign := if x.negative then ['-'] else []
  if x.isZero then String.ofList (sign ++ ['0', '.', '0'])
  else
    let expansion := Shortest.ofPositive x
    let all := Numeral.digits expansion.digits
    let leading := expansion.exponent + all.length - 1
    let digits := (all.reverse.dropWhile (· == '0')).reverse
    String.ofList
      (sign ++ if positional leading then positionalText digits leading
        else exponentText digits leading)

end Switchboard.Decimal
