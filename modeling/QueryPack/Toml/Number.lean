import QueryPack.Text.Hex
import QueryPack.Toml.Value

namespace QueryPack.Toml

/-!
# Numbers

Integers in four bases and decimal fractions. Single underscores may stand
between digits. Integers must fit 64 bits with sign; a fraction must not be so
large that its nearest floating-point number is positive infinity.
-/

/-- Digits without the underscores between them. -/
def ungroup (isDigit : Char → Bool) : List Char → Option (List Char)
  | [] => none
  | [digit] => if isDigit digit then some [digit] else none
  | digit :: '_' :: rest =>
      if isDigit digit then (ungroup isDigit rest).map (digit :: ·) else none
  | digit :: rest =>
      if isDigit digit then (ungroup isDigit rest).map (digit :: ·) else none

def isDigitOf (base : Nat) (character : Char) : Bool :=
  match Text.hexValue? character with
  | some value => value < base
  | none => false

def valueOf (base : Nat) (digits : List Char) : Nat :=
  digits.foldl (fun value digit => base * value + (Text.hexValue? digit).getD 0) 0

/-- Digits of a base after its mark. -/
def unsigned? (base : Nat) (digits : List Char) : Option Nat :=
  (ungroup (isDigitOf base) digits).map (valueOf base)

/-- A decimal number; only zero itself may begin with a zero. -/
def decimal? (digits : List Char) : Option Nat :=
  match digits with
  | '0' :: _ :: _ => none
  | _ => unsigned? 10 digits

/-- A sign, if there is one, and what follows it. -/
def splitSign : List Char → Bool × List Char
  | '-' :: rest => (true, rest)
  | '+' :: rest => (false, rest)
  | rest => (false, rest)

def fitted? (value : Int) : Option Int :=
  if Int64.minValue.toInt ≤ value ∧ value ≤ Int64.maxValue.toInt then
    some value
  else
    none

/-- An integer in any of the four bases; only decimal ones take a sign. -/
def integer? (token : List Char) : Option Int :=
  match token with
  | '0' :: 'x' :: digits => do fitted? (← unsigned? 16 digits)
  | '0' :: 'o' :: digits => do fitted? (← unsigned? 8 digits)
  | '0' :: 'b' :: digits => do fitted? (← unsigned? 2 digits)
  | _ =>
      match splitSign token with
      | (true, digits) => do fitted? (-(← decimal? digits))
      | (false, digits) => do fitted? (← decimal? digits)

/-- The parts of a decimal fraction: its digits as one number times a power of ten. -/
structure Fraction where
  negative : Bool
  digits : Nat
  exponent : Int
  deriving Repr, DecidableEq

namespace Fraction

/-- The least number that rounds to infinity: halfway above the largest finite one. -/
def infinityThreshold : Nat :=
  (Nat.pow 2 54 - 1) * Nat.pow 2 970

/--
Whether the nearest floating-point number is infinite, leaving the sign aside.

The count of digits decides the clear cases, so that no huge power is computed.
-/
def isHuge (fraction : Fraction) : Bool :=
  let magnitude : Int := (Nat.toDigits 10 fraction.digits).length + fraction.exponent
  if fraction.digits = 0 || magnitude < 300 then
    false
  else if 320 < magnitude then
    true
  else if 0 ≤ fraction.exponent then
    infinityThreshold ≤ fraction.digits * Nat.pow 10 fraction.exponent.toNat
  else
    infinityThreshold * Nat.pow 10 (-fraction.exponent).toNat ≤ fraction.digits

end Fraction

/-- An exponent with an optional sign; leading zeros are allowed. -/
def exponent? (text : List Char) : Option Int :=
  match splitSign text with
  | (true, digits) => do return -(← unsigned? 10 digits)
  | (false, digits) => do return (← unsigned? 10 digits)

def startsExponent (character : Char) : Bool :=
  character = 'e' || character = 'E'

/-- A decimal number with a fraction, an exponent, or both. -/
def fraction? (token : List Char) : Option Fraction := do
  let (negative, unsignedPart) := splitSign token
  let mantissa := unsignedPart.takeWhile fun character => !startsExponent character
  let exponent ←
    match unsignedPart.dropWhile fun character => !startsExponent character with
    | [] => some none
    | _ :: text => (exponent? text).map some
  let whole := mantissa.takeWhile (· != '.')
  let _ ← decimal? whole
  let wholeDigits ← ungroup (isDigitOf 10) whole
  match mantissa.dropWhile (· != '.'), exponent with
  | [], none => none
  | [], some exponent => some ⟨negative, valueOf 10 wholeDigits, exponent⟩
  | _ :: places, exponent => do
      let placeDigits ← ungroup (isDigitOf 10) places
      some ⟨negative, valueOf 10 (wholeDigits ++ placeDigits),
        exponent.getD 0 - placeDigits.length⟩

/-- Whether a token is infinity or "not a number", with or without a sign. -/
def isSpecialFloat (token : List Char) : Bool :=
  match (splitSign token).2 with
  | ['i', 'n', 'f'] => true
  | ['n', 'a', 'n'] => true
  | _ => false

/-- Whether a token is a floating-point number; only positive ones can be too large. -/
def isFloat (token : List Char) : Bool :=
  isSpecialFloat token ||
    match fraction? token with
    | some fraction => fraction.negative || !fraction.isHuge
    | none => false

/-- The value of a token without quotes or brackets. -/
def bareValue? (token : List Char) : Option Value :=
  if token = ['t', 'r', 'u', 'e'] then
    some (.boolean true)
  else if token = ['f', 'a', 'l', 's', 'e'] then
    some (.boolean false)
  else if isFloat token then
    some (.float (String.ofList token))
  else
    ((integer? token).map .integer).or ((dateTime? token).map .dateTime)

end QueryPack.Toml
