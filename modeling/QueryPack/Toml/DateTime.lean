namespace QueryPack.Toml

/-!
# Dates and times

The calendar dates, clock times and offsets of a configuration file, checked
for range, and their canonical text: `T` between date and time, `Z` in upper
case, and no zero at the end of a fraction.
-/

structure Date where
  year : Nat
  month : Nat
  day : Nat
  deriving Repr, DecidableEq

/-- A time of day; a leap second is allowed. -/
structure Time where
  hour : Nat
  minute : Nat
  second : Nat
  nanosecond : Nat
  deriving Repr, DecidableEq

/-- The distance of a clock from universal time. -/
inductive Offset where
  | universal
  /-- Ahead of universal time, or behind it, by whole minutes. -/
  | fixed (behind : Bool) (minutes : Nat)
  deriving Repr, DecidableEq

/-- A date, a time, or both with or without an offset. -/
inductive DateTime where
  | dateOnly (date : Date)
  | timeOnly (time : Time)
  | both (date : Date) (time : Time) (offset? : Option Offset)
  deriving Repr, DecidableEq

namespace Date

/-- Whether February has a twenty-ninth day. -/
def isLeapYear (year : Nat) : Bool :=
  year % 4 = 0 && (year % 100 ≠ 0 || year % 400 = 0)

def daysInMonth (year month : Nat) : Nat :=
  match month with
  | 2 => if isLeapYear year then 29 else 28
  | 4 => 30
  | 6 => 30
  | 9 => 30
  | 11 => 30
  | _ => 31

/-- The date, if the calendar has it. -/
def ofParts? (year month day : Nat) : Option Date :=
  if 1 ≤ month ∧ month ≤ 12 ∧ 1 ≤ day ∧ day ≤ daysInMonth year month then
    some ⟨year, month, day⟩
  else
    none

end Date

namespace Time

/-- The time, if a clock shows it. -/
def ofParts? (hour minute second nanosecond : Nat) : Option Time :=
  if hour ≤ 23 ∧ minute ≤ 59 ∧ second ≤ 60 then
    some ⟨hour, minute, second, nanosecond⟩
  else
    none

end Time

def digit? (character : Char) : Option Nat :=
  if '0' ≤ character ∧ character ≤ '9' then
    some (character.toNat - 48)
  else
    none

def number? (digits : List Char) : Option Nat :=
  digits.foldl
    (fun value character => do return 10 * (← value) + (← digit? character))
    (some 0)

/-- The fraction of a second in nanoseconds; digits beyond the ninth are cut off. -/
def nanoseconds? (digits : List Char) : Option Nat := do
  if digits.isEmpty then
    none
  let _ ← number? digits
  number? ((digits ++ List.replicate 9 '0').take 9)

def date? (text : List Char) : Option Date :=
  match text with
  | [y₁, y₂, y₃, y₄, '-', m₁, m₂, '-', d₁, d₂] => do
      Date.ofParts? (← number? [y₁, y₂, y₃, y₄]) (← number? [m₁, m₂]) (← number? [d₁, d₂])
  | _ => none

def time? (text : List Char) : Option Time :=
  match text with
  | h₁ :: h₂ :: ':' :: m₁ :: m₂ :: ':' :: s₁ :: s₂ :: fraction => do
      let nanosecond ←
        match fraction with
        | [] => some 0
        | '.' :: digits => nanoseconds? digits
        | _ => none
      Time.ofParts? (← number? [h₁, h₂]) (← number? [m₁, m₂]) (← number? [s₁, s₂]) nanosecond
  | _ => none

def offset? (text : List Char) : Option Offset :=
  match text with
  | ['Z'] => some .universal
  | ['z'] => some .universal
  | [sign, h₁, h₂, ':', m₁, m₂] => do
      let hours ← number? [h₁, h₂]
      let minutes ← number? [m₁, m₂]
      if (sign = '+' ∨ sign = '-') ∧ hours ≤ 23 ∧ minutes ≤ 59 then
        some (.fixed (sign = '-') (60 * hours + minutes))
      else
        none
  | _ => none

def startsOffset (character : Char) : Bool :=
  character = 'Z' || character = 'z' || character = '+' || character = '-'

/-- A date, and a time with an optional offset. -/
def dateWithTime? (date : List Char) (rest : List Char) : Option DateTime := do
  let date ← date? date
  let time ← time? (rest.takeWhile (fun character => !startsOffset character))
  match rest.dropWhile (fun character => !startsOffset character) with
  | [] => some (.both date time none)
  | offset => some (.both date time (some (← offset? offset)))

/-- A date, a time, or a date and a time with the letter between them. -/
def dateTime? (text : List Char) : Option DateTime :=
  match text.drop 10 with
  | 'T' :: rest => dateWithTime? (text.take 10) rest
  | 't' :: rest => dateWithTime? (text.take 10) rest
  | _ => ((date? text).map .dateOnly).or ((time? text).map .timeOnly)

/-- A number with leading zeros up to a width. -/
def padded (width value : Nat) : List Char :=
  let digits := Nat.toDigits 10 value
  List.replicate (width - digits.length) '0' ++ digits

namespace Date

def text (date : Date) : List Char :=
  padded 4 date.year ++ '-' :: padded 2 date.month ++ '-' :: padded 2 date.day

end Date

namespace Time

/-- The fraction without zeros at its end, if there is one. -/
def fractionText (nanosecond : Nat) : List Char :=
  if nanosecond = 0 then
    []
  else
    '.' :: ((padded 9 nanosecond).reverse.dropWhile (· == '0')).reverse

def text (time : Time) : List Char :=
  padded 2 time.hour ++ ':' :: padded 2 time.minute ++ ':' :: padded 2 time.second ++
    fractionText time.nanosecond

end Time

namespace Offset

def text : Offset → List Char
  | universal => ['Z']
  | fixed behind minutes =>
      (if behind && minutes ≠ 0 then '-' else '+') ::
        padded 2 (minutes / 60) ++ ':' :: padded 2 (minutes % 60)

end Offset

namespace DateTime

def text : DateTime → String
  | dateOnly date => String.ofList date.text
  | timeOnly time => String.ofList time.text
  | both date time offset? =>
      String.ofList (date.text ++ 'T' :: time.text ++
        match offset? with
        | some offset => offset.text
        | none => [])

end DateTime

end QueryPack.Toml
