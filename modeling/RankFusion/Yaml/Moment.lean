import RankFusion.Error
import RankFusion.Number.Numeral

/-!
This module contains the dates and times of the day in documents.
-/

namespace RankFusion.Yaml

structure Clock where
  hour : Nat
  minute : Nat
  second : Nat
  /-- The difference from the time at the first meridian, in minutes. -/
  offset : Int := 0
  deriving DecidableEq, Repr

structure Moment where
  year : Nat
  month : Nat
  day : Nat
  clock : Option Clock := none
  deriving DecidableEq, Repr

def dropLineEnd (cs : List Char) : List Char := if cs.getLast? = some '\n' then cs.dropLast else cs

namespace Moment

def takeDigits? (least most : Nat) (cs : List Char) : Option (Nat × List Char) :=
  let ds := (cs.take most).takeWhile Numeral.isDigit
  if ds.length < least then none else some (Numeral.digitsValue ds, cs.drop ds.length)

def drop? (mark : Char) : List Char → Option (List Char)
  | c :: cs => if c = mark then some cs else none
  | [] => none

def dropSeparator? : List Char → Option (List Char)
  | 'T' :: cs | 't' :: cs => some cs
  | cs =>
    let rest := cs.dropWhile fun c => c == ' ' || c == '\t'
    if rest.length < cs.length then some rest else none

/--
The difference from the time at the first meridian that a text is, in minutes: a letter stands for
none, and otherwise hours follow a sign, and minutes a colon.
-/
def readOffset? : List Char → Option Int
  | ['Z'] => some 0
  | sign :: cs => do
    if sign != '+' && sign != '-' then none
    let (hours, cs) ← takeDigits? 1 2 cs
    let (minutes, cs) ← if cs.isEmpty then some (0, []) else takeDigits? 2 2 (← drop? ':' cs)
    let offset : Int := 60 * hours + minutes
    if !cs.isEmpty then none else some (if sign = '-' then -offset else offset)
  | [] => none

/--
The difference from the time at the first meridian behind a time of the day. A fraction of a second
may come before it, and either may be missing.
-/
def readClockTail? (cs : List Char) : Option Int :=
  let cs := match cs with
    | '.' :: rest => rest.dropWhile Numeral.isDigit
    | rest => rest
  if cs.isEmpty then some 0 else readOffset? (cs.dropWhile fun c => c == ' ' || c == '\t')

def readClock? (cs : List Char) : Option Clock := do
  let (hour, cs) ← takeDigits? 1 2 cs
  let (minute, cs) ← takeDigits? 2 2 (← drop? ':' cs)
  let (second, cs) ← takeDigits? 2 2 (← drop? ':' cs)
  let offset ← readClockTail? cs
  return { hour, minute, second, offset }

/--
The date that a text is, with a time of the day or without. A line end may follow.
-/
def read? (cs : List Char) : Option Moment := do
  let (year, cs) ← takeDigits? 4 4 (dropLineEnd cs)
  let (month, cs) ← takeDigits? 1 2 (← drop? '-' cs)
  let (day, cs) ← takeDigits? 1 2 (← drop? '-' cs)
  if cs.isEmpty then some { year, month, day }
  else
    let clock ← (dropSeparator? cs).bind readClock?
    return { year, month, day, clock := some clock }

/--
Whether a text shows by itself that it is a date. A date without a time has all its digits.
-/
def isMoment (cs : List Char) : Bool :=
  match read? cs with
  | some m => m.clock.isSome || cs.length == 10
  | none => false

def isLeapYear (year : Nat) : Bool := year % 4 == 0 && (year % 100 != 0 || year % 400 == 0)

def daysOfMonth (year month : Nat) : Nat :=
  if month = 2 then (if isLeapYear year then 29 else 28)
  else if month = 4 ∨ month = 6 ∨ month = 9 ∨ month = 11 then 30
  else 31

def offsetLimit : Nat := 24 * 60

def fault? (m : Moment) : Option OperandFault :=
  if offsetLimit ≤ (m.clock.map (·.offset)).elim 0 Int.natAbs then
    some (.zoneOffset ((m.clock.map (·.offset)).getD 0))
  else if m.year = 0 then some (.noYear m.year)
  else if m.month = 0 ∨ 12 < m.month then some (.momentPart "month" "1..12")
  else if m.day = 0 ∨ daysOfMonth m.year m.month < m.day then some .dayOfMonth
  else
    match m.clock with
    | none => none
    | some clock =>
      if 23 < clock.hour then some (.momentPart "hour" "0..23")
      else if 59 < clock.minute then some (.momentPart "minute" "0..59")
      else if 59 < clock.second then some (.momentPart "second" "0..59")
      else none

def kindName (m : Moment) : String := if m.clock.isSome then "datetime" else "date"

end Moment

end RankFusion.Yaml
