import Eligibility.Calendar.Instant
import Eligibility.Decimal.Literal
import Eligibility.Double.Basic

/-!
# Reading timestamps

A timestamp is a date, or a date, a time and an optional zone, in the basic or the extended form
of the international standard.  Dates are given by month and day, by the day of the year or by week
and weekday; a missing part is the first one.  The parts of the time may carry a fraction, are
rounded to doubles, and are added up in doubles.
-/

set_option autoImplicit false

namespace Eligibility

namespace Timestamp

/-- The three parts of a timestamp; an empty time or zone is a missing one. -/
structure Parts where
  date : List Char
  time : List Char
  zone : List Char

def separatesTime (character : Char) : Bool :=
  character = 'T' || character = ' '

def isZuluLetter (character : Char) : Bool :=
  character = 'Z' || character = 'z'

def startsZone (character : Char) : Bool :=
  character = 'Z' || character = '+' || character = '-'

def endsLine (character : Char) : Bool :=
  character = '\n' || character = '\r' || character = '\u2028' || character = '\u2029'

def splitZone? (date clock : List Char) : Option Parts :=
  if clock.any endsLine then
    none
  else
    some
      { date
        time := clock.takeWhile (!startsZone ·)
        zone := clock.dropWhile (!startsZone ·) }

/-- Splits at the only separator.  A date that runs into a zone letter ends there, and all that
follows belongs to the time and the zone. -/
def split? (characters : List Char) : Option Parts :=
  let head := characters.takeWhile (!separatesTime ·)
  let tail := (characters.dropWhile (!separatesTime ·)).drop 1
  if tail.any separatesTime ∨ ':' ∈ head then
    none
  else if head.any isZuluLetter then
    let date := head.takeWhile (!isZuluLetter ·)
    splitZone? date (characters.drop date.length)
  else
    splitZone? head tail

/-! ## Dates -/

inductive DayOfYear where
  | ordinal (day : Nat)
  | ofMonth (month day : Nat)
  | ofWeek (week weekday : Nat)

def takeNumber? (count : Nat) (characters : List Char) : Option (Nat × List Char) :=
  if characters.length < count then
    none
  else
    (Literal.readDigits? (characters.take count)).map (·, characters.drop count)

def takeSigned? (count : Nat) : List Char → Option (Int × List Char)
  | '+' :: rest => (takeNumber? count rest).map fun read => ((read.1 : Int), read.2)
  | '-' :: rest => (takeNumber? count rest).map fun read => (-(read.1 : Int), read.2)
  | _ => none

/-- A year of four digits, or of six digits behind a sign. -/
def readYear? (characters : List Char) : Option (Int × List Char) :=
  match takeNumber? 4 characters with
  | some read => some ((read.1 : Int), read.2)
  | none => takeSigned? 6 characters

/-- A century alone: two digits, or four digits behind a sign. -/
def readCentury? (characters : List Char) : Option Int :=
  match (takeNumber? 2 characters).map fun read => ((read.1 : Int), read.2) with
  | some (century, []) => some century
  | _ =>
    match takeSigned? 4 characters with
    | some (century, []) => some century
    | _ => none

def readDayOfYear? (characters : List Char) : Option DayOfYear :=
  let digits := Literal.readDigits?
  match (match characters with | '-' :: rest => rest | rest => rest) with
  | [] => some (.ofMonth 1 1)
  | ['W', a, b] => (digits [a, b]).map (.ofWeek · 1)
  | ['W', a, b, c] | ['W', a, b, '-', c] =>
    (digits [a, b]).bind fun week => (digits [c]).map (.ofWeek week ·)
  | [a, b, c] => (digits [a, b, c]).map .ordinal
  | [a, b] => (digits [a, b]).map (.ofMonth · 1)
  | [a, b, c, d] | [a, b, '-', c, d] =>
    (digits [a, b]).bind fun month => (digits [c, d]).map (.ofMonth month ·)
  | _ => none

/-- The weekday of a day, from 1 for Monday to 7 for Sunday. -/
def weekdayFromMonday (day : Int) : Int :=
  (day + 3) % 7 + 1

def dayInRange (day : Int) : Bool :=
  (Instant.ofMilliseconds? (day * dayLength)).isSome

/-- The day in a year, if the year has it.  The first week is the one with 4 January in it, and
every year may be given a week 53. -/
def DayOfYear.resolve? (year : Int) : DayOfYear → Option Int
  | .ordinal day =>
    if 1 ≤ day ∧ day ≤ Calendar.yearLength year then
      some (CivilDate.toDay ⟨year, 1, 1⟩ + day - 1)
    else
      none
  | .ofMonth month day =>
    let date : CivilDate := ⟨year, month, day⟩
    if date.Exists then some date.toDay else none
  | .ofWeek week weekday =>
    let fourth := CivilDate.toDay ⟨year, 1, 4⟩
    if 1 ≤ week ∧ week ≤ 53 ∧ 1 ≤ weekday ∧ weekday ≤ 7 ∧ dayInRange fourth then
      some (fourth + (week - 1) * 7 + weekday - weekdayFromMonday fourth)
    else
      none

def readDay? (characters : List Char) : Option Int :=
  match readYear? characters with
  | some (year, rest) =>
    ((readDayOfYear? rest).bind (·.resolve? year)).filter dayInRange
  | none =>
    (readCentury? characters).bind fun century =>
      ((DayOfYear.ofMonth 1 1).resolve? (century * 100)).filter dayInRange

/-! ## Times -/

/-- A unit of the time as it is written: two digits, and the digits of its fraction. -/
structure UnitText where
  whole : List Char
  fraction : List Char

def UnitText.value (unit : UnitText) : Rat :=
  nearestDouble
    (ofDecimalDigits (unit.whole ++ unit.fraction) / 10 ^ (unit.fraction.length : Int))

/-- Gives the last of the digits back to the rest, one after the other, until `readRest?` accepts
the rest.  The digits are held the last one first; the answer has those that are kept, in order. -/
def giveBack? {α : Type} (readRest? : List Char → Option α) :
    List Char → List Char → Option (List Char × α)
  | [], rest => (readRest? rest).map ([], ·)
  | digit :: digits, rest =>
    match readRest? rest with
    | some read => some ((digit :: digits).reverse, read)
    | none => giveBack? readRest? digits (digit :: rest)

/-- A unit with the longest fraction that lets `readRest?` accept what follows: two digits, and
after a point or comma any further digits. -/
def readUnit? {α : Type} (readRest? : List Char → Option α) : List Char → Option (UnitText × α)
  | a :: b :: rest =>
    if a.isDigit ∧ b.isDigit then
      let read :=
        match rest with
        | mark :: tail =>
          if mark = '.' ∨ mark = ',' then
            giveBack? readRest? (tail.takeWhile Char.isDigit).reverse
              (tail.dropWhile Char.isDigit)
          else
            (readRest? rest).map ([], ·)
        | [] => (readRest? rest).map ([], ·)
      read.map fun read => (⟨[a, b], read.1⟩, read.2)
    else
      none
  | _ => none

def readUnits? : Nat → List Char → Option (List UnitText)
  | _, [] => some []
  | 0, _ :: _ => none
  | count + 1, characters =>
    let unit := match characters with | ':' :: rest => rest | rest => rest
    (readUnit? (readUnits? count) unit).map fun read => read.1 :: read.2

def readClock? (characters : List Char) : Option (List UnitText) :=
  (readUnit? (readUnits? 2) characters).map fun read => read.1 :: read.2

/-- The milliseconds of hours, minutes and seconds.  The hour 24 ends the day exactly; fractions of
an hour behind it are let through. -/
def clockMilliseconds? (hours minutes seconds : Rat) : Option Rat :=
  if (hours = 24 ∧ minutes = 0 ∧ seconds = 0) ∨
      (hours ≠ 24 ∧ hours < 25 ∧ minutes < 60 ∧ seconds < 60) then
    some (nearestDouble
      (nearestDouble (nearestDouble (hours * 3600000) + nearestDouble (minutes * 60000)) +
        nearestDouble (seconds * 1000)))
  else
    none

def readTime? (characters : List Char) : Option Rat :=
  if characters = [] then
    some 0
  else
    (readClock? characters).bind fun units =>
      let value (position : Nat) := ((units[position]?).map UnitText.value).getD 0
      clockMilliseconds? (value 0) (value 1) (value 2)

/-! ## Zones -/

def zoneShift? (ahead : Bool) (hours minutes : Nat) : Option Int :=
  if minutes ≤ 59 then
    let shift : Int := hours * 3600000 + minutes * 60000
    some (if ahead then -shift else shift)
  else
    none

/-- The milliseconds to add for a zone.  A zone in no known form adds nothing. -/
def readZone? (characters : List Char) : Option Int :=
  let digits := Literal.readDigits?
  match characters with
  | [sign, a, b] =>
    if sign = '+' ∨ sign = '-' then
      match digits [a, b] with
      | some hours => zoneShift? (sign = '+') hours 0
      | none => some 0
    else
      some 0
  | [sign, a, b, c, d] | [sign, a, b, ':', c, d] =>
    if sign = '+' ∨ sign = '-' then
      match digits [a, b], digits [c, d] with
      | some hours, some minutes => zoneShift? (sign = '+') hours minutes
      | _, _ => some 0
    else
      some 0
  | _ => some 0

/-! ## Instants -/

def instantOf? (milliseconds : Rat) : Option Instant :=
  Instant.ofMilliseconds? (milliseconds.num.tdiv milliseconds.den)

def combine? (day : Int) (time : Rat) (zone : Int) : Option Instant :=
  instantOf? (nearestDouble (nearestDouble (day * dayLength + time) + zone))

def read? (characters : List Char) : Option Instant := do
  let parts ← split? characters
  let day ← readDay? parts.date
  let time ← readTime? parts.time
  let zone ← readZone? parts.zone
  combine? day time zone

end Timestamp

end Eligibility
