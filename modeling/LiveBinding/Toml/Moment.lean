import LiveBinding.Text.Numeral

/-!
# Dates and times

A moment is a date, a time of the day, or both with an optional distance from universal time. The
readers check that the day exists and answer what follows it.
-/

namespace LiveBinding.Toml

/-- A number of exactly so many digits that lies between two bounds. -/
def takeWithin? (count low high : Nat) (chars : List Char) : Option (Nat × List Char) :=
  let digits := chars.take count
  let value := Text.readNat digits
  if digits.length = count ∧ digits.all Char.isDigit ∧ low ≤ value ∧ value ≤ high then
    some (value, chars.drop count)
  else none

/-- What follows a mark that stands here. -/
def takeMark? (mark : Char) : List Char → Option (List Char)
  | char :: rest => if char = mark then some rest else none
  | [] => none

/-- Whether the year has a day more. -/
def isLeapYear (year : Nat) : Bool := year % 4 == 0 && (year % 100 != 0 || year % 400 == 0)

/-- How many days a month has. -/
def daysInMonth (year month : Nat) : Nat :=
  if month = 2 then (if isLeapYear year then 29 else 28)
  else if month = 4 ∨ month = 6 ∨ month = 9 ∨ month = 11 then 30
  else 31

/-- What follows a date. -/
def takeDate? (chars : List Char) : Option (List Char) := do
  let (year, rest) ← takeWithin? 4 0 9999 chars
  let (month, rest) ← takeWithin? 2 1 12 (← takeMark? '-' rest)
  let (_, rest) ← takeWithin? 2 1 (daysInMonth year month) (← takeMark? '-' rest)
  some rest

/-- What follows a part of a second, if one stands here. -/
def skipSecondPart : List Char → List Char
  | '.' :: digit :: rest =>
    if digit.isDigit then rest.dropWhile Char.isDigit else '.' :: digit :: rest
  | chars => chars

/-- What follows a time of the day. A minute may have one second more than usual. -/
def takeClock? (chars : List Char) : Option (List Char) := do
  let (_, rest) ← takeWithin? 2 0 23 chars
  let (_, rest) ← takeWithin? 2 0 59 (← takeMark? ':' rest)
  let (_, rest) ← takeWithin? 2 0 60 (← takeMark? ':' rest)
  some (skipSecondPart rest)

/-- What follows a distance from universal time. -/
def takeOffset? : List Char → Option (List Char)
  | [] => none
  | char :: rest =>
    if char = 'Z' ∨ char = 'z' then some rest
    else if char = '+' ∨ char = '-' then do
      let (_, rest) ← takeWithin? 2 0 23 rest
      let (_, rest) ← takeWithin? 2 0 59 (← takeMark? ':' rest)
      some rest
    else none

/-- What follows the time of the day that belongs to a date, if one stands here. -/
def skipDayTime : List Char → List Char
  | [] => []
  | char :: rest =>
    if char = 'T' ∨ char = 't' ∨ char = ' ' then
      match takeClock? rest with
      | some after => (takeOffset? after).getD after
      | none => char :: rest
    else char :: rest

/-- What follows a moment. -/
def skipMoment? (chars : List Char) : Option (List Char) :=
  match takeDate? chars with
  | some rest => some (skipDayTime rest)
  | none => takeClock? chars

/-- The text of a moment and what follows it. -/
def takeMoment? (chars : List Char) : Option (String × List Char) :=
  (skipMoment? chars).map fun rest =>
    (String.ofList (chars.take (chars.length - rest.length)), rest)

end LiveBinding.Toml
