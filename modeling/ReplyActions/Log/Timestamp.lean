import ReplyActions.Number.Decimal

/-!
# Timestamps

A moment, counted in seconds from the beginning of 1970, as a date and a time of day (RFC 3339,
universal time). Days are counted from the first of March of the year 0, so that a leap day is the
last day of its year.
-/

namespace ReplyActions.Log
open Number

def padded (width n : Nat) : String :=
  let digits := natText n
  String.ofList (List.replicate (width - digits.length) '0') ++ digits

structure Date where
  year : Nat
  month : Nat
  day : Nat
deriving DecidableEq

/-- The days from the first of March of the year 0 to the beginning of 1970. -/
def daysBefore1970 : Nat := 719468

/-- The days in four hundred years. -/
def daysInCycle : Nat := 146097

/-- The day that lies a number of days after the beginning of 1970. -/
def Date.ofDays (days : Nat) : Date :=
  let shifted := days + daysBefore1970
  let inCycle := shifted % daysInCycle
  -- leap days are taken out: one in 4 years, none in 100, one again in 400
  let years := (inCycle - inCycle / 1460 + inCycle / 36524 - inCycle / 146096) / 365
  let inYear := inCycle - (365 * years + years / 4 - years / 100)
  -- from March on, every five months have 153 days
  let fromMarch := (5 * inYear + 2) / 153
  let month := if fromMarch < 10 then fromMarch + 3 else fromMarch - 9
  let year := years + 400 * (shifted / daysInCycle)
  ⟨if month ≤ 2 then year + 1 else year, month, inYear - (153 * fromMarch + 2) / 5 + 1⟩

def Date.text (date : Date) : String :=
  padded 4 date.year ++ "-" ++ padded 2 date.month ++ "-" ++ padded 2 date.day

/-- The part of a second, in as many groups of three digits as it needs. -/
def fractionText (nanoseconds : Nat) : String :=
  if nanoseconds = 0 then ""
  else if nanoseconds % 1000000 = 0 then "." ++ padded 3 (nanoseconds / 1000000)
  else if nanoseconds % 1000 = 0 then "." ++ padded 6 (nanoseconds / 1000)
  else "." ++ padded 9 nanoseconds

def timestamp (seconds nanoseconds : Nat) : String :=
  let ofDay := seconds % 86400
  (Date.ofDays (seconds / 86400)).text ++ "T" ++ padded 2 (ofDay / 3600) ++ ":" ++
    padded 2 (ofDay / 60 % 60) ++ ":" ++ padded 2 (ofDay % 60) ++ fractionText nanoseconds ++ "Z"

end ReplyActions.Log
