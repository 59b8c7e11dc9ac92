import TemplateFunctions.Toml.Quoted

/-!
Dates and times of TOML: a date, a time of day, or both with an offset or without.

* `dateTime`: any of them. The date has to be in the calendar.
-/

namespace TemplateFunctions

namespace Toml

open Reader

/-- Whether February of a year has 29 days. -/
def isLeap (year : Nat) : Bool :=
  year % 4 = 0 && (year % 100 ≠ 0 || year % 400 = 0)

/-- The number of days of a month. -/
def daysIn (year month : Nat) : Nat :=
  if month = 2 then if isLeap year then 29 else 28
  else if month = 4 || month = 6 || month = 9 || month = 11 then 30
  else 31

/-- Reads a number of exactly `n` digits. -/
def field (n : Nat) : Reader Nat := do
  pure (numberOf 10 (← exactly n Char.isDigit))

/-- Reads a date. -/
def date : Reader Unit := do
  let year ← field 4
  symbol '-'
  let month ← field 2
  require (1 ≤ month && month ≤ 12)
  symbol '-'
  let day ← field 2
  require (1 ≤ day && day ≤ daysIn year month)

/-- Reads hours and minutes. -/
def hourMinute : Reader Unit := do
  let hour ← field 2
  require (hour ≤ 23)
  symbol ':'
  let minute ← field 2
  require (minute ≤ 59)

/-- Reads a time of day. -/
def time : Reader Unit := do
  hourMinute
  symbol ':'
  let second ← field 2
  require (second ≤ 60)
  let _ ← maybe (do symbol '.'; let _ ← run1 Char.isDigit)

/-- Reads the offset from universal time. -/
def offset : Reader Unit :=
  (do let _ ← char fun c => c == 'Z' || c == 'z')
    <|> (do
      let _ ← char fun c => c == '+' || c == '-'
      hourMinute)

/-- Reads a date, a time, or both. -/
def dateTime : Reader Unit :=
  (do
    date
    let _ ← maybe (do
      let _ ← char fun c => c == 'T' || c == 't' || c == ' '
      time
      let _ ← maybe offset))
    <|> time

end Toml

end TemplateFunctions
