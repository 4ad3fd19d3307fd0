import WalletNotify.Toml.Text

/-!
# TOML dates and times

Dates of the calendar, times of the day, and both together with an offset. They are kept as they are
written.
-/

namespace WalletNotify.Toml

open Fault

/-- Reads two digits or more exactly, as a number. -/
def digitsExactly (count : Nat) : Reader Nat := fun input =>
  let cs := input.take count
  if cs.length = count ∧ cs.all Char.isDigit then
    .ok (cs.foldl (fun n c => 10 * n + (c.toNat - 48)) 0, input.drop count)
  else .error (here input)

/-- Reads two digits that tell a number between two bounds. -/
def twoDigits (low high : Nat) : Reader Nat := fun input => do
  let (n, rest) ← digitsExactly 2 input
  if low ≤ n ∧ n ≤ high then return (n, rest) else throw (problemAt input .outOfRange)

/-- Passes over a sign. -/
def passSign (c : Char) : Reader Unit := fun input =>
  match input with
  | d :: rest => if d = c then .ok ((), rest) else .error (here input)
  | [] => .error (here input)

/-- The number of days of a month. -/
def daysIn (year month : Nat) : Nat :=
  if month = 2 then
    if year % 4 = 0 ∧ (year % 100 ≠ 0 ∨ year % 400 = 0) then 29 else 28
  else if month = 4 ∨ month = 6 ∨ month = 9 ∨ month = 11 then 30
  else 31

/-- Passes over a date. Behind the year and its dash there must be one. -/
def date : Reader Unit := fun input => do
  let (year, rest) ← digitsExactly 4 input
  let (_, rest) ← passSign '-' rest
  Except.mapError commit do
    let (month, rest) ← twoDigits 1 12 rest
    let (_, rest) ← passSign '-' rest
    let (day, after) ← twoDigits 1 31 rest
    if daysIn year month < day then throw (problemAt rest .outOfRange) else return ((), after)

/-- Passes over the fraction of a second. -/
def secondFraction : Reader Unit := fun input =>
  match input with
  | '.' :: rest =>
    if (rest.takeWhile Char.isDigit).isEmpty then .error (here rest)
    else .ok ((), rest.dropWhile Char.isDigit)
  | _ => .error (here input)

/-- Passes over a time of the day. Behind the hour and its colon there must be one. -/
def timeOfDay : Reader Unit := fun input => do
  let (_, rest) ← twoDigits 0 23 input
  let (_, rest) ← passSign ':' rest
  Except.mapError commit do
    let (_, rest) ← twoDigits 0 59 rest
    let (_, rest) ← passSign ':' rest
    let (_, rest) ← twoDigits 0 60 rest
    let (_, rest) ← secondFraction.optional rest
    return ((), rest)

/-- Passes over the offset of a time. -/
def offset : Reader Unit := fun input =>
  let hoursAndMinutes : Reader Unit := fun rest =>
    Except.mapError (Fault.inside .offset ∘ commit) do
      let (_, rest) ← twoDigits 0 23 rest
      let (_, rest) ← passSign ':' rest
      let (_, rest) ← twoDigits 0 59 rest
      return ((), rest)
  match input with
  | 'Z' :: rest => .ok ((), rest)
  | 'z' :: rest => .ok ((), rest)
  | '+' :: rest => hoursAndMinutes rest
  | '-' :: rest => hoursAndMinutes rest
  | _ => .error ((here input).inside .offset)

/-- Passes over a time behind a date. -/
def timeBehindDate : Reader Unit := fun input =>
  match input with
  | c :: rest =>
    if c = 'T' ∨ c = 't' ∨ c = ' ' then do
      let (_, rest) ← timeOfDay rest
      let (_, rest) ← offset.optional rest
      return ((), rest)
    else .error (here input)
  | [] => .error (here [])

/-- Passes over a date, with a time behind it or not. -/
def dateTime : Reader Unit := fun input =>
  Except.mapError (Fault.inside .dateTime) do
    let (_, rest) ← date input
    let (_, rest) ← timeBehindDate.optional rest
    return ((), rest)

/-- Reads a date or a time, as it is written. -/
def moment : Reader String := fun input => do
  let (_, rest) ← dateTime.orElse (timeOfDay.onFault (Fault.inside .time)) input
  return (String.ofList (input.take (input.length - rest.length)), rest)

end WalletNotify.Toml
