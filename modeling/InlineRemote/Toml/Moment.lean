import InlineRemote.Toml.Number

/-! # Reading dates and times

A date is a day of the calendar.  A time has seconds, which may be a leap second and have a
fraction.  A date may be followed by a time, after a letter T or a space, and the time then by an
offset from universal time. -/
namespace InlineRemote.Toml

open Text

def readFixed (digits : Nat) (s : List Char) : Option (Nat × List Char) :=
  let ds := s.take digits
  if ds.length = digits ∧ ds.all Char.isDigit then some (ofDigits 10 ds, s.drop digits) else none

def readPair (low high : Nat) (s : List Char) : Option (Nat × List Char) :=
  match readFixed 2 s with
  | some (n, r) => if low ≤ n ∧ n ≤ high then some (n, r) else none
  | none => none

def readChar (c : Char) : List Char → Option (List Char)
  | d :: s => if d = c then some s else none
  | [] => none

def daysInMonth (year month : Nat) : Nat :=
  if month = 2 then
    if year % 4 = 0 ∧ (year % 100 ≠ 0 ∨ year % 400 = 0) then 29 else 28
  else if month = 4 ∨ month = 6 ∨ month = 9 ∨ month = 11 then 30
  else 31

def readDate (s : List Char) : Option (List Char) := do
  let (year, s) ← readFixed 4 s
  let s ← readChar '-' s
  let (month, s) ← readPair 1 12 s
  let s ← readChar '-' s
  let (_, s) ← readPair 1 (daysInMonth year month) s
  return s

def skipSecondFraction (s : List Char) : List Char :=
  match readChar '.' s with
  | none => s
  | some r =>
    if (r.head?.map Char.isDigit).getD false then r.dropWhile Char.isDigit else s

def readTime (s : List Char) : Option (List Char) := do
  let (_, s) ← readPair 0 23 s
  let s ← readChar ':' s
  let (_, s) ← readPair 0 59 s
  let s ← readChar ':' s
  let (_, s) ← readPair 0 60 s
  return skipSecondFraction s

def readHoursMinutes (s : List Char) : Option (List Char) := do
  let (_, s) ← readPair 0 23 s
  let s ← readChar ':' s
  let (_, s) ← readPair 0 59 s
  return s

/-- Drops an offset from universal time, if there is one; `none` when it is only begun. -/
def skipOffset : List Char → Option (List Char)
  | c :: s =>
    if c = 'Z' ∨ c = 'z' then some s
    else if c = '+' ∨ c = '-' then readHoursMinutes s
    else some (c :: s)
  | [] => some []

/-- Reads the time after a date, if there is one. -/
def skipTimeOfDate (s : List Char) : Option (List Char) :=
  match s with
  | c :: r =>
    if c = 'T' ∨ c = 't' ∨ c = ' ' then
      match readTime r with
      | some r => skipOffset r
      | none => some s
    else some s
  | [] => some []

def readMoment (s : List Char) : Option (Value × List Char) :=
  match (readDate s).bind skipTimeOfDate with
  | some r => some (.moment (consumed s r), r)
  | none => (readTime s).map fun r => (.moment (consumed s r), r)

end InlineRemote.Toml
