/-! # Dates and times of day

Moments are counted in seconds from the start of the year 1970.  A date is found by counting days in
cycles of 400 years, where each year is taken to start in March. -/
namespace InlineRemote.Shell

/-- A date and a time of day. -/
structure Moment where
  year : Int
  month : Nat
  day : Nat
  second : Nat
  deriving DecidableEq, Repr

namespace Moment

def days (year : Int) (month day : Nat) : Int :=
  let y := if month ≤ 2 then year - 1 else year
  let cycle := y.fdiv 400
  let inCycle := y - cycle * 400
  let fromMarch : Int := ((month + 9) % 12 : Nat)
  let ofYear := (153 * fromMarch + 2).fdiv 5 + day - 1
  cycle * 146097 + inCycle * 365 + inCycle.fdiv 4 - inCycle.fdiv 100 + ofYear - 719468

def ofSeconds (n : Int) : Moment :=
  let z := n.fdiv 86400 + 719468
  let cycle := z.fdiv 146097
  let dayOfCycle := (z - cycle * 146097).toNat
  let yearOfCycle :=
    (dayOfCycle - dayOfCycle / 1460 + dayOfCycle / 36524 - dayOfCycle / 146096) / 365
  let dayOfYear := dayOfCycle - (365 * yearOfCycle + yearOfCycle / 4 - yearOfCycle / 100)
  let fromMarch := (5 * dayOfYear + 2) / 153
  let month := if fromMarch < 10 then fromMarch + 3 else fromMarch - 9
  { year := cycle * 400 + yearOfCycle + if month ≤ 2 then 1 else 0
    month
    day := dayOfYear - (153 * fromMarch + 2) / 5 + 1
    second := (n - n.fdiv 86400 * 86400).toNat }

def toSeconds (m : Moment) : Int :=
  days m.year m.month m.day * 86400 + m.second

def weekday (m : Moment) : Nat :=
  ((days m.year m.month m.day + 4).fmod 7).toNat

def yearDay (m : Moment) : Nat :=
  (days m.year m.month m.day - days m.year 1 1).toNat

def dayNames : List String :=
  ["Sunday", "Monday", "Tuesday", "Wednesday", "Thursday", "Friday", "Saturday"]

def monthNames : List String :=
  ["January", "February", "March", "April", "May", "June", "July", "August", "September", "October",
    "November", "December"]

/-- The number of the week that starts on Monday and holds the Thursday of the same year, and that
year. -/
def isoWeek (m : Moment) : Int × Nat :=
  let thursday := ofSeconds ((days m.year m.month m.day + 3 - ((m.weekday + 6) % 7 : Nat)) * 86400)
  (thursday.year, thursday.yearDay / 7 + 1)

def filled (fill : Char) (width : Nat) (n : Nat) : List Char :=
  let ds := Nat.toDigits 10 n
  List.replicate (width - ds.length) fill ++ ds

/-- A moment in a form with a letter after each percent sign; the part of a second is in millionths,
and an amount bounds the form. -/
def written (m : Moment) (part : Nat) : Nat → List Char → List Char
  | 0, _ => []
  | _ + 1, [] => []
  | n + 1, '%' :: s =>
    let flags := s.takeWhile fun c => ['-', '_', '0', '^', '#'].contains c
    let s := s.dropWhile fun c => ['-', '_', '0', '^', '#'].contains c
    let ds := s.takeWhile Char.isDigit
    let s := s.dropWhile Char.isDigit
    let number (fill : Char) (width k : Nat) : List Char :=
      if flags.contains '-' then Nat.toDigits 10 k
      else filled (if flags.contains '_' then ' ' else if flags.contains '0' then '0' else fill)
        width k
    let hour := m.second / 3600
    let half := if hour % 12 = 0 then 12 else hour % 12
    let year := m.year.toNat
    let word (w : String) : List Char :=
      if flags.contains '^' then w.toList.map Char.toUpper else w.toList
    match s with
    | [] => ['%']
    | c :: r =>
      let inner (form : String) : List Char := written m part n form.toList
      let text : List Char := match c with
        | 'Y' => Nat.toDigits 10 year
        | 'C' => number '0' 2 (year / 100)
        | 'y' => number '0' 2 (year % 100)
        | 'm' => number '0' 2 m.month
        | 'd' => number '0' 2 m.day
        | 'e' => number ' ' 2 m.day
        | 'H' => number '0' 2 hour
        | 'k' => number ' ' 2 hour
        | 'I' => number '0' 2 half
        | 'l' => number ' ' 2 half
        | 'M' => number '0' 2 (m.second / 60 % 60)
        | 'S' => number '0' 2 (m.second % 60)
        | 'N' =>
          let nanos := filled '0' 9 (part * 1000)
          if ds = [] then nanos else nanos.take (ds.foldl (fun k d => 10 * k + d.toNat - 48) 0)
        | 's' => (toString m.toSeconds).toList
        | 'j' => number '0' 3 (m.yearDay + 1)
        | 'u' => number '0' 1 (if m.weekday = 0 then 7 else m.weekday)
        | 'w' => number '0' 1 m.weekday
        | 'U' => number '0' 2 ((m.yearDay + 7 - m.weekday) / 7)
        | 'W' => number '0' 2 ((m.yearDay + 7 - (m.weekday + 6) % 7) / 7)
        | 'V' => number '0' 2 m.isoWeek.2
        | 'G' => (toString m.isoWeek.1).toList
        | 'g' => number '0' 2 (m.isoWeek.1.toNat % 100)
        | 'A' => word (dayNames[m.weekday]?.getD "")
        | 'a' => (word (dayNames[m.weekday]?.getD "")).take 3
        | 'B' => word (monthNames[m.month - 1]?.getD "")
        | 'b' | 'h' => (word (monthNames[m.month - 1]?.getD "")).take 3
        | 'p' => if hour < 12 then ['A', 'M'] else ['P', 'M']
        | 'P' => if hour < 12 then ['a', 'm'] else ['p', 'm']
        | 'D' | 'x' => inner "%m/%d/%y"
        | 'F' => inner "%Y-%m-%d"
        | 'T' | 'X' => inner "%H:%M:%S"
        | 'R' => inner "%H:%M"
        | 'r' => inner "%I:%M:%S %p"
        | 'c' => inner "%a %b %e %H:%M:%S %Y"
        | 'z' => "+0000".toList
        | 'Z' => "UTC".toList
        | 'n' => ['\n']
        | 't' => ['\t']
        | '%' => ['%']
        | c => ['%', c]
      text ++ written m part n r
  | n + 1, c :: s => c :: written m part n s

def format (m : Moment) (part : Nat) (form : String) : String :=
  String.ofList (written m part (2 * form.length + 20) form.toList)

end Moment

end InlineRemote.Shell
