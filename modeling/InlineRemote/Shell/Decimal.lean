import InlineRemote.Text.Digits

/-! # Fractions as decimal texts

A fraction is read from a decimal or hexadecimal text, rounded to so many binary digits, and written
with a fixed number of decimal places, with an exponent, or in the shorter of both forms.  A value in
the middle between two texts goes to the one with an even last digit. -/
namespace InlineRemote.Shell

/-- A number that may have a fraction, or none that can be written. -/
inductive Amount where
  | finite (negative : Bool) (numerator denominator : Nat)
  | infinite (negative : Bool)
  | undefined (negative : Bool)
  deriving DecidableEq, Repr

namespace Decimal

def rounded (a b : Nat) : Nat :=
  let q := a / b
  let r := a % b
  if b < 2 * r ∨ (2 * r = b ∧ q % 2 = 1) then q + 1 else q

def scaled (base : Nat) (a b : Nat) (e : Int) : Nat × Nat :=
  if 0 ≤ e then (a * Nat.pow base e.toNat, b) else (a, b * Nat.pow base (-e).toNat)

def toBits (bits a b : Nat) : Nat × Nat :=
  if a = 0 then (0, 1)
  else
    let e : Int := (Nat.log2 a : Int) - Nat.log2 b - bits + 1
    let whole (e : Int) : Nat :=
      let (m, n) := scaled 2 a b (-e)
      m / n
    let e := if whole e < Nat.pow 2 (bits - 1) then e - 1 else e
    let (m, n) := scaled 2 a b (-e)
    scaled 2 (rounded m n) 1 e

/-- An amount rounded to the numbers that a machine has: their binary digits and the power of two
that is too large for them. -/
def toMachine (bits limit : Nat) : Amount → Amount
  | .finite s a b =>
    let (m, n) := toBits bits a b
    if n * Nat.pow 2 limit ≤ m then .infinite s else .finite s m n
  | x => x

def toDouble : Amount → Amount :=
  toMachine 53 1024

def toExtended : Amount → Amount :=
  toMachine 64 16384

/-- The exponent at the start of a text after a mark, and what follows it. -/
def exponent (marks : List Char) (s : List Char) : Int × List Char :=
  match s with
  | c :: r =>
    if !marks.contains c then (0, s)
    else
      let (minus, r) : Bool × List Char := match r with
        | '-' :: r => (true, r)
        | '+' :: r => (false, r)
        | r => (false, r)
      match r.takeWhile Char.isDigit with
      | [] => (0, s)
      | ds =>
        let n : Int := min (Text.ofDigits 10 ds) 20000
        (if minus then -n else n, r.dropWhile Char.isDigit)
  | [] => (0, s)

/-- The amount at the start of a text without blanks, and what follows it; `none` if there is none. -/
def read? (s : List Char) : Option (Amount × List Char) :=
  let (minus, r) : Bool × List Char := match s with
    | '-' :: r => (true, r)
    | '+' :: r => (false, r)
    | r => (false, r)
  let lower := r.map Char.toLower
  let starts (w : String) : Bool := w.toList.isPrefixOf lower
  if starts "infinity" then some (.infinite minus, r.drop 8)
  else if starts "inf" then some (.infinite minus, r.drop 3)
  else if starts "nan" then some (.undefined minus, r.drop 3)
  else
    let hexadecimal : Bool := starts "0x" && (lower.drop 2).head?.any fun c =>
      Text.isHexDigit c || c = '.'
    let isDigit := if hexadecimal then Text.isHexDigit else Char.isDigit
    let base := if hexadecimal then 16 else 10
    let r := if hexadecimal then r.drop 2 else r
    let whole := r.takeWhile isDigit
    let (fraction, r) : List Char × List Char :=
      match r.dropWhile isDigit with
      | '.' :: t =>
        if whole = [] ∧ (t.takeWhile isDigit) = [] then ([], '.' :: t)
        else (t.takeWhile isDigit, t.dropWhile isDigit)
      | t => ([], t)
    if whole = [] ∧ fraction = [] then none
    else
      let (e, r) := exponent (if hexadecimal then ['p', 'P'] else ['e', 'E']) r
      let n := Text.ofDigits base (whole ++ fraction)
      let (a, b) := scaled (if hexadecimal then 2 else 10) n (Nat.pow base fraction.length) e
      some (.finite minus a b, r)

def fixed (places : Nat) (point : Bool) (a b : Nat) : List Char :=
  let n := rounded (a * Nat.pow 10 places) b
  let ds := Nat.toDigits 10 n
  let ds := List.replicate (places + 1 - ds.length) '0' ++ ds
  let whole := ds.take (ds.length - places)
  if places = 0 then if point then whole ++ ['.'] else whole
  else whole ++ '.' :: ds.drop (ds.length - places)

def magnitude (a b : Nat) : Int :=
  let guess : Int := (Nat.toDigits 10 a).length - (Nat.toDigits 10 b).length
  let (m, n) := scaled 10 a b (-guess)
  if m < n then guess - 1 else guess

def scientific (places a b : Nat) : Nat × Int :=
  if a = 0 then (0, 0)
  else
    let x := magnitude a b
    let (m, n) := scaled 10 a b (places - x)
    let d := rounded m n
    if Nat.pow 10 (places + 1) ≤ d then (d / 10, x + 1) else (d, x)

def exponential (places : Nat) (point : Bool) (a b : Nat) : List Char :=
  let (d, x) := scientific places a b
  let ds := Nat.toDigits 10 d
  let ds := List.replicate (places + 1 - ds.length) '0' ++ ds
  let tail := if places = 0 then if point then ['.'] else [] else '.' :: ds.drop 1
  let es := Nat.toDigits 10 x.natAbs
  ds.take 1 ++ tail ++ ['e', if x < 0 then '-' else '+'] ++
    List.replicate (2 - es.length) '0' ++ es

def shortened (s : List Char) : List Char :=
  if s.contains '.' then
    let t := s.reverse.dropWhile (· = '0')
    (if t.head? = some '.' then t.drop 1 else t).reverse
  else s

/-- A fraction with so many digits, in the shorter form; the flag keeps noughts at the end. -/
def general (digits : Nat) (point : Bool) (a b : Nat) : List Char :=
  let digits := max digits 1
  let (_, x) := scientific (digits - 1) a b
  let trim (s : List Char) : List Char := if point then s else shortened s
  if -4 ≤ x ∧ x < digits then trim (fixed (digits - 1 - x).toNat point a b)
  else
    let s := exponential (digits - 1) point a b
    trim (s.takeWhile (· ≠ 'e')) ++ s.dropWhile (· ≠ 'e')

def written (kind : Char) (places : Nat) (point : Bool) (x : Amount) : List Char :=
  let s : List Char := match x with
    | .infinite _ => ['i', 'n', 'f']
    | .undefined _ => ['n', 'a', 'n']
    | .finite _ a b =>
      if kind = 'f' ∨ kind = 'F' then fixed places point a b
      else if kind = 'e' ∨ kind = 'E' then exponential places point a b
      else general places point a b
  if kind.isUpper then s.map Char.toUpper else s

def isNegative : Amount → Bool
  | .finite s _ _ | .infinite s | .undefined s => s

end Decimal

end InlineRemote.Shell
