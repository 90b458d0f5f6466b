import InlineRemote.Text.Digits
import InlineRemote.Text.Strip
import InlineRemote.Toml.Value

/-! # Reading numbers

Digits may have single underscores between them.  A decimal number has an optional sign and no
needless leading zero; with a fraction or an exponent it is a float, and the floats `inf` and `nan`
are written out.  Hexadecimal, octal and binary integers have a lower-case mark and no sign.
Integers have 64 bits with a sign, and a float must not be too large for one of 64 bits. -/
namespace InlineRemote.Toml

open Text

/-- The rest of a row of digits after its first: the digits and what follows them. -/
def readDigits (isDigit : Char → Bool) : List Char → List Char × List Char
  | [] => ([], [])
  | c :: s =>
    if isDigit c then
      let (ds, r) := readDigits isDigit s
      (c :: ds, r)
    else if c = '_' ∧ (s.head?.map isDigit).getD false then readDigits isDigit s
    else ([], c :: s)

def readRow (isDigit : Char → Bool) : List Char → Option (List Char × List Char)
  | [] => none
  | c :: s =>
    if isDigit c then
      let (ds, r) := readDigits isDigit s
      some (c :: ds, r)
    else none

def integer? (n : Int) : Option Value :=
  if -9223372036854775808 ≤ n ∧ n ≤ 9223372036854775807 then some (.integer n) else none

def readBased (base : Nat) (isDigit : Char → Bool) (s : List Char) :
    Option (Value × List Char) :=
  match readRow isDigit s with
  | none => none
  | some (ds, r) => (integer? (ofDigits base ds)).map (·, r)

def readSign : List Char → Bool × List Char
  | '+' :: s => (false, s)
  | '-' :: s => (true, s)
  | s => (false, s)

/-- Reads the digits before the point: a zero alone, or a row that does not start with one. -/
def readWhole : List Char → Option (List Char × List Char)
  | '0' :: s => some (['0'], s)
  | s => readRow Char.isDigit s

def readFraction : List Char → Option (List Char × List Char)
  | '.' :: s => readRow Char.isDigit s
  | _ => none

/-- Reads an exponent: its value and the rest. -/
def readExponent : List Char → Option (Int × List Char)
  | c :: s =>
    if c = 'e' ∨ c = 'E' then
      let (negative, s) := readSign s
      match readRow Char.isDigit s with
      | none => none
      | some (ds, r) =>
        let n : Int := ofDigits 10 ds
        some (if negative then -n else n, r)
    else none
  | [] => none

/-- Reads what makes a number a float: the digits of its fraction, its exponent, and the rest. -/
def readFloatTail (s : List Char) : Option (List Char × Int × List Char) :=
  match readFraction s with
  | some (ds, r) =>
    match readExponent r with
    | some (e, r) => some (ds, e, r)
    | none => some (ds, 0, r)
  | none => (readExponent s).map fun (e, r) => ([], e, r)

/-- Whether digits times a power of ten are too large for a float of 64 bits: they lie at or above
the middle between the largest one and the next power of two. -/
def overflows (digits : List Char) (exponent : Int) : Bool :=
  let n := ofDigits 10 digits
  let bound := Nat.pow 2 1024 - Nat.pow 2 970
  if n = 0 then false
  else if 400 < exponent then true
  else if exponent < -(digits.length : Int) - 400 then false
  else if 0 ≤ exponent then bound ≤ n * Nat.pow 10 exponent.toNat
  else bound * Nat.pow 10 (-exponent).toNat ≤ n

def readNamedFloat (s : List Char) : Option (List Char) :=
  (strip? ['i', 'n', 'f'] s).or (strip? ['n', 'a', 'n'] s)

def consumed (s rest : List Char) : String :=
  String.ofList (s.take (s.length - rest.length))

/-- Reads a decimal number from its sign on. -/
def readDecimal (s : List Char) : Option (Value × List Char) :=
  let (negative, unsigned) := readSign s
  match readNamedFloat unsigned with
  | some r => some (.float (consumed s r), r)
  | none =>
    match readWhole unsigned with
    | none => none
    | some (whole, r) =>
      match readFloatTail r with
      | some (fraction, e, r) =>
        if !negative && overflows (whole ++ fraction) (e - fraction.length) then none
        else some (.float (consumed s r), r)
      | none =>
        let n : Int := ofDigits 10 whole
        (integer? (if negative then -n else n)).map (·, r)

def readNumber (s : List Char) : Option (Value × List Char) :=
  match s with
  | '0' :: 'x' :: r => readBased 16 isHexDigit r
  | '0' :: 'o' :: r => readBased 8 isOctalDigit r
  | '0' :: 'b' :: r => readBased 2 isBinaryDigit r
  | s => readDecimal s

end InlineRemote.Toml
