import InlineRemote.Shell.Arithmetic
import InlineRemote.Shell.Calendar
import InlineRemote.Shell.Decimal
import InlineRemote.Shell.Quoting

/-! # What commands print

The texts that `echo` and `printf` write, with the escapes that a backslash starts.  Both shells have
such commands of their own, and there are programs of these names. -/
namespace InlineRemote.Shell

/-- Who prints. -/
inductive Printer where
  | plain
  | extended
  | program
  deriving DecidableEq, Repr

namespace Printing

def plainEscape? : Char → Option Char
  | 'a' => some '\x07'
  | 'b' => some '\x08'
  | 'f' => some '\x0c'
  | 'n' => some '\n'
  | 'r' => some '\r'
  | 't' => some '\t'
  | 'v' => some '\x0b'
  | '\\' => some '\\'
  | _ => none

/-- The octal digits at the start of a text, at most so many, as a character; and their number. -/
def octal (most : Nat) (s : List Char) : Char × Nat :=
  let ds := (s.take most).takeWhile Text.isOctalDigit
  (Char.ofNat (Text.ofDigits 8 ds % 256), ds.length)

def bytes (n : Nat) : List Char :=
  (String.singleton (Char.ofNat n)).toUTF8.toList.map fun b => Char.ofNat b.toNat

def coded? (c : Char) (s : List Char) : Option (List Char × List Char) :=
  let most := if c = 'x' then 2 else if c = 'u' then 4 else 8
  let ds := (s.take most).takeWhile Text.isHexDigit
  if ds = [] then none
  else
    let n := Text.ofDigits 16 ds
    some (if c = 'x' then [Char.ofNat n] else bytes n, s.drop ds.length)

/-- A text with its escapes replaced; the flag says that an escape ended all printing.  Octal numbers
start with nought, or with any digit where that is said. -/
def unescape (more anyDigit : Bool) : Nat → List Char → List Char × Bool
  | 0, _ => ([], false)
  | _ + 1, [] => ([], false)
  | n + 1, '\\' :: c :: s =>
    let go (t s : List Char) : List Char × Bool :=
      let (u, stop) := unescape more anyDigit n s
      (t ++ u, stop)
    if c = 'c' then ([], true)
    else
      match plainEscape? c with
      | some d => go [d] s
      | none =>
        if c = '0' then
          let (d, k) := octal 3 s
          go [d] (s.drop k)
        else if anyDigit && Text.isOctalDigit c then
          let (d, k) := octal 3 (c :: s)
          go [d] ((c :: s).drop k)
        else if more && (c = 'e' || c = 'E') then go ['\x1b'] s
        else if more && (c = 'x' || c = 'u' || c = 'U') then
          match coded? c s with
          | some (t, r) => go t r
          | none => go ['\\', c] s
        else go ['\\', c] s
  | n + 1, c :: s =>
    let (t, stop) := unescape more anyDigit n s
    (c :: t, stop)

def isEchoOption (w : String) : Bool :=
  match w.toList with
  | '-' :: c :: cs => (c :: cs).all ['n', 'e', 'E'].contains
  | _ => false

/-- What `echo` writes: its words with spaces between them and a line end, unless an option asks for
none.  Escapes are replaced if wanted. -/
def echo (p : Printer) (ws : List String) : String :=
  let (bare, escapes, ws) : Bool × Bool × List String :=
    match p, ws with
    | .plain, "-n" :: ws => (true, true, ws)
    | .plain, ws => (false, true, ws)
    | _, ws =>
      let os := (ws.takeWhile isEchoOption).flatMap String.toList
      let last := (os.filter fun c => c = 'e' || c = 'E').getLast?
      (os.contains 'n', last = some 'e', ws.dropWhile isEchoOption)
  let s := (" ".intercalate ws).toList
  let (t, stop) :=
    if escapes then unescape (p ≠ .plain) (p = .program) s.length s else (s, false)
  String.ofList (if bare || stop then t else t ++ ['\n'])

/-- A measure of a directive: a number, or a word that is still to come. -/
inductive Measure where
  | fixed (n : Nat)
  | given
  deriving DecidableEq, Repr

/-- A directive of `printf`: flags, the least width, the precision and the kind. -/
structure Directive where
  flags : List Char
  width : Option Measure
  precision : Option Measure
  kind : Char
  /-- The form of a date. -/
  form : String := ""
  deriving Repr

/-- A part of a format. -/
inductive Part where
  | text (s : String)
  | directive (d : Directive)
  /-- An escape that ends all printing. -/
  | stop
  | mistake (complaint : String)
  deriving Repr

def measure (s : List Char) : Option Measure × List Char :=
  match s with
  | '*' :: r => (some .given, r)
  | s =>
    match s.takeWhile Char.isDigit with
    | [] => (none, s)
    | ds => (some (.fixed (Text.ofDigits 10 ds)), s.dropWhile Char.isDigit)

def unknown (p : Printer) (directive : List Char) : String :=
  let s := String.ofList directive
  match p with
  | .plain => if s.length = 1 then "missing format character" else s ++ ": invalid directive"
  | .extended =>
    let last := String.ofList ((directive.getLast?.filter fun c => c.isAlpha || c = '%').toList)
    if directive.length = 1 ∨ last = "" then "\x60" ++ s ++ "': missing format character"
    else "\x60" ++ last ++ "': invalid format character"
  | .program => s ++ ": invalid conversion specification"

/-- The directive after a percent sign, and what follows it. -/
def directive (p : Printer) (s : List Char) : Part × List Char :=
  let isFlag (c : Char) : Bool := ['-', '+', ' ', '#', '0', '\''].contains c
  let flags := s.takeWhile isFlag
  let (width, r) := measure (s.dropWhile isFlag)
  let (precision, r) : Option Measure × List Char :=
    match r with
    | '.' :: r =>
      let (m, r) := measure r
      (some (m.getD (.fixed 0)), r)
    | r => (none, r)
  let r := if p = .plain then r else r.dropWhile ['h', 'l', 'L', 'j', 'z', 't'].contains
  let known :=
    "sbcdiouxXeEfFgG".toList ++
      match p with
      | .plain => []
      | .extended => ['q', 'Q']
      | .program => ['q']
  let wrong (r : List Char) : Part × List Char :=
    (.mistake (unknown p ('%' :: s.take (s.length - r.length))), r)
  match r with
  | [] => wrong []
  | '(' :: r =>
    if p = .extended then
      match (r.dropWhile (· ≠ ')')) with
      | ')' :: 'T' :: after =>
        (.directive ⟨flags, width, precision, 'T', String.ofList (r.takeWhile (· ≠ ')'))⟩, after)
      | _ => wrong r
    else wrong r
  | c :: r =>
    if known.contains c then (.directive { flags, width, precision, kind := c }, r) else wrong r

/-- The parts of a format. -/
def parts (p : Printer) : Nat → List Char → List Part
  | 0, _ => []
  | _ + 1, [] => []
  | n + 1, '%' :: '%' :: s => .text "%" :: parts p n s
  | n + 1, '%' :: s =>
    match directive p s with
    | (.mistake m, _) => [.mistake m]
    | (part, r) => part :: parts p n r
  | n + 1, '\\' :: c :: s =>
    match plainEscape? c with
    | some d => .text (String.singleton d) :: parts p n s
    | none =>
      let (d, k) := octal 3 (c :: s)
      if k ≠ 0 then .text (String.singleton d) :: parts p n ((c :: s).drop k)
      else if c = '"' || c = '\'' then .text (String.singleton c) :: parts p n s
      else if c = 'e' || (c = 'E' && p = .extended) then .text "\x1b" :: parts p n s
      else if c = 'c' && p = .program then [.stop]
      else if p ≠ .plain && (c = 'x' || c = 'u' || c = 'U') then
        match coded? c s with
        | some (t, r) => .text (String.ofList t) :: parts p n r
        | none =>
          if p = .program then [.mistake "missing hexadecimal number in escape"]
          else .text (String.ofList ['\\', c]) :: parts p n s
      else .text (String.ofList ['\\', c]) :: parts p n s
  | n + 1, c :: s => .text (String.singleton c) :: parts p n s

/-- What was printed so far, and what is left to print. -/
structure Printout where
  text : String := ""
  left : List String
  complaints : List String := []
  status : Nat := 0
  stopped : Bool := false
  /-- Whether a directive asked for a word. -/
  used : Bool := false

def Printout.next (o : Printout) : Option String × Printout :=
  (o.left.head?, { o with left := o.left.drop 1, used := true })

def Printout.complain (o : Printout) (complaint : String) (status : Nat) : Printout :=
  { o with complaints := o.complaints ++ [complaint], status := max o.status status }

def notNumber (p : Printer) (w : String) (inPart : Bool) : String :=
  match p with
  | .plain => w ++ if inPart then ": not completely converted" else ": expected numeric value"
  | .extended =>
    let kind : String := match w.toList with
      | '0' :: c :: _ => if c = 'x' ∨ c = 'X' then "hex " else if c.isDigit then "octal " else ""
      | _ => ""
    w ++ ": invalid " ++ kind ++ "number"
  | .program =>
    "'" ++ w ++ "': " ++ if inPart then "value not completely converted" else
      "expected a numeric value"

/-- The whole number that a word stands for between two bounds.  A character after a quote stands
for its code. -/
def wholeOf (p : Printer) (least most : Int) (w : String) (o : Printout) : Int × Printout :=
  match w.toList with
  | [] => (0, o)
  | '\'' :: c :: _ | '"' :: c :: _ => (c.toNat, o)
  | s =>
    if (s = ['\''] ∨ s = ['"']) ∧ p ≠ .program then (0, o)
    else
      let s := s.dropWhile isGap
      let (minus, ds) : Bool × List Char := match s with
        | '-' :: ds => (true, ds)
        | '+' :: ds => (false, ds)
        | ds => (false, ds)
      let started : Bool := ds.head?.any Char.isDigit
      let (n, r) := digits ds
      let value : Int := if minus then -(n : Int) else n
      let kept := max least (min most value)
      if !started then (0, o.complain (notNumber p w false) 1)
      else if r ≠ [] then (kept, o.complain (notNumber p w true) 1)
      else if value < least ∨ most < value then
        match p with
        | .plain => (kept, o.complain (w ++ ": Numerical result out of range") 1)
        | .extended => (kept, o.complain ("warning: " ++ w ++ ": Numerical result out of range") 0)
        | .program => (kept, o.complain ("'" ++ w ++ "': Numerical result out of range") 1)
      else (value, o)

def amountOf (p : Printer) (w : String) (o : Printout) : Amount × Printout :=
  let machine := if p = .plain then Decimal.toDouble else Decimal.toExtended
  match w.toList with
  | [] => (.finite false 0 1, o)
  | '\'' :: c :: _ | '"' :: c :: _ => (.finite false c.toNat 1, o)
  | s =>
    match Decimal.read? (s.dropWhile isGap) with
    | none => (.finite false 0 1, o.complain (notNumber p w false) 1)
    | some (x, []) => (machine x, o)
    | some (x, _ :: _) => (machine x, o.complain (notNumber p w true) 1)

def pad (left : Bool) (width : Nat) (s : List Char) : List Char :=
  let blanks := List.replicate (width - s.length) ' '
  if left then s ++ blanks else blanks ++ s

def padNumber (left zeros : Bool) (width : Nat) (mark ds : List Char) : List Char :=
  if zeros && !left then
    mark ++ List.replicate (width - mark.length - ds.length) '0' ++ ds
  else pad left width (mark ++ ds)

def measured (p : Printer) (m : Option Measure) (o : Printout) : Option (Nat × Bool) × Printout :=
  match m with
  | none => (none, o)
  | some (.fixed n) => (some (n, false), o)
  | some .given =>
    let (w, o) := o.next
    let (n, o) := wholeOf p (-2147483648) 2147483647 (w.getD "") o
    (some (n.natAbs, n < 0), o)

def digitsIn (kind : Char) (n : Nat) : List Char :=
  match kind with
  | 'o' => Nat.toDigits 8 n
  | 'x' => Nat.toDigits 16 n
  | 'X' => (Nat.toDigits 16 n).map Char.toUpper
  | _ => Nat.toDigits 10 n

/-- Prints the next word as a directive says, at a time in microseconds. -/
def Directive.print (p : Printer) (now : Nat) (d : Directive) (o : Printout) : Printout :=
  let (width, o) := measured p d.width o
  let (precision, o) := measured p d.precision o
  let left : Bool := d.flags.contains '-' || width.any Prod.snd
  let width := (width.map Prod.fst).getD 0
  let precision := precision.bind fun (n, minus) => if minus then none else some n
  let (w?, o) := o.next
  let w := w?.getD ""
  let add (s : List Char) : Printout := { o with text := o.text ++ String.ofList s }
  let cut (s : List Char) : List Char := (precision.map s.take).getD s
  let sign (negative : Bool) : List Char :=
    if negative then ['-']
    else if d.flags.contains '+' then ['+'] else if d.flags.contains ' ' then [' '] else []
  match d.kind with
  | 's' => add (pad left width (cut w.toList))
  | 'b' =>
    let (t, stop) := unescape (p ≠ .plain) true w.length w.toList
    { add (pad left width (cut t)) with stopped := stop }
  | 'q' | 'Q' =>
    let t : String :=
      if p = .program then if Quoting.hasSigns w || w = "" then Quoting.single w else w
      else Quoting.slashed w
    add (pad left width (cut t.toList))
  | 'c' => add (pad left width (if w = "" then ['\x00'] else w.toList.take 1))
  | 'T' =>
    let (n, o) := wholeOf p (-9223372036854775808) greatest (w?.getD "-1") o
    let n := if n < 0 then (now / 1000000 : Int) else n
    let t := (Moment.ofSeconds n).format 0 (if d.form = "" then "%X" else d.form)
    { o with text := o.text ++ String.ofList (pad left width (cut t.toList)) }
  | k =>
    let zeros : Bool := d.flags.contains '0'
    if "eEfFgG".toList.contains k then
      let (x, o) := amountOf p w o
      let ds := Decimal.written k (precision.getD 6) (d.flags.contains '#') x
      let finite : Bool := match x with
        | .finite .. => true
        | _ => false
      let t := padNumber left (zeros && finite) width (sign (Decimal.isNegative x)) ds
      { o with text := o.text ++ String.ofList t }
    else
      let signed : Bool := k = 'd' || k = 'i'
      let (n, o) :=
        if signed then wholeOf p (-9223372036854775808) greatest w o
        else wholeOf p (-18446744073709551615) 18446744073709551615 w o
      let m : Nat := if signed then n.natAbs else (n % 18446744073709551616).toNat
      let ds := digitsIn k m
      let ds := if precision = some 0 ∧ m = 0 then [] else ds
      let ds := List.replicate (precision.getD 0 - ds.length) '0' ++ ds
      let marked : Bool := d.flags.contains '#'
      let ds := if marked && k = 'o' && ds.head? ≠ some '0' then '0' :: ds else ds
      let mark : List Char :=
        if signed then sign (n < 0)
        else if marked && m ≠ 0 && (k = 'x' || k = 'X') then ['0', k] else []
      let t := padNumber left (zeros && precision.isNone) width mark ds
      { o with text := o.text ++ String.ofList t }

def Part.print (p : Printer) (now : Nat) (o : Printout) (part : Part) : Printout :=
  if o.stopped then o
  else
    match part with
    | .text s => { o with text := o.text ++ s }
    | .stop => { o with stopped := true }
    | .mistake m => { o.complain m (if p = .plain then 2 else 1) with stopped := true }
    | .directive d => d.print p now o

def rounds (p : Printer) (now : Nat) (ps : List Part) : Nat → Printout → Printout
  | 0, o => o
  | n + 1, o =>
    let before := o.left.length
    let o := ps.foldl (Part.print p now) { o with used := false }
    if o.stopped || o.left = [] || o.left.length = before then o else rounds p now ps n o

def printf (p : Printer) (now : Nat) (form : String) (ws : List String) : Printout :=
  let o := rounds p now (parts p form.length form.toList) (ws.length + 1) { left := ws }
  match p, o.stopped, o.left with
  | .program, false, w :: _ =>
    if o.used then o
    else o.complain ("warning: ignoring excess arguments, starting with '" ++ w ++ "'") 0
  | _, _, _ => o

end Printing

end InlineRemote.Shell
