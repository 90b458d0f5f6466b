import InlineRemote.Shell.Calendar
import InlineRemote.Shell.Decimal
import InlineRemote.Shell.Regex
import InlineRemote.Shell.Utility.Call

/-! # Programs that compute values

Values of expressions, rows of numbers, parts of paths, the time, and facts about the system. -/
namespace InlineRemote.Shell

namespace Utility

namespace Expr

def integer? (w : String) : Option Int :=
  let (minus, ds) : Bool × List Char := match w.toList with
    | '-' :: ds => (true, ds)
    | ds => (false, ds)
  if ds ≠ [] ∧ ds.all Char.isDigit then
    some (if minus then -(Text.ofDigits 10 ds : Int) else Text.ofDigits 10 ds)
  else none

def isNought (v : String) : Bool :=
  v = "" || match v.toList with
    | '-' :: c :: ds => (c :: ds).all (· = '0')
    | ds => ds.all (· = '0')

def truth (b : Bool) : String :=
  if b then "1" else "0"

/-- Why there is no value. -/
inductive Failure where
  | mistake (text : String)
  /-- An operand is no number, or a divisor is nought. -/
  | unfit (text : String)

def compute (op a b : String) : Except Failure String := do
  let some m := integer? a | .error (.unfit "non-integer argument")
  let some n := integer? b | .error (.unfit "non-integer argument")
  match op with
  | "+" => .ok (toString (m + n))
  | "-" => .ok (toString (m - n))
  | "*" => .ok (toString (m * n))
  | "/" => if n = 0 then .error (.unfit "division by zero") else .ok (toString (m.tdiv n))
  | _ => if n = 0 then .error (.unfit "division by zero") else .ok (toString (m.tmod n))

def compare (op a b : String) : String :=
  let byOrder (less same : Bool) : Bool :=
    match op with
    | "<" => less
    | "<=" => less || same
    | "=" | "==" => same
    | "!=" => !same
    | ">=" => !less
    | _ => !less && !same
  match integer? a, integer? b with
  | some m, some n => truth (byOrder (m < n) (m = n))
  | _, _ => truth (byOrder (a < b) (a = b))

/-- What a basic expression fits at the start of a text: what its first group fitted, or how much. -/
def fitting (text pattern : String) : Except Failure String :=
  match Regex.ofText? false pattern.toList with
  | none => .error (.mistake "Invalid regular expression")
  | some r =>
    let grouped : Bool := (pattern.splitOn "\\(").length ≠ 1
    match Regex.search? {} (.sequence .front r) text.toList 0 with
    | none => .ok (if grouped then "" else "0")
    | some found =>
      if grouped then .ok (String.ofList ((Regex.fittedBy text.toList found 1).getD []))
      else .ok (toString (found.2.before - found.1.before))

def operators : List (List String) :=
  [["|"], ["&"], ["<", "<=", "=", "==", "!=", ">=", ">"], ["+", "-"], ["*", "/", "%"], [":"]]

def apply (op a b : String) : Except Failure String :=
  match op with
  | "|" => .ok (if !isNought a then a else if !isNought b then b else "0")
  | "&" => .ok (if isNought a || isNought b then "0" else a)
  | ":" => fitting a b
  | "+" | "-" | "*" | "/" | "%" => compute op a b
  | op => .ok (compare op a b)

mutual

def level : Nat → List (List String) → List String → Except Failure (String × List String)
  | 0, _, _ => .error (.mistake "syntax error")
  | n + 1, [], ws => operand n ws
  | n + 1, ops :: tighter, ws => do
    let (a, r) ← level n tighter ws
    more n ops tighter a r

def more : Nat → List String → List (List String) → String → List String →
    Except Failure (String × List String)
  | 0, _, _, _, _ => .error (.mistake "syntax error")
  | n + 1, ops, tighter, a, ws =>
    match ws with
    | op :: r =>
      if ops.contains op then do
        let (b, r) ← level n tighter r
        more n ops tighter (← apply op a b) r
      else .ok (a, ws)
    | [] => .ok (a, [])

/-- The value of a word, of a function, or of an expression in parentheses. -/
def operand : Nat → List String → Except Failure (String × List String)
  | 0, _ => .error (.mistake "syntax error")
  | _ + 1, [] => .error (.mistake "syntax error: missing argument")
  | n + 1, w :: ws =>
    match w, ws with
    | "+", v :: r => .ok (v, r)
    | "(", _ => do
      let (a, r) ← level n operators ws
      match r with
      | ")" :: r => .ok (a, r)
      | _ => .error (.mistake "syntax error: expecting ')'")
    | "length", _ :: _ => do
      let (a, r) ← operand n ws
      .ok (toString a.length, r)
    | "match", _ :: _ => do
      let (a, r) ← operand n ws
      let (b, r) ← operand n r
      .ok (← fitting a b, r)
    | "index", _ :: _ => do
      let (a, r) ← operand n ws
      let (b, r) ← operand n r
      let k := (a.toList.findIdx? b.toList.contains).map (· + 1)
      .ok (toString (k.getD 0), r)
    | "substr", _ :: _ => do
      let (a, r) ← operand n ws
      let (b, r) ← operand n r
      let (d, r) ← operand n r
      match integer? b, integer? d with
      | some i, some k =>
        .ok (if i ≤ 0 ∨ k ≤ 0 then "" else
          String.ofList ((a.toList.drop (i.toNat - 1)).take k.toNat), r)
      | _, _ => .ok ("", r)
    | ")", _ => .error (.mistake "syntax error: unexpected ')'")
    | w, _ => .ok (w, ws)

end

end Expr

def expr (c : Call) : Act Nat := do
  let ws := if c.words.head? = some "--" then c.words.drop 1 else c.words
  if ws = [] then return ← c.lacksOperand 2
  match Expr.level (12 * ws.length + 20) Expr.operators ws with
  | .error (.mistake e) => c.fail e 2
  | .error (.unfit e) => c.fail e 2
  | .ok (_, w :: _) => c.fail ("syntax error: unexpected argument '" ++ w ++ "'") 2
  | .ok (v, []) => c.print (v ++ "\n") (if Expr.isNought v then 1 else 0)

/-- A decimal number: its digits as a whole number, and how many of them are decimal places. -/
def decimal? (w : String) : Option (Int × Nat) :=
  let (minus, s) : Bool × List Char := match w.toList with
    | '-' :: s => (true, s)
    | '+' :: s => (false, s)
    | s => (false, s)
  let whole := s.takeWhile Char.isDigit
  let (part, r) : List Char × List Char := match s.drop whole.length with
    | '.' :: p => (p.takeWhile Char.isDigit, p.dropWhile Char.isDigit)
    | r => ([], r)
  let exponent? : Option Int := match r with
    | [] => some 0
    | c :: ds =>
      let (below, ds) : Bool × List Char := match ds with
        | '-' :: ds => (true, ds)
        | '+' :: ds => (false, ds)
        | ds => (false, ds)
      if (c = 'e' || c = 'E') && ds ≠ [] && ds.all Char.isDigit then
        let k : Nat := min 30 (Text.ofDigits 10 ds)
        some (if below then -(k : Int) else k)
      else none
  match exponent? with
  | none => none
  | some e =>
    if whole = [] ∧ part = [] then none
    else
      let n : Nat := Text.ofDigits 10 (whole ++ part)
      let shift : Int := e - part.length
      let n := n * Nat.pow 10 shift.toNat
      some (if minus then -(n : Int) else n, (-shift).toNat)

def decimalText (places : Nat) (n : Int) : List Char :=
  let ds := Nat.toDigits 10 n.natAbs
  let ds := List.replicate (places + 1 - ds.length) '0' ++ ds
  let whole := ds.take (ds.length - places)
  let sign := if n < 0 then ['-'] else []
  sign ++ if places = 0 then whole else whole ++ '.' :: ds.drop (ds.length - places)

/-- Shows the numbers from one to another. -/
def seq (c : Call) : Act Nat := do
  let isNumber (w : String) : Bool := (decimal? w).isSome
  let rec front : Bool → List String → List String × List String
    | _, [] => ([], [])
    | argument, w :: ws =>
      let isOption : Bool := "-".toList.isPrefixOf w.toList && 1 < w.length && !isNumber w
      if argument || isOption then
        let (a, b) := front (!argument && ["-s", "-f", "--separator", "--format"].contains w) ws
        (w :: a, b)
      else ([], w :: ws)
  let (options, numbers) := front false c.words
  let names := [("separator", 's', true), ("equal-width", 'w', false), ("format", 'f', true)]
  let numbers := if numbers.head? = some "--" then numbers.drop 1 else numbers
  let c := { c with words := options }
  c.withOptions { letters := "s:wf:", names } 1 fun os more => do
    let numbers := more ++ numbers
    if numbers = [] then return ← c.lacksOperand 1
    if let some w := numbers[3]? then
      c.complain ("extra operand '" ++ w ++ "'")
      return 1
    if let some w := numbers.find? (!isNumber ·) then
      c.complain ("invalid floating point argument: '" ++ w ++ "'")
      return 1
    let parsed := numbers.filterMap decimal?
    let one : Int × Nat := (1, 0)
    let (first, step, last) := match parsed with
      | [b] => (one, one, b)
      | [a, b] => (a, one, b)
      | [a, d, b] => (a, d, b)
      | _ => (one, one, one)
    let places := max first.2 step.2
    let most := max places last.2
    let whole (x : Int × Nat) : Int := x.1 * (Nat.pow 10 (most - x.2) : Nat)
    let (a, d, b) := (whole first, whole step, whole last)
    if d = 0 then return ← c.fail ("invalid Zero increment value: '" ++ numbers[1]?.getD "" ++ "'") 1
    let size : Nat := if 0 < d then (b - a + d).toNat / d.toNat else (a - b - d).toNat / (-d).toNat
    let values := (List.range size).map fun (k : Nat) => a + (k : Int) * d
    let cutBack (n : Int) : Int := n / (Nat.pow 10 (most - places) : Nat)
    let shown := values.map fun n => decimalText places (cutBack n)
    let width := (shown.map List.length).max?.getD 0
    let wide (t : List Char) : List Char :=
      if !hasOption os 'w' then t
      else
        match t with
        | '-' :: r => '-' :: (List.replicate (width - t.length) '0' ++ r)
        | t => List.replicate (width - t.length) '0' ++ t
    let formed (n : Int) (t : List Char) : List Char :=
      match argumentOf? os 'f' with
      | none => wide t
      | some f =>
        let s := f.toList
        let front := s.takeWhile (· ≠ '%')
        let r := (s.drop front.length).drop 1
        let flags := r.takeWhile fun c => ['0', '-', '+', ' '].contains c
        let r := r.drop flags.length
        let ds := r.takeWhile Char.isDigit
        let r := r.drop ds.length
        let (precision, r) : Option Nat × List Char := match r with
          | '.' :: r => (some (Text.ofDigits 10 (r.takeWhile Char.isDigit)), r.dropWhile Char.isDigit)
          | r => (none, r)
        let body := Decimal.written (r.head?.getD 'g') (precision.getD 6) false
          (.finite false n.natAbs (Nat.pow 10 most))
        let body := if n < 0 then '-' :: body else body
        let fill := List.replicate (Text.ofDigits 10 ds - body.length)
          (if flags.contains '0' then '0' else ' ')
        front ++ fill ++ body ++ r.drop 1
    let texts := (values.zip shown).map fun (n, t) => formed n t
    let between := ((argumentOf? os 's').getD "\n").toList
    let text := between.intercalate texts
    c.print (String.ofList (if texts = [] then [] else text ++ ['\n'])) 0

def baseName (path : String) : String :=
  let trimmed := (path.toList.reverse.dropWhile (· = '/'))
  if path = "" then ""
  else if trimmed = [] then "/"
  else String.ofList (trimmed.takeWhile (· ≠ '/')).reverse

def directoryName (path : String) : String :=
  let trimmed := path.toList.reverse.dropWhile (· = '/')
  let upper := (trimmed.dropWhile (· ≠ '/')).dropWhile (· = '/')
  if upper ≠ [] then String.ofList upper.reverse
  else if path.toList.head? = some '/' then "/" else "."

def basename (c : Call) : Act Nat := do
  let names := [("multiple", 'a', false), ("suffix", 's', true), ("zero", 'z', false)]
  c.withOptions { letters := "as:z", names, mixed := false } 1 fun os ws => do
    let several : Bool := hasOption os 'a' || hasOption os 's'
    match several, ws with
    | _, [] => c.lacksOperand 1
    | false, _ :: _ :: w :: _ => c.fail ("extra operand '" ++ w ++ "'") 1
    | _, _ =>
      let ending := if several then (argumentOf? os 's').getD "" else ws[1]?.getD ""
      let cut (name : String) : String :=
        if name ≠ ending && ending.toList.isSuffixOf name.toList then
          String.ofList (name.toList.take (name.length - ending.length))
        else name
      let finish := if hasOption os 'z' then "\x00" else "\n"
      let shown := (if several then ws else ws.take 1).map fun w => cut (baseName w) ++ finish
      c.print ("".intercalate shown) 0

def dirname (c : Call) : Act Nat := do
  c.withOptions { letters := "z", names := [("zero", 'z', false)] } 1 fun os ws => do
    if ws = [] then return ← c.lacksOperand 1
    let finish := if hasOption os 'z' then "\x00" else "\n"
    c.print ("".intercalate (ws.map fun w => directoryName w ++ finish)) 0

namespace Date

def amount (s : List Char) : Nat × List Char :=
  (Text.ofDigits 10 (s.takeWhile Char.isDigit), s.dropWhile Char.isDigit)

def calendar? (s : List Char) : Option (Int × Nat × Nat × List Char) := do
  let (y, '-' :: r) := amount s | none
  let (m, '-' :: r) := amount r | none
  let (d, r) := amount r
  if m = 0 ∨ 12 < m ∨ d = 0 ∨ 31 < d then none else some (y, m, d, r)

def clock? (s : List Char) : Option (Nat × List Char) := do
  let (h, ':' :: r) := amount s | none
  let (m, r) := amount r
  let (sec, r) : Nat × List Char := match r with
    | ':' :: r => amount r
    | r => (0, r)
  if 23 < h ∨ 59 < m ∨ 60 < sec then none else some (h * 3600 + m * 60 + sec, r)

def unit? (w : String) : Option Int :=
  let w := if w.toList.getLast? = some 's' then String.ofList w.toList.dropLast else w
  match w with
  | "second" | "sec" => some 1
  | "minute" | "min" => some 60
  | "hour" => some 3600
  | "day" => some 86400
  | "week" => some 604800
  | "fortnight" => some 1209600
  | _ => none

/-- The moment that the words of a date mean, in seconds, from a moment on. -/
def words? : Nat → Int → List String → Option Int
  | 0, _, _ => none
  | _ + 1, n, [] => some n
  | k + 1, n, w :: ws =>
    let s := w.toList
    match calendar? s, clock? s, Expr.integer? w, ws with
    | some (y, m, d, r), _, _, _ =>
      let start := Moment.days y m d * 86400
      match r with
      | [] => words? k start ws
      | c :: r =>
        if c = 'T' ∨ c = ' ' then
          match clock? r with
          | some (t, rest) => if rest = [] ∨ rest = ['Z'] then words? k (start + t) ws else none
          | none => none
        else none
    | none, some (t, r), _, _ =>
      if r = [] ∨ r = ['Z'] then words? k (n.fdiv 86400 * 86400 + t) ws else none
    | none, none, some a, u :: rest =>
      match unit? u, rest with
      | some d, "ago" :: rest => words? k (n - a * d) rest
      | some d, _ => words? k (n + a * d) rest
      | none, _ => none
    | none, none, _, _ =>
      match w, ws with
      | "now", _ | "today", _ => words? k n ws
      | "tomorrow", _ => words? k (n + 86400) ws
      | "yesterday", _ => words? k (n - 86400) ws
      | "UTC", _ | "utc", _ | "Z", _ => words? k n ws
      | "next", u :: rest => (unit? u).bind fun d => words? k (n + d) rest
      | "last", u :: rest => (unit? u).bind fun d => words? k (n - d) rest
      | _, _ =>
        match s with
        | '+' :: ds =>
          match Expr.integer? (String.ofList ds), ws with
          | some a, u :: rest => (unit? u).bind fun d => words? k (n + a * d) rest
          | _, _ => none
        | _ => none

def read? (now : Int) (text : String) : Option Int :=
  match text.toList with
  | '@' :: ds => Expr.integer? (String.ofList ds)
  | _ =>
    let ws := (text.toList.splitOnP isGap).filter (· ≠ [])
    if ws = [] then some (now.fdiv 86400 * 86400)
    else words? (ws.length + 2) now (ws.map String.ofList)

end Date

/-- Shows a moment. -/
def date (c : Call) : Act Nat := do
  let names := [("date", 'd', true), ("utc", 'u', false), ("universal", 'u', false),
    ("reference", 'r', true), ("iso-8601", 'I', false), ("rfc-3339", '3', true)]
  c.withOptions { letters := "d:ur:I::Rf:s:", names } 1 fun os ws => do
    let s ← get
    let now : Int := (s.time / 1000000 : Nat)
    let moment? : Except String (Int × Nat) ← match argumentOf? os 'd', argumentOf? os 'r' with
      | some text, _ =>
        pure <| match Date.read? now text with
          | some n => .ok (n, 0)
          | none => .error ("invalid date '" ++ text ++ "'")
      | none, some file =>
        pure <| match s.disk.find true s.directory file with
          | .ok (_, _, node) => .ok ((node.time / 1000000 : Nat), 0)
          | .error fault => .error (file ++ ": " ++ Fault.words fault)
      | none, none => pure (.ok (now, s.time % 1000000))
    match moment? with
    | .error e => c.fail e 1
    | .ok (n, part) =>
      let given? := ws.head?.bind fun w =>
        match w.toList with
        | '+' :: f => some (String.ofList f)
        | _ => none
      match ws, given? with
      | w :: _, none => c.fail ("invalid date '" ++ w ++ "'") 1
      | _ :: w :: _, some _ => c.fail ("extra operand '" ++ w ++ "'") 1
      | _, _ =>
        let usual :=
          if hasOption os 'R' then "%a, %d %b %Y %H:%M:%S %z"
          else
            match argumentOf? os 'I' with
            | none => "%a %b %e %H:%M:%S UTC %Y"
            | some "" | some "date" => "%F"
            | some "hours" => "%FT%H+00:00"
            | some "minutes" => "%FT%H:%M+00:00"
            | some _ => "%FT%T+00:00"
        c.print ((Moment.ofSeconds n).format part (given?.getD usual) ++ "\n") 0

/-- Shows who runs the program. -/
def identity (c : Call) : Act Nat := do
  let names := [("user", 'u', false), ("group", 'g', false), ("groups", 'G', false),
    ("name", 'n', false), ("real", 'r', false)]
  c.withOptions { letters := "ugGnrza", names } 1 fun os ws => do
    let users := [("root", 0), ("daemon", 1), ("bin", 2), ("sys", 3), ("nobody", 65534)]
    let user := ws.head?.getD "root"
    let found? := users.find? fun (x, n) => x = user || toString n = user
    match found? with
    | none => c.fail ("'" ++ user ++ "': no such user") 1
    | some (x, n) =>
      let shown (name : String) : String := if hasOption os 'n' then name else toString n
      let group := if x = "nobody" then "nogroup" else x
      let only : Bool := ['u', 'g', 'G'].any (hasOption os)
      if hasOption os 'n' && !only then
        return ← c.fail "cannot print only names or real IDs in default format" 1
      let text :=
        if hasOption os 'u' then shown x
        else if only then shown group
        else
          let n := toString n
          "uid=" ++ n ++ "(" ++ x ++ ") gid=" ++ n ++ "(" ++ group ++ ") groups=" ++ n ++ "(" ++
            group ++ ")"
      c.print (text ++ "\n") 0

def systemName (c : Call) : Act Nat := do
  let names := [("all", 'a', false), ("kernel-name", 's', false), ("nodename", 'n', false),
    ("machine", 'm', false), ("operating-system", 'o', false), ("kernel-release", 'r', false)]
  c.withOptions { letters := "asnrvmpio", names } 1 fun os ws => do
    if let some w := ws.head? then return ← c.fail ("extra operand '" ++ w ++ "'") 1
    let facts := [('s', "Linux"), ('n', "localhost"), ('r', "6.8.0"), ('v', "#1 SMP"),
      ('m', "x86_64"), ('p', "unknown"), ('i', "unknown"), ('o', "GNU/Linux")]
    let wanted :=
      if hasOption os 'a' then facts.filter fun f => f.1 ≠ 'p' && f.1 ≠ 'i'
      else if os = [] then facts.take 1 else facts.filter fun f => hasOption os f.1
    c.print (" ".intercalate (wanted.map Prod.snd) ++ "\n") 0

def environment (c : Call) : Act Nat := do
  c.withOptions { letters := "0", names := [("null", '0', false)], mixed := false } 2 fun os ws => do
    let exports := (← get).exports.reverse
    let finish := if hasOption os '0' then "\x00" else "\n"
    if ws = [] then
      c.print ("".intercalate (exports.map fun (x, v) => x ++ "=" ++ v ++ finish)) 0
    else
      let found := ws.filterMap fun w => exports.lookup w
      c.print ("".intercalate (found.map (· ++ finish))) (if found.length = ws.length then 0 else 1)

def duration? (w : String) : Option Nat :=
  let s := w.toList
  let (ds, factor) : List Char × Nat := match s.getLast? with
    | some 's' => (s.dropLast, 1)
    | some 'm' => (s.dropLast, 60)
    | some 'h' => (s.dropLast, 3600)
    | some 'd' => (s.dropLast, 86400)
    | _ => (s, 1)
  match Decimal.read? ds with
  | some (.finite false a b, []) =>
    if ds.head?.any isGap then none else some ((a * factor * 1000000 + b - 1) / b)
  | some (.infinite false, []) => some 1000000000000000
  | _ => none

def sleep (c : Call) : Act Nat := do
  c.withOptions { letters := "", names := [] } 1 fun _ ws => do
    if ws = [] then return ← c.lacksOperand 1
    match ws.find? fun w => (duration? w).isNone with
    | some w => c.fail ("invalid time interval '" ++ w ++ "'") 1
    | none =>
      Act.pass ((ws.filterMap duration?).foldl (· + ·) 0)
      return 0

def yes (c : Call) : Act Nat := do
  let line := (if c.words = [] then "y" else " ".intercalate c.words) ++ "\n"
  let some x := (← get).stream? 1 | return 1
  match x with
  | .collector _ =>
    let _ ← Act.writeTo 1 ("".intercalate (List.replicate (140000 / line.length) line))
    let _ ← Act.send 13 (← get).current
    return 141
  | .full => c.fail "standard output: No space left on device" 1
  | _ =>
    Act.pass 1000000000000000
    return 0

end Utility

end InlineRemote.Shell
