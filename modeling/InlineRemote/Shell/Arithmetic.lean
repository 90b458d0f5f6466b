import InlineRemote.Shell.Syntax
import InlineRemote.Text.Digits

/-! # Arithmetic of the shell

Expressions over whole numbers of 64 bits.  An expression is cut into tokens and read into a tree.
The extended dialect knows more operators, numbers in any base up to 64, and the values of rows. -/
namespace InlineRemote.Shell

def wrap (n : Int) : Int :=
  n.bmod 18446744073709551616

def greatest : Int := 9223372036854775807

def isBit (c : Char) : Bool :=
  c = '0' || c = '1'

def digits (s : List Char) : Nat × List Char :=
  match s with
  | '0' :: x :: c :: r =>
    if (x = 'x' ∨ x = 'X') ∧ Text.isHexDigit c then
      (Text.ofDigits 16 ((c :: r).takeWhile Text.isHexDigit), (c :: r).dropWhile Text.isHexDigit)
    else if (x = 'b' ∨ x = 'B') ∧ isBit c then
      (Text.ofDigits 2 ((c :: r).takeWhile isBit), (c :: r).dropWhile isBit)
    else (Text.ofDigits 8 (s.takeWhile Text.isOctalDigit), s.dropWhile Text.isOctalDigit)
  | '0' :: _ => (Text.ofDigits 8 (s.takeWhile Text.isOctalDigit), s.dropWhile Text.isOctalDigit)
  | _ => (Text.ofDigits 10 (s.takeWhile Char.isDigit), s.dropWhile Char.isDigit)

def isGap (c : Char) : Bool :=
  c = ' ' || ('\t' ≤ c && c ≤ '\r')

/-- The number that a text stands for: blanks, a sign, digits and blanks.  In base ten there has to
be a digit; otherwise the digits say their base and a blank text is nought. -/
def number? (decimal : Bool) (text : String) : Option Int :=
  let s := text.toList.dropWhile isGap
  let (minus, ds) :=
    match s with
    | '-' :: ds => (true, ds)
    | '+' :: ds => (false, ds)
    | ds => (false, ds)
  let (n, r) :=
    if decimal then (Text.ofDigits 10 (ds.takeWhile Char.isDigit), ds.dropWhile Char.isDigit)
    else digits ds
  let value : Int := if minus then -(n : Int) else n
  if (ds.head?.map Char.isDigit).getD false then
    if r.all isGap ∧ wrap value = value then some value else none
  else if !decimal ∧ s = [] then some 0
  else none

def count? (text : String) : Option Nat :=
  let n := Text.ofDigits 10 text.toList
  if text ≠ "" ∧ text.toList.all Char.isDigit ∧ n ≤ 2147483647 then some n else none

def highDigit? (base : Nat) (c : Char) : Option Nat :=
  let value? : Option Nat :=
    if c.isDigit then some (c.toNat - 48)
    else if c.isLower then some (c.toNat - 87)
    else if c.isUpper then some (c.toNat - (if base ≤ 36 then 55 else 29))
    else if c = '@' then some 62
    else if c = '_' then some 63
    else none
  value?.filter (· < base)

def based? (base : Nat) (ds : List Char) : Option Int :=
  if base < 2 ∨ 64 < base then none
  else (ds.mapM (highDigit? base)).map fun ds =>
    let n : Nat := ds.foldl (fun n d => base * n + d) 0
    wrap n

def numeral? (s : List Char) : Option Int :=
  match s with
  | '0' :: x :: ds =>
    if x = 'x' ∨ x = 'X' then based? 16 ds
    else if (x :: ds).contains '#' then none
    else based? 8 (x :: ds)
  | s =>
    match s.dropWhile (· ≠ '#') with
    | [] => based? 10 s
    | _ :: ds => if ds = [] then none else based? (Text.ofDigits 10 (s.takeWhile (· ≠ '#'))) ds

/-- An operation on two numbers. -/
inductive Operation where
  | or | xor | and | equal | unequal | less | greater | atMost | atLeast | left | right | plus
  | minus | times | quotient | rest | power
  deriving DecidableEq, Repr

def truth (b : Bool) : Int :=
  if b then 1 else 0

def raisedTo (a : Int) (n : Nat) : Int :=
  if n = 0 then 1
  else
    let half := raisedTo (wrap (a * a)) (n / 2)
    if n % 2 = 1 then wrap (a * half) else half
  termination_by n

/-- The outcome of an operation; nothing can be divided by nought. -/
def Operation.eval (op : Operation) (a b : Int) : Option Int :=
  let bits (f : BitVec 64 → BitVec 64 → BitVec 64) : Int :=
    (f (BitVec.ofInt 64 a) (BitVec.ofInt 64 b)).toInt
  let places := (b % 64).toNat
  match op with
  | .or => some (bits (· ||| ·))
  | .xor => some (bits (· ^^^ ·))
  | .and => some (bits (· &&& ·))
  | .equal => some (truth (a = b))
  | .unequal => some (truth (a ≠ b))
  | .less => some (truth (a < b))
  | .greater => some (truth (b < a))
  | .atMost => some (truth (a ≤ b))
  | .atLeast => some (truth (b ≤ a))
  | .left => some (wrap (a * (Nat.pow 2 places : Nat)))
  | .right => some (a.fdiv (Nat.pow 2 places : Nat))
  | .plus => some (wrap (a + b))
  | .minus => some (wrap (a - b))
  | .times => some (wrap (a * b))
  | .quotient => if b = 0 then none else some (wrap (a.tdiv b))
  | .rest => if b = 0 then none else some (a.tmod b)
  | .power => if b < 0 then none else some (raisedTo a b.toNat)

/-- An expression. -/
inductive Expression where
  | number (n : Int)
  /-- A variable, or one of its values. -/
  | parameter (name : String) (subscript : Option String)
  | assign (name : String) (subscript : Option String) (op : Option Operation) (e : Expression)
  /-- A variable whose value changes by a number; the value before or after that counts. -/
  | step (name : String) (subscript : Option String) (amount : Int) (before : Bool)
  | negate (e : Expression)
  | invert (e : Expression)
  | not (e : Expression)
  | binary (op : Operation) (a b : Expression)
  | both (a b : Expression)
  | either (a b : Expression)
  | choose (test yes no : Expression)
  | sequence (a b : Expression)
  deriving Repr

namespace Expression

/-- A token of an expression. -/
inductive Token where
  | number (n : Int)
  | name (name : String) (subscript : Option String)
  | sign (s : String)
  deriving DecidableEq, Repr

def signs : List String :=
  ["<<=", ">>=", "<<", ">>", "<=", ">=", "==", "!=", "&&", "||", "*=", "/=", "%=", "+=", "-=", "&=",
    "^=", "|=", "<", ">", "=", "!", "&", "|", "*", "/", "%", "+", "-", "^", "~", "?", ":", "(", ")"]

def subscript? : Nat → List Char → Option (List Char × List Char)
  | _, [] => none
  | 0, ']' :: s => some ([], s)
  | d + 1, ']' :: s => (subscript? d s).map fun (t, r) => (']' :: t, r)
  | d, '[' :: s => (subscript? (d + 1) s).map fun (t, r) => ('[' :: t, r)
  | d, c :: s => (subscript? d s).map fun (t, r) => (c :: t, r)

/-- The sign at the start of a text in the extended dialect.  Two equal signs count as one step
after a name or in front of one. -/
def sign? (afterName : Bool) (s : List Char) : Option String :=
  match s with
  | c :: d :: r =>
    if c = d && (c = '+' || c = '-') then
      let named : Bool := ((r.dropWhile isGap).head?.map startsName).getD false
      some (String.ofList (if afterName || named then [c, d] else [c]))
    else if c = '*' && d = '*' then some "**"
    else if c = ',' then some ","
    else signs.find? fun w => w.toList.isPrefixOf s
  | [','] => some ","
  | s => signs.find? fun w => w.toList.isPrefixOf s

/-- The tokens of a text; the flag says that a name has just been read. -/
def tokens (extended : Bool) : Nat → Bool → List Char → Option (List Token)
  | 0, _, _ => none
  | _ + 1, _, [] => some []
  | n + 1, afterName, c :: s =>
    if c = ' ' ∨ c = '\t' ∨ c = '\n' then tokens extended n afterName s
    else if c.isDigit then
      if extended then do
        let isPart (c : Char) : Bool := isNameChar c || c = '#' || c = '@'
        let value ← numeral? ((c :: s).takeWhile isPart)
        return .number value :: (← tokens extended n false ((c :: s).dropWhile isPart))
      else
        let (value, r) := digits (c :: s)
        (tokens extended n false r).map (.number (min (value : Int) greatest) :: ·)
    else if startsName c then do
      let name := String.ofList (c :: s.takeWhile isNameChar)
      match s.dropWhile isNameChar, extended with
      | '[' :: r, true =>
        let (t, r) ← subscript? 0 r
        return .name name (some (String.ofList t)) :: (← tokens extended n true r)
      | r, _ => return .name name none :: (← tokens extended n true r)
    else
      let found :=
        if extended then sign? afterName (c :: s)
        else signs.find? fun w => w.toList.isPrefixOf (c :: s)
      match found with
      | some w => (tokens extended n false ((c :: s).drop w.length)).map (.sign w :: ·)
      | none => none

/-- How tightly a sign binds, and what it makes of its two sides. -/
def joining? : String → Option (Nat × (Expression → Expression → Expression))
  | "||" => some (0, either)
  | "&&" => some (1, both)
  | "|" => some (2, binary .or)
  | "^" => some (3, binary .xor)
  | "&" => some (4, binary .and)
  | "==" => some (5, binary .equal)
  | "!=" => some (5, binary .unequal)
  | "<" => some (6, binary .less)
  | ">" => some (6, binary .greater)
  | "<=" => some (6, binary .atMost)
  | ">=" => some (6, binary .atLeast)
  | "<<" => some (7, binary .left)
  | ">>" => some (7, binary .right)
  | "+" => some (8, binary .plus)
  | "-" => some (8, binary .minus)
  | "*" => some (9, binary .times)
  | "/" => some (9, binary .quotient)
  | "%" => some (9, binary .rest)
  | _ => none

def assigning? : String → Option (Option Operation)
  | "=" => some none
  | "*=" => some (some .times)
  | "/=" => some (some .quotient)
  | "%=" => some (some .rest)
  | "+=" => some (some .plus)
  | "-=" => some (some .minus)
  | "<<=" => some (some .left)
  | ">>=" => some (some .right)
  | "&=" => some (some .and)
  | "^=" => some (some .xor)
  | "|=" => some (some .or)
  | _ => none

mutual

def row : Nat → List Token → Option (Expression × List Token)
  | 0, _ => none
  | n + 1, ts => do
    let (a, r) ← assignment n ts
    match r with
    | .sign "," :: r =>
      let (b, r) ← row n r
      return (.sequence a b, r)
    | r => return (a, r)

def assignment : Nat → List Token → Option (Expression × List Token)
  | 0, _ => none
  | n + 1, ts =>
    match ts with
    | .name x i :: .sign w :: r =>
      match assigning? w with
      | some op => (assignment n r).map fun (e, r) => (.assign x i op e, r)
      | none => choice n ts
    | _ => choice n ts

def choice : Nat → List Token → Option (Expression × List Token)
  | 0, _ => none
  | n + 1, ts => do
    let (test, r) ← sides n 0 ts
    match r with
    | .sign "?" :: r =>
      let (yes, r) ← row n r
      let .sign ":" :: r := r | none
      let (no, r) ← choice n r
      return (.choose test yes no, r)
    | r => return (test, r)

def sides : Nat → Nat → List Token → Option (Expression × List Token)
  | 0, _, _ => none
  | n + 1, tightness, ts => do
    let (e, r) ← raised n ts
    more n tightness e r

def more : Nat → Nat → Expression → List Token → Option (Expression × List Token)
  | 0, _, _, _ => none
  | n + 1, tightness, a, ts =>
    match ts with
    | .sign w :: r =>
      match joining? w with
      | some (t, join) =>
        if t < tightness then some (a, ts)
        else do
          let (b, r) ← sides n (t + 1) r
          more n tightness (join a b) r
      | none => some (a, ts)
    | _ => some (a, ts)

def raised : Nat → List Token → Option (Expression × List Token)
  | 0, _ => none
  | n + 1, ts => do
    let (a, r) ← operand n ts
    match r with
    | .sign "**" :: r =>
      let (b, r) ← raised n r
      return (.binary .power a b, r)
    | r => return (a, r)

/-- A number, a variable, an expression in parentheses, or a sign before one of them. -/
def operand : Nat → List Token → Option (Expression × List Token)
  | 0, _ => none
  | n + 1, ts =>
    match ts with
    | .number k :: r => some (.number k, r)
    | .name x i :: .sign "++" :: r => some (.step x i 1 true, r)
    | .name x i :: .sign "--" :: r => some (.step x i (-1) true, r)
    | .sign "++" :: .name x i :: r => some (.step x i 1 false, r)
    | .sign "--" :: .name x i :: r => some (.step x i (-1) false, r)
    | .name x i :: r => some (.parameter x i, r)
    | .sign "(" :: r => do
      let (e, r) ← row n r
      let .sign ")" :: r := r | none
      return (e, r)
    | .sign "+" :: r => operand n r
    | .sign "-" :: r => (operand n r).map fun (e, r) => (.negate e, r)
    | .sign "~" :: r => (operand n r).map fun (e, r) => (.invert e, r)
    | .sign "!" :: r => (operand n r).map fun (e, r) => (.not e, r)
    | _ => none

end

def ofText? (extended : Bool) (s : List Char) : Option Expression := do
  let ts ← tokens extended (s.length + 1) false s
  if extended ∧ ts = [] then return .number 0
  let (e, []) ← row (16 * ts.length + 16) ts | none
  return e

end Expression

end InlineRemote.Shell
