import InlineRemote.Shell.Arithmetic
import InlineRemote.Shell.Course

/-! # Calculations and assignments

Assigning to a variable may calculate, and calculating may assign.  In the extended dialect the text
of a variable is an expression of its own; in the plain one it has to be a number. -/
namespace InlineRemote.Shell

/-- Where a value stands in a variable that holds several. -/
inductive Key where
  | number (n : Nat)
  | name (s : String)
  deriving DecidableEq, Repr

def Value.at? : Value → Key → Option String
  | .text s, .number 0 => some s
  | .text _, _ => none
  | .row items, .number n => items.lookup n
  | .row _, .name _ => none
  | .table items, .name k => items.lookup k
  | .table items, .number n => items.lookup (toString n)

def insertAt (n : Nat) (text : String) : List (Nat × String) → List (Nat × String)
  | [] => [(n, text)]
  | (m, old) :: items =>
    if n < m then (n, text) :: (m, old) :: items
    else if n = m then (n, text) :: items
    else (m, old) :: insertAt n text items

def insertNamed (key text : String) : List (String × String) → List (String × String)
  | [] => [(key, text)]
  | (k, old) :: items =>
    if k = key then (k, text) :: items else (k, old) :: insertNamed key text items

def Value.put (old : Option Value) (key : Option Key) (text : String) : Value :=
  match old, key with
  | some (.row items), none => .row (insertAt 0 text items)
  | some (.row items), some (.number n) => .row (insertAt n text items)
  | some (.table items), none => .table (insertNamed "0" text items)
  | some (.table items), some (.name k) => .table (insertNamed k text items)
  | some (.table items), some (.number n) => .table (insertNamed (toString n) text items)
  | some (.text s), some (.number n) => .row (insertAt n text [(0, s)])
  | none, some (.number n) => .row [(n, text)]
  | _, _ => .text text

def Variable.changed (v : Variable) (text : String) : String :=
  match v.change with
  | some how => String.ofList (text.toList.map how.apply)
  | none => text

namespace Act

def miscalculated {α : Type} (text reason : String) : Act α := do
  if (← get).extended then
    report (text ++ ": " ++ reason)
    leave 1
    throw .discard
  else fail ("arithmetic expression: " ++ reason ++ ": \"" ++ text ++ "\"") 2

def key (calculate : String → Act Int) (name subscript : String) : Act Key := do
  match ((← get).binding? name).bind Variable.value with
  | some (.table _) => return .name subscript
  | value =>
    let n ← calculate subscript
    let size : Nat :=
      match value with
      | some (.row items) => (items.getLast?.map fun e => e.1 + 1).getD 0
      | some _ => 1
      | none => 0
    let n := if n < 0 then n + size else n
    if n < 0 then
      report (name ++ "[" ++ subscript ++ "]: bad array subscript")
      leave 1
      throw .discard
    return .number n.toNat

def heed (name value : String) : Act Unit := do
  let s ← get
  match name with
  | "OPTIND" =>
    set { s with optionOffset := 0, optionIndex := max 1 ((number? true value).getD 1).toNat }
  | "PATH" => set { s with known := [] }
  | "SECONDS" =>
    if s.extended then
      set { s with born := s.time - 1000000 * ((number? true value).getD 0).toNat }
  | "RANDOM" =>
    if s.extended then set { s with seed := ((number? true value).getD 0).toNat }
  | _ => return

def mayChange (name : String) : Act Bool := do
  let s ← get
  if !(s.binding? name).any Variable.fixed then return true
  if s.extended then
    report (name ++ ": readonly variable")
    return false
  else fail (name ++ ": is read only") 2

/-- Gives a variable, or one of its values, a text, maybe after the one that it has.  The answer is
whether it could be changed. -/
def store (calculate : String → Act Int) (name : String) (subscript : Option String) (added : Bool)
    (text : String) : Act Bool := do
  if !(← mayChange name) then return false
  let key ← subscript.mapM (key calculate name)
  let s ← get
  let v := (s.binding? name).getD {}
  let old := (v.value.bind fun x => match key with
    | some k => x.at? k
    | none => x.plain?).getD ""
  let text ←
    if v.integer then
      let n ← calculate text
      let m ← if added then calculate old else pure 0
      pure (toString (wrap (m + n)))
    else pure (v.changed (if added then old ++ text else text))
  modify fun s =>
    s.put (s.referent 8 name) (some { v with
      value := some (Value.put v.value key text), exported := v.exported || s.has 'a' })
  heed name text
  return true

end Act

namespace Expression

/-- The value of a variable in an expression. -/
def parameter? (calculate : String → Act Int) (name : String) (subscript : Option String) :
    Act Int := do
  let s ← get
  let text? ← match subscript with
    | none => pure (s.value? name)
    | some t => do
      let k ← Act.key calculate name t
      pure (((s.binding? name).bind Variable.value).bind (·.at? k))
  match text? with
  | none =>
    if s.extended && name = "RANDOM" then
      let seed := (s.seed * 1103515245 + 12345) % 4294967296
      set { s with seed }
      return ((seed / 65536) % 32768 : Nat)
    else if s.extended && name = "SECONDS" then return ((s.time - s.born) / 1000000 : Nat)
    else if s.has 'u' then
      Act.report (name ++ if s.extended then ": unbound variable" else ": parameter not set")
      throw (.fault (if s.extended then 127 else 2))
    else return 0
  | some text =>
    if s.extended then calculate text
    else
      match number? false text with
      | some n => return n
      | none => Act.fail ("Illegal number: " ++ text) 2

/-- The value of an expression; the texts of variables are calculated by a function. -/
def evaluate (calculate : String → Act Int) (whole : String) : Expression → Act Int
  | .number n => return n
  | .parameter x i => parameter? calculate x i
  | .assign x i op e => do
    let a ← match op with
      | some _ => parameter? calculate x i
      | none => pure 0
    let b ← evaluate calculate whole e
    let n ← match op with
      | some op => outcome op a b
      | none => pure b
    assign x i n
    return n
  | .step x i amount before => do
    let a ← parameter? calculate x i
    assign x i (wrap (a + amount))
    return if before then a else wrap (a + amount)
  | .negate e => return wrap (-(← evaluate calculate whole e))
  | .invert e => return -(← evaluate calculate whole e) - 1
  | .not e => return truth ((← evaluate calculate whole e) = 0)
  | .binary op a b => do
    let a ← evaluate calculate whole a
    let b ← evaluate calculate whole b
    outcome op a b
  | .both a b => do
    if (← evaluate calculate whole a) = 0 then return 0
    return truth ((← evaluate calculate whole b) ≠ 0)
  | .either a b => do
    if (← evaluate calculate whole a) ≠ 0 then return 1
    return truth ((← evaluate calculate whole b) ≠ 0)
  | .choose test yes no => do
    if (← evaluate calculate whole test) ≠ 0 then evaluate calculate whole yes
    else evaluate calculate whole no
  | .sequence a b => do
    let _ ← evaluate calculate whole a
    evaluate calculate whole b
where
  /-- The outcome of an operation, or a complaint. -/
  outcome (op : Operation) (a b : Int) : Act Int := do
    match op.eval a b with
    | some n => return n
    | none =>
      let extended := (← get).extended
      Act.miscalculated whole <|
        if op = .power then "exponent less than 0"
        else if extended then "division by 0" else "division by zero"
  /-- Gives a variable a number. -/
  assign (x : String) (i : Option String) (n : Int) : Act Unit := do
    if !(← Act.store calculate x i false (toString n)) then
      Act.leave 1
      throw .discard

end Expression

namespace Act

/-- The value of the expression that a text stands for, whose variables nest at most so deep. -/
def calculateWithin : Nat → String → Act Int
  | 0, text => miscalculated text "expression recursion level exceeded"
  | n + 1, text => do
    match Expression.ofText? (← get).extended text.toList with
    | some e => e.evaluate (calculateWithin n) text
    | none =>
      miscalculated text
        (if (← get).extended then "syntax error in expression" else "expecting primary")

def calculate (text : String) : Act Int :=
  calculateWithin 200 text

def assign (name text : String) : Act Unit := do
  if !(← store calculate name none false text) then
    leave 1
    throw .discard

end Act

end InlineRemote.Shell
