import InlineRemote.Text.Digits

/-! # Rights on files

The rights on a file are bits: for reading, writing and running, for its owner, its group and all
others.  They are written in octal digits, or as clauses that say for whom which rights are added,
taken away or set. -/
namespace InlineRemote.Shell

namespace Rights

/-- The bits of the owner, the group or the others, with the bit that goes along with them. -/
def reach (c : Char) : Nat :=
  if c = 'u' then 2496 else if c = 'g' then 1080 else if c = 'o' then 519 else 4095

/-- What a clause does with rights. -/
inductive Change where
  | add
  | take
  | put
  deriving DecidableEq, Repr

/-- A part of a clause: whose rights change how, and to which letters. -/
structure Clause where
  who : List Char
  change : Change
  letters : List Char
  deriving DecidableEq, Repr

def parts (who : List Char) : Nat → List Char → Option (List Clause)
  | 0, _ | _ + 1, [] => some []
  | n + 1, c :: s => do
    let change ←
      if c = '+' then some Change.add else if c = '-' then some Change.take
      else if c = '=' then some Change.put else none
    let letters := s.takeWhile fun c => !(['+', '-', '='].contains c)
    let copies : Bool := letters.length = 1 && letters.all ['u', 'g', 'o'].contains
    if copies || letters.all ['r', 'w', 'x', 'X', 's', 't'].contains then
      let more ← parts who n (s.drop letters.length)
      return ⟨who, change, letters⟩ :: more
    else none

def clauses? (s : List Char) : Option (List Clause) := do
  let texts := s.splitOn ','
  let each ← texts.mapM fun t => do
    let who := t.takeWhile ['u', 'g', 'o', 'a'].contains
    match t.drop who.length with
    | [] => none
    | r => parts who r.length r
  return each.flatten

def bits (directory : Bool) (old : Nat) (letters : List Char) : Nat :=
  letters.foldl (fun n c =>
    n ||| (match c with
      | 'r' => 292
      | 'w' => 146
      | 'x' => 73
      | 'X' => if directory || old &&& 73 ≠ 0 then 73 else 0
      | 's' => 3072
      | 't' => 512
      | 'u' => (old >>> 6 &&& 7) * 73
      | 'g' => (old >>> 3 &&& 7) * 73
      | 'o' => (old &&& 7) * 73
      | _ => 0)) 0

def Clause.apply (directory : Bool) (mask : Nat) (old : Nat) (k : Clause) : Nat :=
  let reached := if k.who = [] then 4095 else k.who.foldl (fun n c => n ||| reach c) 0
  let wanted := bits directory old k.letters &&& reached
  let wanted := if k.who = [] then wanted - (wanted &&& mask) else wanted
  match k.change with
  | .add => old ||| wanted
  | .take => old - (old &&& wanted)
  | .put =>
    let kept := if directory then reached &&& 511 else reached
    (old - (old &&& kept)) ||| wanted

def read? (directory : Bool) (mask old : Nat) (text : String) : Option Nat :=
  let s := text.toList
  if s ≠ [] ∧ s.all Char.isDigit then
    if s.all Text.isOctalDigit ∧ Text.ofDigits 8 s ≤ 4095 then some (Text.ofDigits 8 s) else none
  else (clauses? s).map fun ks => ks.foldl (Clause.apply directory mask) old

def letters (mode : Nat) : List Char :=
  let has (n : Nat) : Bool := mode &&& n ≠ 0
  let last (x special : Nat) (both only : Char) : Char :=
    if has special then if has x then both else only else if has x then 'x' else '-'
  let flag (n : Nat) (c : Char) : Char := if has n then c else '-'
  [flag 256 'r', flag 128 'w', last 64 2048 's' 'S', flag 32 'r', flag 16 'w', last 8 1024 's' 'S',
    flag 4 'r', flag 2 'w', last 1 512 't' 'T']

end Rights

end InlineRemote.Shell
