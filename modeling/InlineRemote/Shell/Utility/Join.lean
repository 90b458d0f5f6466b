import InlineRemote.Shell.Utility.Call

/-! # Lines that belong together

Two files are ordered by a field.  The lines that agree in it are joined to one line, the field first;
lines without a partner may be shown too. -/
namespace InlineRemote.Shell

namespace Utility

/-- A field of a joined line: the common one, or one of the first or the second file. -/
inductive JoinField where
  | common
  | of (second : Bool) (field : Nat)
  deriving DecidableEq

/-- How lines are joined. -/
structure Joining where
  separator : Option Char
  /-- The numbers of the fields that are compared. -/
  first : Nat
  second : Nat
  /-- The fields that are shown, if they are not all. -/
  shown : List JoinField
  /-- What stands for a field that is not there. -/
  filler : List Char
  foldCase : Bool
  /-- Whether lines without a partner are shown, by file. -/
  lonely : List Bool
  /-- Whether lines with a partner are shown. -/
  joined : Bool

namespace Joining

def fields (k : Joining) (l : List Char) : List (List Char) :=
  match k.separator with
  | some d => l.splitOn d
  | none => wordsOf l

def key (k : Joining) (second : Bool) (fs : List (List Char)) : List Char :=
  fs[if second then k.second else k.first]?.getD []

/-- The line that is shown for the fields of two lines, or of one. -/
def line (k : Joining) (a b : Option (List (List Char))) : List Char :=
  let common : List Char := match a, b with
    | some a, _ => k.key false a
    | none, some b => k.key true b
    | none, none => []
  let others (second : Bool) (fs : Option (List (List Char))) : List (List Char) :=
    (fs.map fun fs => fs.eraseIdx (if second then k.second else k.first)).getD []
  let fill (f : List Char) : List Char := if f = [] then k.filler else f
  let texts :=
    if k.shown = [] then common :: others false a ++ others true b
    else
      k.shown.map fun f =>
        match f with
        | .common => fill common
        | .of second n => fill (((if second then b else a).bind (·[n]?)).getD [])
  [k.separator.getD ' '].intercalate texts

/-- The lines that are shown for the fields of the lines of two files, of which there are so many. -/
def pairs (k : Joining) :
    Nat → List (List (List Char)) → List (List (List Char)) → List (List Char)
  | 0, _, _ => []
  | n + 1, as, bs =>
    let alone (second : Bool) (l : List Char) : List (List Char) :=
      if k.lonely.contains second then [l] else []
    let change (t : List Char) : List Char := if k.foldCase then t.map Char.toLower else t
    match as, bs with
    | [], [] => []
    | a :: as, [] => alone false (k.line (some a) none) ++ pairs k n as []
    | [], b :: bs => alone true (k.line none (some b)) ++ pairs k n [] bs
    | a :: as, b :: bs =>
      let (x, y) := (change (k.key false a), change (k.key true b))
      if x < y then alone false (k.line (some a) none) ++ pairs k n as (b :: bs)
      else if y < x then alone true (k.line none (some b)) ++ pairs k n (a :: as) bs
      else
        let (like, as) := (a :: as).span fun c => change (k.key false c) = x
        let (likewise, bs) := (b :: bs).span fun c => change (k.key true c) = x
        let both := like.flatMap fun c => likewise.map fun d => k.line (some c) (some d)
        (if k.joined then both else []) ++ pairs k n as bs

end Joining

def joinFields? (t : String) : Option (List JoinField) :=
  (wordsOf (t.toList.map fun c => if c = ',' then ' ' else c)).mapM fun w =>
    match w with
    | ['0'] => some .common
    | c :: '.' :: ds =>
      let n := Text.ofDigits 10 ds
      if (c = '1' || c = '2') && ds ≠ [] && ds.all Char.isDigit && n ≠ 0 then
        some (.of (c = '2') (n - 1))
      else none
    | _ => none

/-- Joins lines of two files that have a field in common. -/
def join (c : Call) : Act Nat :=
  let names := [("ignore-case", 'i', false), ("check-order", 'c', false), ("header", 'h', false),
    ("nocheck-order", 'n', false)]
  c.withOptions { letters := "t:1:2:j:a:v:e:o:i", names } 1 fun os files => do
    let files? ← match files with
      | [_, _] => pure (some files)
      | _ => pure none
    if files?.isNone then
      match files with
      | [] => return ← c.lacksOperand 1
      | [f] => return ← c.fail ("missing operand after '" ++ f ++ "'") 1
      | _ => return ← c.fail ("extra operand '" ++ files[2]?.getD "" ++ "'") 1
    let (texts, fine) ← c.inputs files
    if !fine then return 1
    let number (o : Char) : Nat :=
      (((argumentOf? os o).or (argumentOf? os 'j')).bind count?).getD 1 - 1
    let chosen (o : Char) : List Bool :=
      (os.filter (·.letter = o)).map fun g => decide (g.argument = "2")
    let shown? := ((argumentOf? os 'o').map fun t => if t = "auto" then some [] else joinFields? t)
    match shown? with
    | some none => c.fail "invalid field specifier" 1
    | shown? =>
      let k : Joining :=
        { separator := (argumentOf? os 't').bind fun t => t.toList.head?
          first := number '1', second := number '2'
          shown := (shown?.getD (some [])).getD []
          filler := ((argumentOf? os 'e').getD "").toList
          foldCase := hasOption os 'i'
          lonely := chosen 'a' ++ chosen 'v'
          joined := !hasOption os 'v' }
      let read (n : Nat) : List (List (List Char)) :=
        (lines ((texts[n]?.map Prod.snd).getD [])).map k.fields
      let (as, bs) := (read 0, read 1)
      c.print (unlines (k.pairs (as.length + bs.length + 1) as bs)) 0

end Utility

end InlineRemote.Shell
