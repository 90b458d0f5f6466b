import InlineRemote.Shell.Reader.Word
import InlineRemote.Shell.Arithmetic

/-! # Braces that stand for several words

In the extended dialect a word with alternatives in braces, or with a range, stands for one word for
each of them.  That happens before anything else in the word gets its value. -/
namespace InlineRemote.Shell

namespace Braces

/-- A letter that may have a meaning, or a piece without one. -/
inductive Atom where
  | letter (c : Char)
  | piece (p : Piece)

def ofPieces : List Piece → List Atom
  | [] => []
  | .text s false :: ps => s.map (.letter ·) ++ ofPieces ps
  | p :: ps => .piece p :: ofPieces ps

def toPieces : List Atom → List Piece
  | [] => []
  | .letter c :: as => Reading.putText [c] false (toPieces as)
  | .piece (.text s q) :: as =>
    if s = [] then .text s q :: toPieces as else Reading.putText s q (toPieces as)
  | .piece p :: as => p :: toPieces as

/-- The parts between commas up to the brace that closes, and what follows it.  Braces inside come
in pairs. -/
def parts : Nat → List Atom → List Atom → Option (List (List Atom) × List Atom)
  | _, _, [] => none
  | 0, part, .letter '}' :: s => some ([part.reverse], s)
  | d + 1, part, .letter '}' :: s => parts d (.letter '}' :: part) s
  | 0, part, .letter ',' :: s => (parts 0 [] s).map fun (ps, r) => (part.reverse :: ps, r)
  | d, part, .letter '{' :: s => parts (d + 1) (.letter '{' :: part) s
  | d, part, a :: s => parts d (a :: part) s

def Atom.letter? : Atom → Option Char
  | letter c => some c
  | piece _ => none

def text? (as : List Atom) : Option String :=
  (as.mapM Atom.letter?).map String.ofList

def numbers (a b step : Int) : List Int :=
  let step : Nat := if step = 0 then 1 else step.natAbs
  let count : Nat := (b - a).natAbs / step
  (List.range (count + 1)).map fun (k : Nat) =>
    if a ≤ b then a + (k * step : Nat) else a - (k * step : Nat)

def padded (width : Nat) (n : Int) : String :=
  let ds := (toString n.natAbs).toList
  let sign := if n < 0 then ['-'] else []
  String.ofList (sign ++ List.replicate (width - ds.length - sign.length) '0' ++ ds)

/-- The texts of a range. -/
def range? (s : String) : Option (List String) := do
  let ws := s.splitOn ".."
  let (a, b, step) ← match ws with
    | [a, b] => some (a, b, "1")
    | [a, b, step] => some (a, b, step)
    | _ => none
  let step ← number? true step
  match number? true a, number? true b with
  | some m, some n =>
    let filled (w : String) : Bool :=
      match w.toList with
      | '0' :: _ :: _ | '-' :: '0' :: _ => true
      | _ => false
    let width := if filled a || filled b then max a.length b.length else 0
    return (numbers m n step).map (padded width)
  | none, none =>
    match a.toList, b.toList with
    | [c], [d] =>
      if c.isAlpha && d.isAlpha then
        return (numbers c.toNat d.toNat step).map fun n =>
          String.singleton (Char.ofNat n.toNat)
      else none
    | _, _ => none
  | _, _ => none

def expand : Nat → List Atom → List (List Atom)
  | 0, as => [as]
  | _ + 1, [] => [[]]
  | n + 1, .letter '{' :: s =>
    match parts 0 [] s with
    | none => (expand n s).map (Atom.letter '{' :: ·)
    | some ([one], r) =>
      match (text? one).bind range? with
      | some ws =>
        ws.flatMap fun w => (expand n r).map ((w.toList.map Atom.letter) ++ ·)
      | none =>
        (expand n one).flatMap fun w =>
          (expand n r).map fun t => .letter '{' :: w ++ .letter '}' :: t
    | some (alternatives, r) =>
      (alternatives.flatMap (expand n)).flatMap fun w => (expand n r).map (w ++ ·)
  | n + 1, a :: s => (expand n s).map (a :: ·)

end Braces

def braceWords (ps : List Piece) : List (List Piece) :=
  let as := Braces.ofPieces ps
  (Braces.expand (as.length + 1) as).map Braces.toPieces

end InlineRemote.Shell
