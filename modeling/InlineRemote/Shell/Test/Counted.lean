import InlineRemote.Shell.Test

/-! # Tests that are read by the number of their words

With up to four words their number decides what a test means; with more the words are read from the
left, with `!`, `-a`, `-o` and parentheses.  A program that tests knows fewer tests than a shell, and
the number of words counts in its parentheses too. -/
namespace InlineRemote.Shell

namespace Test

/-- The words that a manner of testing knows. -/
structure Vocabulary where
  /-- Whether it is that of a program. -/
  program : Bool

namespace Vocabulary

def isUnary (v : Vocabulary) (w : String) : Bool :=
  if v.program then (unaries false ++ ["-N"]).contains w else (unaries true).contains w

def isBinary (v : Vocabulary) (w : String) : Bool :=
  Test.isBinary true w && !(v.program && (w = "<" || w = ">"))

end Vocabulary

def leading (s : Session) : List String → Except String (Bool × List String)
  | "-t" :: w :: rest => .ok (false, if (number? true w).isSome then rest else w :: rest)
  | ["-t"] => .ok (false, [])
  | op :: w :: rest => (unary s op w).map (·, rest)
  | _ => .error "argument expected"

def ofTwo (v : Vocabulary) (s : Session) (a b : String) : Except String Bool :=
  if a = "!" then .ok (b = "")
  else if v.isUnary a then (leading s [a, b]).map Prod.fst
  else .error (a ++ ": unary operator expected")

/-- The number of words before the parenthesis that closes a short test; all words, if the test is not
short. -/
def countInside (ws : List String) : Nat :=
  match ((ws.drop 1).take 4).findIdx? (· = ")") with
  | some n => n + 1
  | none => ws.length

mutual

/-- The value of tests joined by `-o` at the front of some words, and the words after them. -/
def anyOf (v : Vocabulary) (s : Session) :
    Nat → List String → Except String (Bool × List String)
  | 0, _ => .error "too complex"
  | n + 1, ws => do
    let (a, rest) ← allOf v s n ws
    match rest with
    | "-o" :: rest =>
      let (b, rest) ← anyOf v s n rest
      return (a || b, rest)
    | rest => return (a, rest)

/-- The value of tests joined by `-a` at the front of some words, and the words after them. -/
def allOf (v : Vocabulary) (s : Session) :
    Nat → List String → Except String (Bool × List String)
  | 0, _ => .error "too complex"
  | n + 1, ws => do
    let (a, rest) ← term v s n ws
    match rest with
    | "-a" :: rest =>
      let (b, rest) ← allOf v s n rest
      return (a && b, rest)
    | rest => return (a, rest)

/-- The value of a test at the front of some words, and the words after it. -/
def term (v : Vocabulary) (s : Session) :
    Nat → List String → Except String (Bool × List String)
  | 0, _ => .error "too complex"
  | n + 1, ws =>
    match ws with
    | [] | ["!"] | ["("] => .error "argument expected"
    | "!" :: rest => (term v s n rest).map fun (b, rest) => (!b, rest)
    | "(" :: rest => do
      let (b, rest) ←
        if v.program then counted v s n (countInside rest) rest else anyOf v s n rest
      match rest with
      | ")" :: rest => return (b, rest)
      | _ => .error "')' expected"
    | w :: op :: x :: rest =>
      if v.isBinary op then (binary s op w x).map (·, rest)
      else if v.isUnary w then leading s ws
      else .ok (w ≠ "", op :: x :: rest)
    | [w, x] => if v.isUnary w then leading s ws else .ok (w ≠ "", [x])
    | [w] => .ok (w ≠ "", [])

def ofThree (v : Vocabulary) (s : Session) :
    Nat → String → String → String → Except String Bool
  | 0, _, _, _ => .error "too complex"
  | n + 1, a, op, b =>
    if v.isBinary op then binary s op a b
    else if !v.program && op = "-a" then .ok (a ≠ "" && b ≠ "")
    else if !v.program && op = "-o" then .ok (a ≠ "" || b ≠ "")
    else if a = "!" then (ofTwo v s op b).map (!·)
    else if a = "(" && b = ")" then .ok (op ≠ "")
    else if op = "-a" || op = "-o" then (anyOf v s n [a, op, b]).map Prod.fst
    else .error (op ++ ": binary operator expected")

/-- The value of a test of so many words at the front of some words, and the words after it. -/
def counted (v : Vocabulary) (s : Session) :
    Nat → Nat → List String → Except String (Bool × List String)
  | 0, _, _ => .error "too complex"
  | n + 1, count, ws =>
    match count, ws with
    | 0, ws => .ok (false, ws)
    | 1, a :: rest => .ok (a ≠ "", rest)
    | 2, a :: b :: rest => (ofTwo v s a b).map (·, rest)
    | 3, a :: b :: c :: rest => (ofThree v s n a b c).map (·, rest)
    | 4, "!" :: a :: b :: c :: rest => (ofThree v s n a b c).map fun x => (!x, rest)
    | 4, "(" :: a :: b :: ")" :: rest => (ofTwo v s a b).map (·, rest)
    | _, ws => anyOf v s n ws

end

def holdsCounted (v : Vocabulary) (s : Session) (ws : List String) : Except String Bool :=
  match counted v s (8 * ws.length + 20) ws.length ws with
  | .ok (b, []) => .ok b
  | .ok (_, w :: _) => .error (w ++ ": unexpected argument")
  | .error e => .error e

def unbracketed? (s : Session) (bracket : Bool) (ws : List String) : Option (List String) :=
  if !bracket then some ws
  else
    match ws.getLast? with
    | none => none
    | some w =>
      if s.extended && w ≠ "]" || w.toList.head? ≠ some ']' then none else some ws.dropLast

def status (v : Vocabulary) (s : Session) (bracket : Bool) (ws : List String) :
    Nat × Option String :=
  match unbracketed? s bracket ws with
  | none => (2, some "missing ']'")
  | some ws =>
    match if s.extended then holdsCounted v s ws else holds s ws with
    | .ok true => (0, none)
    | .ok false => (1, none)
    | .error e => (2, some e)

end Test

end InlineRemote.Shell
