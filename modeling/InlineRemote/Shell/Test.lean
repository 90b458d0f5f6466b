import InlineRemote.Shell.Arithmetic
import InlineRemote.Shell.Session

/-! # Tests of texts, numbers and files

A test is a row of words.  With three words the middle one decides; otherwise the words are read
from the left, with `!`, `-a`, `-o` and parentheses.  A test that cannot be read is a mistake, for
which there are words. -/
namespace InlineRemote.Shell

namespace Session

/-- The node that a path leads to.  A device may lead on to a stream, which has to be open: to a file,
or to a text as if it came from a pipe. -/
def node? (s : Session) (follow : Bool) (path : String) : Option (Nat × Node) :=
  match s.disk.find follow s.directory path with
  | .ok (_, i, node) =>
    match node.matter with
    | .device (.stream n) =>
      match s.stream? n with
      | none => none
      | some (.file j _ _ _ _) => (s.disk.node? j).map (j, ·)
      | some (.text t) => some (i, { node with matter := .pipe (String.ofList t) })
      | some (.collector _) => some (i, { node with matter := .pipe "" })
      | some _ => some (i, node)
    | _ => some (i, node)
  | .error _ => none

def length (s : Session) (i : Nat) : Nat :=
  match (s.disk.node? i).map Node.matter with
  | some .directory => 4096
  | some (.link target) => target.length
  | some (.program _) => 60000
  | _ => (s.content i).length

end Session

namespace Test

def unaries (extended : Bool) : List String :=
  ["-r", "-w", "-x", "-e", "-f", "-d", "-c", "-b", "-p", "-u", "-g", "-k", "-s", "-t", "-z", "-n",
    "-h", "-O", "-G", "-L", "-S"] ++ if extended then ["-a", "-N", "-o", "-v", "-R"] else []

def binaries : List String :=
  ["=", "!=", "<", ">", "-eq", "-ne", "-ge", "-gt", "-le", "-lt", "-nt", "-ot", "-ef"]

/-- The part that a word plays in a test. -/
inductive Token where
  | ended
  | operand
  | unary (op : String)
  | binary (op : String)
  | not
  | and
  | or
  | opening
  | closing
  deriving DecidableEq, Repr

def isBinary (extended : Bool) (w : String) : Bool :=
  binaries.contains w || (extended && w = "==")

/-- The part that the first of some words plays.  A word before the last one, or before a test of
two words, is no test itself. -/
def token (extended : Bool) (ws : List String) : Token :=
  match ws with
  | [] => .ended
  | w :: rest =>
    let joins : Bool := w = "-a" || w = "-o"
    if (unaries extended).contains w && !joins then
      match rest with
      | [] => .operand
      | [_] => .unary w
      | x :: _ :: _ => if isBinary extended x then .operand else .unary w
    else if isBinary extended w then .binary w
    else if w = "!" then .not
    else if w = "-a" then .and
    else if w = "-o" then .or
    else if w = "(" then if rest = [] then .operand else .opening
    else if w = ")" then .closing
    else .operand

def integer (s : Session) (w : String) : Except String Int :=
  match number? true w with
  | some n => .ok n
  | none =>
    .error (if s.extended then w ++ ": integer expression expected" else "Illegal number: " ++ w)

/-- Whether a test of one word holds. -/
def unary (s : Session) (op word : String) : Except String Bool :=
  let node? := (s.node? true word).map Prod.snd
  let matter? := node?.map Node.matter
  let has (bits : Nat) : Bool := node?.any fun x => x.mode &&& bits ≠ 0
  match op with
  | "-z" => .ok (word = "")
  | "-n" => .ok (word ≠ "")
  | "-t" => (integer s word).map fun _ => false
  | "-e" | "-a" | "-r" | "-w" | "-O" | "-G" => .ok node?.isSome
  | "-N" => .ok false
  | "-d" => .ok (matter? = some .directory)
  | "-f" =>
    .ok <| matter?.any fun m =>
      match m with
      | .file _ | .program _ => true
      | _ => false
  | "-c" =>
    .ok <| matter?.any fun m =>
      match m with
      | .device _ => true
      | _ => false
  | "-p" =>
    .ok <| matter?.any fun m =>
      match m with
      | .pipe _ => true
      | _ => false
  | "-s" => .ok ((s.node? true word).any fun (i, _) => s.length i ≠ 0)
  | "-x" => .ok (matter? = some .directory || has 73)
  | "-u" => .ok (has 2048)
  | "-g" => .ok (has 1024)
  | "-k" => .ok (has 512)
  | "-h" | "-L" =>
    .ok <| (s.node? false word).any fun (_, x) =>
      match x.matter with
      | .link _ => true
      | _ => false
  | "-v" =>
    match word.toList.takeWhile (· ≠ '['), word.toList.dropWhile (· ≠ '[') with
    | _, [] =>
      .ok (((count? word).any fun n => n ≤ s.arguments.length) || (s.value? word).isSome)
    | name, _ :: subscript =>
      let key := String.ofList subscript.dropLast
      let items := (((s.binding? (String.ofList name)).bind Variable.value).map Value.items).getD []
      .ok (if key = "@" ∨ key = "*" then !items.isEmpty else (items.lookup key).isSome)
  | "-R" =>
    .ok <| match s.bindings.lookup word with
      | some v => v.reference && v.value.isSome
      | none => false
  | "-o" => .ok (s.isOn word)
  | _ => .ok false

def filePair (s : Session) (op a b : String) : Bool :=
  match op, s.node? true a, s.node? true b with
  | "-ef", some (i, _), some (j, _) => i = j
  | "-nt", some (_, x), some (_, y) => y.time < x.time
  | "-ot", some (_, x), some (_, y) => x.time < y.time
  | "-nt", some _, none | "-ot", none, some _ => s.extended
  | _, _, _ => false

def binary (s : Session) (op a b : String) : Except String Bool :=
  let compare (f : Int → Int → Bool) : Except String Bool := do
    let m ← integer s a
    let n ← integer s b
    return f m n
  match op with
  | "=" | "==" => .ok (a = b)
  | "!=" => .ok (a ≠ b)
  | "<" => .ok (a < b)
  | ">" => .ok (b < a)
  | "-eq" => compare fun m n => m = n
  | "-ne" => compare fun m n => m ≠ n
  | "-ge" => compare fun m n => n ≤ m
  | "-gt" => compare fun m n => n < m
  | "-le" => compare fun m n => m ≤ n
  | "-lt" => compare fun m n => m < n
  | op => .ok (filePair s op a b)

/- Each reader below gets the part that the first word plays, and gives the words from the last one
that it used on. -/
mutual

def either (s : Session) : Nat → Token → List String → Except String (Bool × List String)
  | 0, _, _ => .error "too complex"
  | n + 1, t, ws => do
    let (a, ws) ← both s n t ws
    if token s.extended (ws.drop 1) = .or then
      let (b, ws) ← either s n (token s.extended (ws.drop 2)) (ws.drop 2)
      return (a || b, ws)
    return (a, ws)

def both (s : Session) : Nat → Token → List String → Except String (Bool × List String)
  | 0, _, _ => .error "too complex"
  | n + 1, t, ws => do
    let (a, ws) ← negation s n t ws
    if token s.extended (ws.drop 1) = .and then
      let (b, ws) ← both s n (token s.extended (ws.drop 2)) (ws.drop 2)
      return (a && b, ws)
    return (a, ws)

def negation (s : Session) : Nat → Token → List String → Except String (Bool × List String)
  | 0, _, _ => .error "too complex"
  | n + 1, t, ws =>
    if t = .not then
      let next := token s.extended (ws.drop 1)
      (negation s n next (if next = .ended then ws else ws.drop 1)).map fun (b, ws) => (!b, ws)
    else primary s n t ws

/-- A test of one or two words, a word, or a test in parentheses. -/
def primary (s : Session) : Nat → Token → List String → Except String (Bool × List String)
  | 0, _, _ => .error "too complex"
  | n + 1, t, ws =>
    match t with
    | .ended => .ok (false, ws)
    | .opening =>
      let inner := token s.extended (ws.drop 1)
      if inner = .closing then .ok (false, ws.drop 1)
      else
        match either s n inner (ws.drop 1) with
        | .error e => .error e
        | .ok (b, ws) =>
          if token s.extended (ws.drop 1) = .closing then .ok (b, ws.drop 1)
          else .error "closing paren expected"
    | .unary op =>
      match ws.drop 1 with
      | [] => .error (op ++ ": argument expected")
      | w :: rest => (unary s op w).map (·, w :: rest)
    | _ =>
      match token s.extended (ws.drop 1), ws with
      | .binary op, a :: _ :: b :: rest => (binary s op a b).map (·, b :: rest)
      | .binary op, _ => .error (op ++ ": argument expected")
      | _, w :: _ => .ok (w ≠ "", ws)
      | _, [] => .error "argument expected"

end

def fromLeft (s : Session) (first : Token) (ws : List String) : Except String Bool :=
  match either s (4 * ws.length + 8) first ws with
  | .ok (_, _ :: w :: _) => .error (w ++ ": unexpected operator")
  | .ok (b, _) => .ok b
  | .error e => .error e

def holds (s : Session) (ws : List String) : Except String Bool :=
  let token := token s.extended
  match ws with
  | [] => .ok false
  | [a, op, b] =>
    if isBinary s.extended op then fromLeft s .operand ws
    else if a = "(" ∧ b = ")" then fromLeft s (token [op]) [op]
    else if a = "!" then (fromLeft s (token [op, b]) [op, b]).map (!·)
    else fromLeft s (token ws) ws
  | [a, b, c, d] =>
    if a = "(" ∧ d = ")" then fromLeft s (token [b, c]) [b, c]
    else if a = "!" then
      let rest := [b, c, d]
      if isBinary s.extended c then (fromLeft s .operand rest).map (!·)
      else if b = "(" ∧ d = ")" then (fromLeft s (token [c]) [c]).map (!·)
      else if b = "!" then fromLeft s (token [c, d]) [c, d]
      else (fromLeft s (token rest) rest).map (!·)
    else fromLeft s (token ws) ws
  | _ => fromLeft s (token ws) ws

end Test

end InlineRemote.Shell
