import InlineRemote.Shell.Expansion
import InlineRemote.Shell.Regex
import InlineRemote.Shell.Test

/-! # Tests with operators

The words of these tests stay whole.  Texts are compared with patterns and regular expressions, and
numbers may be calculated. -/
namespace InlineRemote.Shell

namespace Worker

def likens (w : Worker) (text : String) (pattern : List Piece) : Act Bool := do
  let p ← w.expandPattern pattern
  let style := { (← get).style with groups := true }
  return fits style p text.toList

def expressionText (letters : List Letter) : List Char :=
  letters.flatMap fun (c, quoted) =>
    if quoted && !(c.isAlphanum || c = '_' || c = ' ' || c = '\n') then ['\\', c] else [c]

/-- Whether a regular expression fits a part of a text; what its groups fitted is kept. -/
def searches (w : Worker) (text : String) (expression : List Piece) : Act Bool := do
  let letters ← w.expandPattern expression
  match Regex.ofText? true (expressionText letters) with
  | none =>
    Act.leave 2
    throw (.fault 2)
  | some r =>
    let s ← get
    let manner : Regex.Manner := { foldCase := s.feature? "nocasematch" }
    let keep (texts : List String) : Act Unit :=
      modify (·.put "BASH_REMATCH" (some
        { value := some (.row (texts.zipIdx.map fun (t, n) => (n, t))) }))
    match Regex.search? manner r text.toList 0 with
    | none =>
      keep []
      return false
    | some found =>
      keep ((List.range (r.groups + 1)).map fun n =>
        String.ofList ((Regex.fittedBy text.toList found n).getD []))
      return true

def comparison? (op : String) : Option (Int → Int → Bool) :=
  match op with
  | "-eq" => some fun m n => m = n
  | "-ne" => some fun m n => m ≠ n
  | "-lt" => some fun m n => m < n
  | "-le" => some fun m n => m ≤ n
  | "-gt" => some fun m n => n < m
  | "-ge" => some fun m n => n ≤ m
  | _ => none

/-- Whether a test holds. -/
def holds (w : Worker) : Condition → Act Bool
  | .unary op ps => do
    let t ← w.expandWhole ps
    match Test.unary (← get) op t with
    | .ok b => return b
    | .error _ => return false
  | .binary op a b => do
    let text ← w.expandWhole a
    match op, comparison? op with
    | "=~", _ => w.searches text b
    | "=", _ | "==", _ => w.likens text b
    | "!=", _ => do return !(← w.likens text b)
    | _, some compare =>
      let m ← Act.calculate text
      let n ← Act.calculate (← w.expandWhole b)
      return compare m n
    | _, none =>
      match Test.binary (← get) op text (← w.expandWhole b) with
      | .ok b => return b
      | .error _ => return false
  | .not c => return !(← holds w c)
  | .both a b => do
    if ← holds w a then holds w b else return false
  | .either a b => do
    if ← holds w a then return true else holds w b

def conditionStatus (w : Worker) (c : Condition) : Act Nat :=
  tryCatch (do return if ← w.holds c then 0 else 1) fun e =>
    match e with
    | .discard => return 1
    | .fault 2 => return 2
    | e => throw e

end Worker

end InlineRemote.Shell
