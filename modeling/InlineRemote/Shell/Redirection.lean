import InlineRemote.Shell.Builtin.Options
import InlineRemote.Shell.Opening

/-! # Redirections

The streams of a command are led to files, to texts of the script, and to where other streams lead.
They are led in order, and led back when the command has come to its end. -/
namespace InlineRemote.Shell

abbrev Led := Option (List (Nat × Option Nat))

namespace Worker

def notLed (text : String) : Act Led := do
  Act.report text
  return none

def pathFor (w : Worker) (ps : List Piece) : Act (Option String) := do
  if (← get).extended then
    match ← w.expandFields ps with
    | [t] => return some t
    | ts =>
      Act.report (" ".intercalate ts ++ ": ambiguous redirect")
      return none
  else return some (← w.expandWhole ps)

def leadToFile (streams : List Nat) (d : Direction) (path : String) : Act Led := do
  match ← Act.openPath d path with
  | .ok i => return some (streams.map fun n => (n, some i))
  | .error fault =>
    if (← get).extended then notLed (path ++ ": " ++ Fault.words fault)
    else
      let verb := if d = .input then "open " else "create "
      notLed ("cannot " ++ verb ++ path ++ ": " ++ Fault.words fault)

/-- Leads a stream to where another one leads, which may move there, or closes it. -/
def leadToStream (n : Nat) (forInput : Bool) (t : String) : Act Led := do
  let s ← get
  if t = "-" then return some [(n, none)]
  let moves : Bool := s.extended && t.toList.getLast? = some '-'
  let digits := if moves then t.toList.dropLast else t.toList
  let usual : Nat := if forInput then 0 else 1
  match count? (String.ofList digits), s.extended with
  | some k, extended =>
    if !extended ∧ 1 < digits.length then Act.fail "Bad fd number" 2
    match s.descriptors.lookup k with
    | some i => return some ((n, some i) :: if moves && k ≠ n then [(k, none)] else [])
    | none => notLed (t ++ ": Bad file descriptor")
  | none, false => Act.fail "Bad fd number" 2
  | none, true =>
    if !forInput ∧ n = usual then leadToFile [1, 2] (.all false) t
    else notLed (t ++ ": ambiguous redirect")

def freeDescriptor (s : Session) : Nat :=
  ((List.range 200).map (· + 10)).find? (fun n => (s.descriptors.lookup n).isNone) |>.getD 10

def leadAs (w : Worker) (n : Nat) (d : Direction) (ps : List Piece) : Act Led := do
  match d with
  | .document =>
    let text ← w.expandText ps
    let (i, s) := (← get).openStream (.text text.toList)
    set s
    return some [(n, some i)]
  | .copy forInput => leadToStream n forInput (← w.expandWhole ps)
  | .all _ =>
    match ← w.pathFor ps with
    | some t => leadToFile [1, 2] d t
    | none => return none
  | _ =>
    match ← w.pathFor ps with
    | some t => leadToFile [n] d t
    | none => return none

def target (w : Worker) : Redirect → Act Led
  | .mk n none d ps => w.leadAs n d ps
  | .mk _ (some x) d ps => do
    let closes : Bool ← match d with
      | .copy _ => do pure ((← w.expandWhole ps) = "-")
      | _ => pure false
    let s ← get
    if closes then
      match (s.value? x).bind count? with
      | some n => return some [(n, none)]
      | none => notLed (x ++ ": ambiguous redirect")
    else
      let n := freeDescriptor s
      let led ← w.leadAs n d ps
      if led.isSome then Act.assign x (toString n)
      return led

/-- Leads streams as redirections say; the answer is whether all could be led there, and which
numbers they have. -/
def redirect (w : Worker) : List Redirect → Act (Bool × List Nat)
  | [] => return (true, [])
  | r :: rs => do
    match ← w.target r with
    | none => return (false, [])
    | some led =>
      modify fun s => led.foldl (fun s (n, i) => s.lead n i) s
      let (fine, more) ← redirect w rs
      let lasting : Bool := match r with
        | .mk _ holder _ _ => holder.isSome
      return (fine, (if lasting then [] else led.map Prod.fst) ++ more)

def leadBack (before : Session) (numbers : List Nat) (s : Session) : Session :=
  let s := numbers.foldl (fun s n => s.lead n (before.descriptors.lookup n)) s
  { s with kept := before.kept }

/-- Acts while streams are redirected; the answer is whether they could be. -/
def redirecting (w : Worker) (rs : List Redirect) (a : Act Unit) : Act Bool := do
  if rs.isEmpty then
    a
    return true
  let before ← get
  let (fine, numbers) ← Act.afterwards (w.redirect rs) fun s r =>
    match r with
    | .ok led => pure led
    | .error e => do
      modify fun t => { t with descriptors := s.descriptors }
      throw e
  Act.after (do
      if fine then
        modify fun s => { s with kept := before.descriptors.map Prod.snd ++ s.kept }
        a
      return fine) fun _ s => leadBack before numbers s

end Worker

end InlineRemote.Shell
