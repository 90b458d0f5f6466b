import InlineRemote.Shell.Session

/-! # Acts

An act changes a session and may stop for a reason that an enclosing command, or the end of the
script, deals with.  A process that acts comes to its end, or waits for a time or for a change in the
world, or starts a command beside itself; what it does afterwards depends on how the world then
is. -/
namespace InlineRemote.Shell

/-- Why commands stop. -/
inductive Stop where
  | exit
  /-- A mistake with its status; it ends a shell which runs a script. -/
  | fault (status : Nat)
  /-- A mistake after which the rest of the line is left out. -/
  | discard
  /-- A signal ended a process: this one, or one that waits for it. -/
  | killed (n : Notice)
  | returning
  | breaking (loops : Nat)
  | continuing (loops : Nat)
  deriving DecidableEq, Repr

/-- How a process goes on. -/
inductive Course (α : Type) where
  | ended (r : Except Stop α) (s : Session)
  /-- It goes on at a time, or earlier if it is ready. -/
  | waiting (alarm : Option Nat) (ready : Session → Bool) (s : Session) (go : Session → Course α)
  /-- It starts a command in a session of its own, and goes on itself. -/
  | starting (job : Command) (child s : Session) (go : Session → Course α)

def Course.bind {α β : Type} (f : Except Stop α → Session → Course β) : Course α → Course β
  | .ended r s => f r s
  | .waiting alarm ready s go => .waiting alarm ready s fun t => (go t).bind f
  | .starting job child s go => .starting job child s fun t => (go t).bind f

def Act (α : Type) : Type :=
  Session → Course α

namespace Act

instance : Monad Act where
  pure a := fun s => .ended (.ok a) s
  bind a f := fun s => (a s).bind fun r s =>
    match r with
    | .ok x => f x s
    | .error e => .ended (.error e) s

instance : MonadStateOf Session Act where
  get := fun s => .ended (.ok s) s
  set s := fun _ => .ended (.ok ()) s
  modifyGet f := fun s => match f s with | (x, s) => .ended (.ok x) s

instance : MonadExceptOf Stop Act where
  throw e := fun s => .ended (.error e) s
  tryCatch a f := fun s => (a s).bind fun r s =>
    match r with
    | .ok x => .ended (.ok x) s
    | .error e => f e s

def after {α : Type} (a : Act α) (give : Session → Session → Session) : Act α := fun before =>
  (a before).bind fun r s => .ended r (give before s)

/-- Acts, and goes on with what an act made of the end, even if that is a stop. -/
def afterwards {α β : Type} (a : Act α) (f : Session → Except Stop α → Act β) : Act β :=
  fun before => (a before).bind fun r s => f before r s

def iterate {α β : Type} (step : α → Act (α ⊕ β)) : Nat → α → Act β
  | 0, _ => throw (.fault 2)
  | n + 1, x => fun s =>
    match step x s with
    | .ended (.ok (.inl y)) s => iterate step n y s
    | .ended (.ok (.inr y)) s => .ended (.ok y) s
    | .ended (.error e) s => .ended (.error e) s
    | c => c.bind fun (r : Except Stop (α ⊕ β)) s =>
      match r with
      | .ok (.inl y) => iterate step n y s
      | .ok (.inr y) => .ended (.ok y) s
      | .error e => .ended (.error e) s

def leave (status : Nat) : Act Unit :=
  modify ({ · with status })

/-! ## Signals and time -/

/-- Takes the signals that have come: one without a trap may end the process, the others are kept
until their traps run. -/
def collect : Act Unit := do
  let s := (← get).rung
  if s.notices = [] then return
  match s.death? with
  | some n =>
    set { s with notices := s.notices.erase n }
    throw (.killed n)
  | none =>
    let (mine, others) := s.notices.partition (·.process = s.current)
    let called := (mine.map Notice.signal).filter s.isTrapped
    set { s with notices := others, pending := s.pending ++ called }

def awaitWithin : Nat → Option Nat → (Session → Bool) → Act Unit
  | 0, _, _ => throw (.fault 2)
  | n + 1, alarm, ready => do
    let s ← get
    if !(ready s || alarm.any (· ≤ s.time)) then
      let sooner := (alarm.toList ++ s.alarms.map Prod.fst).min?
      fun s => .waiting sooner (fun t => ready t || t.death?.isSome) s fun t => .ended (.ok ()) t
      collect
      awaitWithin n alarm ready

/-- Waits for a time, or until something holds; a signal that ends the process ends that too. -/
def await (alarm : Option Nat) (ready : Session → Bool) : Act Unit := do
  awaitWithin 1000 alarm ready
  collect

def pass (duration : Nat) : Act Unit := do
  let s ← get
  let time := s.time + duration
  if s.alarms = [] && s.isAlone then set { s with time }
  else await (some time) fun _ => false

def send (signal process : Nat) : Act Bool := do
  let s ← get
  if !s.isAlive process then return process = 1 && signal = 0
  if signal ≠ 0 then
    set { s with notices := s.notices ++ [Notice.mk process signal] }
    if process = s.current then collect
  return true

/-! ## Streams -/

def overlaid (old : String) (offset : Nat) (text : String) : String :=
  if offset = old.length then old ++ text
  else
    let cs := old.toList
    let front := cs.take offset ++ List.replicate (offset - cs.length) '\x00'
    String.ofList (front ++ text.toList ++ cs.drop (offset + text.length))

/-- How much may be written to a stream that is kept, before its reader is taken to be gone. -/
def capacity : Nat := 4000000

/-- Writes to a stream; the answer is whether that worked. -/
def writeTo (n : Nat) (text : String) : Act Bool := do
  let s ← get
  match s.descriptors.lookup n with
  | none => return text = ""
  | some i =>
    match s.streams.lookup i with
    | some (.collector t) =>
      if capacity < t.length then
        let _ ← send 13 s.current
      set (s.putStream i (.collector (t ++ text)))
      return true
    | some (.file node offset reads true appends) =>
      let old := s.content node
      let offset := if appends then old.length else offset
      let whole := text.length
      let room := ((s.limits.lookup ('f', false)).bind id).elim whole (· - offset)
      let text := if room < whole then String.ofList (text.toList.take room) else text
      let new := overlaid old offset text
      let changed (x : Node) : Node :=
        match x.matter with
        | .pipe _ => { x with matter := .pipe new }
        | _ => { x with matter := .file new, time := s.time }
      set { s with
        disk := s.disk.change node changed
        streams := withKey s.streams i
          (some (.file node (offset + text.length) reads true appends)) }
      if room < whole then
        let _ ← send 25 s.current
      return whole ≤ room
    | some .nothing | some .zeros | some .noise => return true
    | _ => return text = ""

def print (text : String) : Act Unit := do
  if !(← writeTo 1 text) then modify ({ · with lost := true })

def complain (text : String) : Act Unit := do
  let _ ← writeTo 2 (text ++ "\n")

def report (text : String) : Act Unit := do
  complain ((← get).place ++ text)

def fail {α : Type} (text : String) (status : Nat) : Act α := do
  report text
  throw (.fault (if (← get).extended then status else 2))

def left? (n : Nat) : Act (Option (List Char)) := do
  let s ← get
  match s.stream? n with
  | some (.text t) => return some t
  | some (.file node offset true _ _) => return some ((s.content node).toList.drop offset)
  | some .nothing => return some []
  | some .zeros => return some (List.replicate 65536 '\x00')
  | some .noise =>
    let bytes := (List.range 8192).map fun k => Char.ofNat ((k * 167 + k / 7 * 61 + 13) % 256)
    return some bytes
  | _ => return none

def skip (n amount : Nat) : Act Unit := do
  let s ← get
  match s.descriptors.lookup n with
  | none => return
  | some i =>
    match s.streams.lookup i with
    | some (.text t) => set (s.putStream i (.text (t.drop amount)))
    | some (.file node offset r w a) => set (s.putStream i (.file node (offset + amount) r w a))
    | _ => return

/-- Takes what is left of a stream up to a mark, and says whether the mark came. -/
def readTo (mark : Char) (n : Nat) : Act (List Char × Bool) := do
  match ← left? n with
  | none => return ([], false)
  | some t =>
    let found := t.takeWhile (· ≠ mark)
    let ended : Bool := (t.drop found.length) ≠ []
    skip n (found.length + if ended then 1 else 0)
    return (found, ended)

def readAll (n : Nat) : Act (List Char) := do
  match ← left? n with
  | none => return []
  | some t => skip n t.length; return t

end Act

end InlineRemote.Shell
