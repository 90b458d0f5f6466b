import InlineRemote.Shell.Calculation
import InlineRemote.Shell.Glob
import InlineRemote.Shell.Quoting
import InlineRemote.Shell.Reader

/-! # Expansion of words

The pieces of a word become marks: letters, which remember where they come from, and cuts between
fields.  Marks are then split into fields at separators that came out of unquoted values. -/
namespace InlineRemote.Shell

/-- A mark of an expanded word. -/
inductive Mark where
  /-- A letter, whether it was quoted, and whether it came out of an unquoted value. -/
  | letter (c : Char) (quoted fromValue : Bool)
  /-- There is a field here, even if it has no letters. -/
  | field
  /-- One field ends and another starts; where no fields are made, a text stands between them. -/
  | cut (between : List Char)
  deriving DecidableEq, Repr

/-- What runs commands and expands words inside other commands and words. -/
structure Worker where
  /-- Runs a command; the flag says that its failure is looked at. -/
  run : Bool → Command → Act Unit
  /-- Runs a command after which its process is to end.  The first flag says that its failure is looked
  at, and the second one that the process is there for this command alone. -/
  runLast : Bool → Bool → Command → Act Unit
  expand : List Piece → Act (List Mark)

namespace Mark

def ofValue (quoted : Bool) (value : String) : List Mark :=
  if quoted then .field :: value.toList.map (.letter · true false)
  else value.toList.map (.letter · false true)

def letters : List Mark → List Letter
  | [] => []
  | .letter c quoted _ :: ms => (c, quoted) :: letters ms
  | .field :: ms => letters ms
  | .cut between :: ms => between.map (·, false) ++ letters ms

def text (ms : List Mark) : String :=
  String.ofList ((letters ms).map Prod.fst)

def asValue : List Mark → List Mark
  | [] => []
  | .letter c false _ :: ms => .letter c false true :: asValue ms
  | m :: ms => m :: asValue ms

/-- Splits marks into fields at separators.  The field so far is kept in reverse; the flag says that
blanks have just ended a field, so that one more separator ends nothing. -/
def split (separators : List Char) : Option (List Letter) → Bool → List Mark → List (List Letter)
  | f, _, [] => (f.map List.reverse).toList
  | f, _, .cut _ :: ms => (f.map List.reverse).toList ++ split separators none false ms
  | f, _, .field :: ms => split separators (some (f.getD [])) false ms
  | f, ended, .letter c quoted fromValue :: ms =>
    if fromValue && separators.contains c then
      if c = ' ' || c = '\t' || c = '\n' then
        (f.map List.reverse).toList ++ split separators none (ended || f.isSome) ms
      else if f.isNone && ended then split separators none false ms
      else (f.getD []).reverse :: split separators none false ms
    else split separators (some ((c, quoted) :: f.getD [])) false ms

end Mark

/-- What a parameter stands for. -/
inductive Found where
  | one (value : Option String)
  | many (values : List String) (joined : Bool)

namespace Found

def values : Found → List String
  | one v => v.toList
  | many vs _ => vs

def map (f : String → String) : Found → Found
  | one v => one (v.map f)
  | many vs joined => many (vs.map f) joined

def isPresent (emptyToo : Bool) : Found → Bool
  | one v => v.isSome && !(emptyToo && v = some "")
  | many vs _ => vs ≠ [] && !(emptyToo && vs.all (· = ""))

def marks (s : Session) (quoted : Bool) : Found → List Mark
  | one v => Mark.ofValue quoted (v.getD "")
  | many vs joined =>
    let first := s.separators.take 1
    if quoted && joined then
      Mark.ofValue true (String.ofList (first.intercalate (vs.map String.toList)))
    else
      let between := if joined || !s.extended then first else [' ']
      [Mark.cut between].intercalate (vs.map (Mark.ofValue quoted))

end Found

namespace Worker

/-- The value of a parameter whose value is not kept. -/
def dynamic? (s : Session) (name : String) : Option Value :=
  let number (n : Nat) : Option Value := some (.text (toString n))
  match name with
  | "#" => number s.arguments.length
  | "?" => number s.status
  | "$" => number s.process
  | "!" => s.lastJob.map fun n => .text (toString n)
  | "-" => some (.text (String.ofList s.shownOptions))
  | _ =>
    if !s.extended then none
    else
      match name with
      | "LINENO" => number s.line
      | "SECONDS" => number ((s.time - s.born) / 1000000)
      | "BASHPID" => number s.current
      | "EPOCHSECONDS" => number (s.time / 1000000)
      | "EPOCHREALTIME" =>
        let part := toString (s.time % 1000000)
        let zeros := String.ofList (List.replicate (6 - part.length) '0')
        some (.text (toString (s.time / 1000000) ++ "." ++ zeros ++ part))
      | "BASH_SUBSHELL" => number (s.nesting)
      | "FUNCNAME" =>
        if s.callers = [] then none
        else some (.row ((s.callers ++ ["main"]).zipIdx.map fun (x, n) => (n, x)))
      | "PIPESTATUS" => some (.row (s.statuses.zipIdx.map fun (x, n) => (n, toString x)))
      | "DIRSTACK" => some (.row ((s.path :: s.stack).zipIdx.map fun (x, n) => (n, x)))
      | _ => none

def held? (s : Session) (name : String) : Option Value :=
  match count? name with
  | some 0 => some (.text s.name)
  | some n => (s.arguments[n - 1]?).map .text
  | none => (dynamic? s name).or ((s.binding? name).bind Variable.value)

def look (name : String) : Act (Option Value) := do
  let s ← get
  if s.extended && name = "RANDOM" then
    let n ← Expression.parameter? Act.calculate name none
    return some (.text (toString n))
  return held? s name

def expandText (w : Worker) (ps : List Piece) : Act String := do
  return Mark.text (← w.expand ps)

def findAll (name : String) (joined : Bool) : Act Found := do
  let v ← look name
  return .many ((v.map fun v => v.items.map Prod.snd).getD []) joined

def findAt (name : String) (subscript : String) : Act Found := do
  match subscript with
  | "@" => findAll name false
  | "*" => findAll name true
  | subscript =>
    let k ← Act.key Act.calculate name subscript
    return .one ((← look name).bind (·.at? k))

def findNamed (name : String) : Act Found := do
  let s ← get
  if name = "@" ∨ name = "*" then return .many s.arguments (name = "*")
  let base := name.toList.takeWhile (· ≠ '[')
  match name.toList.drop base.length with
  | '[' :: r => findAt (String.ofList base) (String.ofList r.dropLast)
  | _ => return .one ((← look name).bind Value.plain?)

/-- The name that the value of a variable is, where that stands for another one. -/
def pointed (name : String) : Act String := do
  match (← look name).bind Value.plain? with
  | some other =>
    let base := other.toList.takeWhile (· ≠ '[')
    if isName base || (count? other).isSome || (other.length = 1 && other.toList.all Reading.isSign)
    then return other
    else
      Act.report (other ++ ": invalid variable name")
      Act.leave 1
      throw .discard
  | none =>
    Act.report (name ++ ": invalid indirect expansion")
    Act.leave 1
    throw .discard

def find (w : Worker) (name : String) (reach : Reach) : Act Found := do
  match reach with
  | .whole => findNamed name
  | .element ps => findAt name (← w.expandText ps)
  | .all joined => findAll name joined
  | .keys joined =>
    let v ← look name
    return .many ((v.map fun v => v.items.map Prod.fst).getD []) joined
  | .names joined =>
    let all := (← get).bindings.filterMap fun (x, v) =>
      if name.toList.isPrefixOf x.toList && v.value.isSome then some x else none
    return .many (all.mergeSort (· ≤ ·)) joined
  | .indirect =>
    let s ← get
    match s.bindings.lookup name with
    | some { reference := true, value := some (.text other), .. } => return .one (some other)
    | _ => findNamed (← pointed name)

def unset {α : Type} (name : String) : Act α := do
  if (← get).extended then
    let shown := if (count? name).isSome then "$" ++ name else name
    Act.report (shown ++ ": unbound variable")
    throw (.fault 127)
  else Act.fail (name ++ ": parameter not set") 2

def demand (name : String) (f : Found) : Act Unit := do
  match f with
  | .one none => if (← get).has 'u' then unset name
  | _ => return

/-- A part of a row of values or of a text, by its offset and its length. -/
def portion {α : Type} (values : List α) (offset : Int) (length : Option Int) : Option (List α) :=
  let size : Int := values.length
  let start := if offset < 0 then size + offset else offset
  if start < 0 ∨ size < start then some []
  else
    match length with
    | none => some (values.drop start.toNat)
    | some n =>
      let stop := if n < 0 then size + n else start + n
      if stop < start then none else some ((values.drop start.toNat).take (stop - start).toNat)

/-- A text with a replacement for what fits a pattern; the replacement is made from what fitted. -/
def replacing (style : PatternStyle) (which : Matches) (pattern : List Letter)
    (word : List Char → List Char) (s : List Char) : List Char :=
  let rec go : Nat → Bool → List Char → List Char
    | 0, _, s => s
    | n + 1, once, s =>
      match longestFit? style pattern s, s with
      | some k, _ =>
        if k = 0 then
          match s with
          | [] => []
          | c :: r => c :: go n once r
        else
          let rest := s.drop k
          word (s.take k) ++ if once then rest else go n once rest
      | none, [] => []
      | none, c :: r => c :: go n once r
  match which with
  | .first => go (s.length + 1) true s
  | .every => go (s.length + 1) false s
  | .atFront =>
    match longestFit? style pattern s with
    | some k => word (s.take k) ++ s.drop k
    | none => s
  | .atEnd =>
    match (List.range (s.length + 1)).find? fun k => fits style pattern (s.drop k) with
    | some k => s.take k ++ word (s.drop k)
    | none => s

def replacement (letters : List Letter) (found : List Char) : List Char :=
  letters.flatMap fun (c, quoted) => if c = '&' && !quoted then found else [c]

def changing (style : PatternStyle) (how : LetterChange) (everywhere : Bool) (pattern : List Letter)
    (s : List Char) : List Char :=
  let change (c : Char) : Char :=
    if pattern = [] || fits style pattern [c] then how.apply c else c
  if everywhere then s.map change else (s.take 1).map change ++ s.drop 1

def attributes (v : Variable) : String :=
  let kind : List Char := match v.value with
    | some (.row _) => ['a']
    | some (.table _) => ['A']
    | _ => []
  let flag (b : Bool) (c : Char) : List Char := if b then [c] else []
  let change : List Char := match v.change with
    | some .lower => ['l']
    | some .upper => ['u']
    | _ => []
  String.ofList (kind ++ flag v.integer 'i' ++ flag v.reference 'n' ++ flag v.fixed 'r' ++
    flag v.exported 'x' ++ change)

def formed (s : Session) (name : String) (form : Char) (v : String) : Option String :=
  match form with
  | 'Q' => some (Quoting.always v)
  | 'U' => some (String.ofList (v.toList.map Char.toUpper))
  | 'L' => some (String.ofList (v.toList.map Char.toLower))
  | 'u' => some (String.ofList ((v.toList.take 1).map Char.toUpper ++ v.toList.drop 1))
  | 'E' => ((Reading.escaped (v.length + 2) (v.toList ++ ['\''])).map Prod.fst).map String.ofList
  | 'P' => some v
  | 'A' =>
    let a := attributes ((s.binding? name).getD {})
    let assigned := name ++ "=" ++ Quoting.always v
    some (if a = "" then assigned else "declare -" ++ a ++ " " ++ assigned)
  | 'a' => some (attributes ((s.binding? name).getD {}))
  | 'K' | 'k' => some (Quoting.always v)
  | _ => none

/-- Gives a parameter the value of a word, because it has none. -/
def assignFallback (w : Worker) (name : String) (reach : Reach) (word : List Piece) :
    Act String := do
  if !isName name.toList then
    if (← get).extended then
      Act.report ("$" ++ name ++ ": cannot assign in this way")
      Act.leave 1
      throw .discard
    else Act.fail (name ++ ": bad variable name") 2
  let v ← w.expandText word
  let subscript ← match reach with
    | .element ps => do pure (some (← w.expandText ps))
    | _ => pure none
  if !(← Act.store Act.calculate name subscript false v) then
    Act.leave 1
    throw .discard
  return v

def refuse (w : Worker) (name : String) (emptyToo : Bool) (word : List Piece) :
    Act (List Mark) := do
  let text ← w.expandText word
  let extended := (← get).extended
  let usual :=
    if !emptyToo then "parameter not set"
    else if extended then "parameter null or not set" else "parameter not set or null"
  Act.fail (name ++ ": " ++ if text = "" then usual else text) 127

/-- A part of what a parameter stands for. -/
def cutOut (w : Worker) (name : String) (reach : Reach) (found : Found) (offset : List Piece)
    (length : Option (List Piece)) : Act Found := do
  let offset ← Act.calculate (← w.expandText offset)
  let length ← length.mapM fun ps => do Act.calculate (← w.expandText ps)
  let s ← get
  let refused : Act Found := do
    Act.report (toString (length.getD 0) ++ ": substring expression < 0")
    Act.leave 1
    throw .discard
  match found with
  | .one v =>
    match portion (v.getD "").toList offset length with
    | some cs => return .one (some (String.ofList cs))
    | none => refused
  | .many vs joined =>
    if length.any (· < 0) then refused
    else if name = "@" ∨ name = "*" then
      let all := if offset = 0 then s.name :: vs else vs
      let offset := if 0 < offset then offset - 1 else offset
      return .many ((portion all offset length).getD []) joined
    else
      let keyed : List (Nat × String) := match reach, (s.binding? name).bind Variable.value with
        | .all _, some (.row items) => items
        | _, _ => vs.zipIdx.map fun (v, n) => (n, v)
      let last : Int := ((keyed.getLast?).map fun e => (e.1 : Int) + 1).getD 0
      let start := if offset < 0 then last + offset else offset
      let taken := if start < 0 then [] else keyed.filter fun e => start ≤ (e.1 : Int)
      let taken := match length with
        | some n => taken.take n.toNat
        | none => taken
      return .many (taken.map Prod.snd) joined

def asOne (s : Session) (found : Found) : Found :=
  match found with
  | .many _ _ => if s.extended then found else .one (some (Mark.text (found.marks s false)))
  | found => found

def size (reach : Reach) : Found → Nat
  | .one v => (v.getD "").length
  | .many vs _ =>
    match reach with
    | .keys _ => (vs.head?.getD "").length
    | _ => vs.length

/-- The marks of a parameter. -/
def expandParameter (w : Worker) (name : String) (reach : Reach) (use : Use) (quoted : Bool) :
    Act (List Mark) := do
  match use with
  | .unknown =>
    if (← get).extended then
      Act.report "bad substitution"
      Act.leave 1
      throw .discard
    else Act.fail "Bad substitution" 2
  | _ => pure ()
  let found ← match use, reach with
    | .fallback .., .indirect => do
      match (← look name).bind Value.plain? with
      | none => pure (.one none)
      | some _ => w.find name reach
    | _, _ => w.find name reach
  let s ← get
  let style := { s.style with foldCase := false }
  match use with
  | .value =>
    demand name found
    return found.marks s quoted
  | .length =>
    demand name found
    return Mark.ofValue quoted (toString (size reach found))
  | .fallback kind emptyToo word =>
    let present := (asOne s found).isPresent emptyToo
    let instead : Act (List Mark) := do
      let ms ← w.expand word
      return if quoted then .field :: ms else Mark.asValue ms
    match kind with
    | .use => if present then return found.marks s quoted else instead
    | .instead =>
      if !present then return if quoted then [.field] else []
      instead
    | .assign =>
      if present then return found.marks s quoted
      return Mark.ofValue quoted (← w.assignFallback name reach word)
    | .demand =>
      if present then return found.marks s quoted
      w.refuse name emptyToo word
  | .trimmed atEnd longest pattern =>
    demand name found
    let p := Mark.letters (← w.expand pattern)
    let cut (v : String) : String := String.ofList (trimmed style atEnd longest p v.toList)
    return ((asOne s found).map cut).marks s quoted
  | .part offset length =>
    demand name found
    return (← w.cutOut name reach found offset length).marks s quoted
  | .replaced which pattern word =>
    demand name found
    let p := Mark.letters (← w.expand pattern)
    let r := replacement (Mark.letters (← w.expand word))
    let change (v : String) : String :=
      if p = [] then v
      else String.ofList (replacing s.style which p r v.toList)
    return (found.map change).marks s quoted
  | .changed how everywhere pattern =>
    demand name found
    let p := Mark.letters (← w.expand pattern)
    let change (v : String) : String := String.ofList (changing style how everywhere p v.toList)
    return (found.map change).marks s quoted
  | .formed form =>
    let v? := (found.values.head?).bind (formed s name form)
    if found.values ≠ [] && v?.isNone then
      Act.report "bad substitution"
      Act.leave 1
      throw .discard
    return (found.map fun v => (formed s name form v).getD v).marks s quoted
  | .unknown => return []

def expandArithmetic (w : Worker) (e : List Piece) : Act String := do
  return toString (← Act.calculate (← w.expandText e))

def homeOf? (s : Session) (user : String) : Option String := do
  let text := s.content (← s.disk.at? ["etc", "passwd"])
  let entries := (text.splitOn "\n").map fun l => l.splitOn ":"
  let entry ← entries.find? fun e => e.head? = some user
  entry[5]?

def homeFor? (s : Session) (user : String) : Option String :=
  match user with
  | "" => (s.value? "HOME").or (if s.extended then some "/root" else none)
  | "+" => if s.extended then some s.path else none
  | "-" => if s.extended then s.value? "OLDPWD" else none
  | user => homeOf? s user

/-- Puts home directories in the stead of the tildes of a text: at its start, and after colons if
those count.  The flag says that the word goes on after the text. -/
def homes (s : Session) (colons more : Bool) : Nat → Bool → List Char → List Piece
  | 0, _, t => [.text t false]
  | _ + 1, _, [] => []
  | n + 1, true, '~' :: t =>
    let isEnd (c : Char) : Bool := c = '/' || (colons && c = ':')
    let user := t.takeWhile (!isEnd ·)
    let r := t.drop user.length
    if r = [] ∧ more then [.text ('~' :: t) false]
    else
      match homeFor? s (String.ofList user) with
      | some home => .text home.toList true :: homes s colons more n false r
      | none => .text ('~' :: user) false :: homes s colons more n false r
  | n + 1, _, c :: t =>
    let plain := t.takeWhile (· ≠ ':')
    if colons && c = ':' then .text [c] false :: homes s colons more n true t
    else
      .text (c :: if colons then plain else t) false ::
        if colons then homes s colons more n false (t.drop plain.length) else []

def expandTilde (s : Session) (colons : Bool) : Bool → List Piece → List Piece
  | _, [] => []
  | atStart, .text t false :: rest =>
    if !(atStart || colons) || !t.contains '~' then
      .text t false :: if colons then expandTilde s colons (t.getLast? = some ':') rest else rest
    else
      homes s colons (!rest.isEmpty) (2 * t.length + 1) atStart t ++
        if colons then expandTilde s colons (t.getLast? = some ':') rest else rest
  | _, p :: rest => p :: if colons then expandTilde s colons false rest else rest

def fieldsOf (ms : List Mark) : Act (List String) := do
  let s ← get
  let mut texts := []
  for f in Mark.split s.separators none false ms do
    match Glob.expand? s f with
    | some ts => texts := ts.reverse ++ texts
    | none =>
      Act.report ("no match: " ++ Glob.text f)
      Act.leave 1
      throw .discard
  return texts.reverse

def expandFields (w : Worker) (ps : List Piece) : Act (List String) := do
  fieldsOf (← w.expand (expandTilde (← get) false true ps))

def expandWhole (w : Worker) (ps : List Piece) : Act String := do
  w.expandText (expandTilde (← get) false true ps)

def expandValue (w : Worker) (ps : List Piece) : Act String := do
  w.expandText (expandTilde (← get) true true ps)

def expandPattern (w : Worker) (ps : List Piece) : Act (List Letter) := do
  return Mark.letters (← w.expand (expandTilde (← get) false true ps))

end Worker

end InlineRemote.Shell
