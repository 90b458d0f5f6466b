import InlineRemote.Shell.Builtin.Options

/-! # Commands for variables

Variables are marked, made part of a function, taken away, read, and given the options among the
arguments. -/
namespace InlineRemote.Shell

namespace Builtin

def assigned (extended : Bool) (w : String) : String × Bool × Option String :=
  let s := w.toList
  match s.dropWhile (· ≠ '=') with
  | [] => (w, false, none)
  | _ :: v =>
    let name := s.takeWhile (· ≠ '=')
    if extended && name.getLast? = some '+' then
      (String.ofList name.dropLast, true, some (String.ofList v))
    else (String.ofList name, false, some (String.ofList v))

def subscripted (name : String) : String × Option String :=
  let base := name.toList.takeWhile (· ≠ '[')
  match name.toList.drop base.length with
  | '[' :: r => (String.ofList base, some (String.ofList r.dropLast))
  | _ => (name, none)

def checkName (command name word : String) : Act Bool := do
  if isName name.toList then return true
  if (← get).extended then
    complain command ("\x60" ++ word ++ "': not a valid identifier")
    return false
  else wrong command (name ++ ": bad variable name") 2

def storeNamed (name : String) (added : Bool) (value : String) : Act Bool := do
  let (base, subscript) := subscripted name
  Act.store Act.calculate base subscript added value

def declared (s : Session) (x : String) (v : Variable) : String :=
  if s.extended then
    let a := Worker.attributes v
    "declare -" ++ (if a = "" then "-" else a) ++ " " ++ x ++
      (match v.value with
        | none => ""
        | some (.text t) => "=" ++ Quoting.double t
        | some value => "=" ++ listed true value) ++ "\n"
  else x ++ (match v.value.bind Value.plain? with
    | none => ""
    | some t => "=" ++ Quoting.plain t) ++ "\n"

def showMarked (name : String) (p : Variable → Bool) : Act Unit := do
  let s ← get
  let there := (s.bindings.filter fun e => p e.2).mergeSort fun a b => a.1 ≤ b.1
  let front := if s.extended then "" else name ++ " "
  Act.print ("".intercalate (there.map fun (x, v) => front ++ declared s x v))

/-- Marks variables, and gives them values if words assign. -/
def mark (name : String) (change : Variable → Variable) (ws : List String) : Act Nat := do
  let mut status := 0
  for w in ws do
    let s ← get
    let (x, added, value) := assigned s.extended w
    if ← checkName name x w then
      let fine ← match value with
        | some v => Act.store Act.calculate x none added v
        | none => pure true
      if fine then
        modify fun s =>
          let x := s.referent 8 x
          s.put x (some (change ((s.bindings.lookup x).getD {})))
      else status := 1
    else status := 1
  return status

def exportAll (ws : List String) : Act Nat := do
  let (os, names) ← options "export" (if (← get).extended then "fnp" else "p") ws
  if hasOption os 'f' then return 0
  if names = [] then
    showMarked "export" Variable.exported
    return 0
  mark "export" ({ · with exported := !hasOption os 'n' }) names

def fix (ws : List String) : Act Nat := do
  let (os, names) ← options "readonly" (if (← get).extended then "aAfp" else "p") ws
  if hasOption os 'f' then return 0
  if names = [] then
    showMarked "readonly" Variable.fixed
    return 0
  mark "readonly" ({ · with fixed := true }) names

def unsetItem (name subscript : String) : Act Unit := do
  let key ← if subscript = "@" ∨ subscript = "*" then pure none
    else do pure (some (← Act.key Act.calculate name subscript))
  modify fun s =>
    match s.binding? name, key with
    | some v, some k =>
      let left : Option Value :=
        match v.value, k with
        | some (.row items), .number n => some (.row (items.filter (·.1 ≠ n)))
        | some (.table items), .name x => some (.table (items.filter (·.1 ≠ x)))
        | _, _ => none
      s.put (s.referent 8 name) (some { v with value := left })
    | _, none => s.put (s.referent 8 name) none
    | none, _ => s

/-- Takes variables or functions away. -/
def unset (ws : List String) : Act Nat := do
  let extended := (← get).extended
  let (os, names) ← options "unset" (if extended then "fvn" else "fv") ws
  let mut status := 0
  for x in names do
    let s ← get
    let (base, subscript) := subscripted x
    let drop : Act Unit := modify fun s => { s with functions := s.functions.filter (·.1 ≠ x) }
    if hasOption os 'f' then drop
    else if hasOption os 'n' then modify (·.put x none)
    else if !isName base.toList then
      if extended && subscript.isNone && !hasOption os 'v' then drop
      else
        if ← checkName "unset" x x then pure ()
        status := 1
    else if (s.binding? base).any Variable.fixed then
      if extended then
        complain "unset" (x ++ ": cannot unset: readonly variable")
        status := 1
      else wrong "unset" (x ++ ": is read only") 2
    else
      match subscript with
      | some t => if extended then unsetItem base t
      | none =>
        if extended && !hasOption os 'v' && (s.binding? x).isNone then drop
        else modify fun s => s.put (s.referent 8 x) none
  return status

def shift (ws : List String) : Act Nat := do
  let s ← get
  let n ← match ws.head? with
    | none => pure 1
    | some w =>
      if s.extended then
        match number? true w with
        | some n =>
          if n < 0 then wrong "shift" (w ++ ": shift count out of range") 1
          pure n.toNat
        | none => wrong "shift" (w ++ ": numeric argument required") 1
      else demandCount "shift" w
  if s.arguments.length < n then
    if s.extended then return 1
    wrong "shift" "can't shift that many" 2
  modify ({ · with arguments := s.arguments.drop n })
  return 0

/-- Makes a variable part of the function that runs; in the plain dialect it keeps its value. -/
def cover (name : String) : Act Unit :=
  modify fun s =>
    match s.covered with
    | [] => s
    | frame :: frames =>
      if (frame.lookup name).isSome then s
      else
        let old := s.bindings.lookup name
        let s := { s with covered := ((name, old) :: frame) :: frames }
        if s.extended then s.put name (some {}) else s

def attributed (added removed : List Char) (v : Variable) : Variable :=
  let flag (c : Char) (old : Bool) : Bool := (old || added.contains c) && !removed.contains c
  let value : Option Value :=
    if added.contains 'A' then
      match v.value with
      | some (.table items) => some (.table items)
      | some (.text t) => some (.table [("0", t)])
      | _ => some (.table [])
    else if added.contains 'a' then
      match v.value with
      | none => some (.row [])
      | some (.text t) => some (.row [(0, t)])
      | value => value
    else v.value
  { v with
    value, exported := flag 'x' v.exported, fixed := flag 'r' v.fixed, integer := flag 'i' v.integer
    reference := flag 'n' v.reference
    change :=
      if added.contains 'u' then some .upper
      else if added.contains 'l' then some .lower
      else if removed.contains 'u' || removed.contains 'l' then none else v.change }

def signedOptions : List String → List Char × List Char × List String
  | [] => ([], [], [])
  | w :: ws =>
    match w.toList with
    | ['-', '-'] => ([], [], ws)
    | '-' :: c :: cs => let (a, b, r) := signedOptions ws; (c :: cs ++ a, b, r)
    | '+' :: c :: cs => let (a, b, r) := signedOptions ws; (a, c :: cs ++ b, r)
    | _ => ([], [], w :: ws)

def showDeclared (command : String) (names : List String) (p : Variable → Bool) : Act Nat := do
  let s ← get
  if names = [] then
    showMarked command p
    return 0
  let mut status := 0
  for x in names do
    match s.binding? x with
    | some v => Act.print (declared s x v)
    | none =>
      complain command (x ++ ": not found")
      status := 1
  return status

/-- Gives variables attributes and values; inside a function they become part of it. -/
def declare (command : String) (ws : List String) : Act Nat := do
  let s ← get
  let (added, removed, names) := signedOptions ws
  match (added ++ removed).find? fun c => !"aAfFgiIlnprtux".toList.contains c with
  | some c => wrong command ("-" ++ String.singleton c ++ ": invalid option") 2
  | none => pure ()
  if command = "local" ∧ s.covered = [] then
    wrong command "can only be used in a function" 1
  if added.contains 'f' || added.contains 'F' then
    let mut status := 0
    for x in if names = [] then s.functions.map Prod.fst else names do
      if (s.functions.lookup x).isNone then status := 1
      else if added.contains 'F' then
        Act.print ((if names = [] then "declare -f " else "") ++ x ++ "\n")
    return status
  if added.contains 'p' then
    return ← showDeclared command names fun v => added.all fun c =>
      c = 'p' || (Worker.attributes v).toList.contains c
  if names = [] then
    if added = [] then
      if command ≠ "local" then showVariables
    else showMarked command fun v => added.all fun c => (Worker.attributes v).toList.contains c
    return 0
  let mut status := 0
  for w in names do
    let (name, plus, value) := assigned true w
    let (x, subscript) := subscripted name
    if ← checkName command x w then
      if s.covered ≠ [] && !added.contains 'g' then cover x
      let fixed := ((← get).bindings.lookup x).any Variable.fixed
      if fixed && (removed.contains 'r' || value.isSome) then
        Act.report (x ++ ": readonly variable")
        status := 1
      else
        let early := added.filter (· ≠ 'r')
        let apply (a b : List Char) : Act Unit :=
          modify fun s =>
            let y := if added.contains 'n' || removed.contains 'n' then x else s.referent 8 x
            s.put y (some (attributed a b ((s.bindings.lookup y).getD {})))
        let referring := added.contains 'n'
        apply (if referring then early.filter (· ≠ 'n') else early) removed
        match value with
        | some v => if !(← Act.store Act.calculate x subscript plus v) then status := 1
        | none => pure ()
        if referring then apply ['n'] []
        if added.contains 'r' then apply ['r'] []
    else status := 1
  return status

def localize (ws : List String) : Act Nat := do
  if (← get).extended then return ← declare "local" ws
  if (← get).covered = [] then wrong "local" "not in a function" 2
  for w in ws do
    let (name, _, value) := assigned false w
    if name ≠ "-" then
      let _ ← checkName "local" name w
      cover name
      if let some v := value then Act.assign name v
  return 0

def calculateAll (ws : List String) : Act Nat := do
  if ws = [] then wrong "let" "expression expected" 1
  let mut last : Int := 0
  for w in ws do
    last ← tryCatch (Act.calculate w) fun e =>
      if e = .discard then throw (.fault 1) else throw e
  return if last = 0 then 1 else 0

/-- Reads a line up to a mark; a backslash joins the next line to it and takes the meaning of a
character, unless all is taken as it is.  Each letter comes with whether a backslash stood before
it. -/
def readLetters (stream : Nat) (stop : Char) (raw : Bool) : Nat → Act (List Letter × Bool)
  | 0 => return ([], false)
  | n + 1 => do
    let (l, ended) ← Act.readTo stop stream
    let l := l.filter (· ≠ '\x00')
    if raw then return (l.map (·, false), ended)
    let rec letters : List Char → List Letter × Bool
      | [] => ([], false)
      | ['\\'] => ([], true)
      | '\\' :: '\n' :: s => letters s
      | '\\' :: c :: s => let (t, joins) := letters s; ((c, true) :: t, joins)
      | c :: s => let (t, joins) := letters s; ((c, false) :: t, joins)
    let (t, joins) := letters l
    if joins && ended then
      let between : List Letter := if stop = '\n' then [] else [(stop, true)]
      let (more, ended) ← readLetters stream stop raw n
      return (t ++ between ++ more, ended)
    return (t, ended)

/-- Shares letters out to names: one field each, and the rest to the last name. -/
def share (separators : List Char) : List String → List Letter → List (String × String)
  | [], _ => []
  | [x], s =>
    let isBlank (l : Letter) : Bool := !l.2 && separators.contains l.1 && isGap l.1
    let ends (l : Letter) : Bool := !l.2 && separators.contains l.1
    let trim (s : List Letter) : List Letter := (s.reverse.dropWhile isBlank).reverse
    let s := trim (s.dropWhile isBlank)
    -- One separator at the end that ends the only field is dropped.
    let field := s.takeWhile (!ends ·)
    let s := match (s.drop field.length).dropWhile isBlank with
      | [l] => if ends l && !isBlank l then trim field else s
      | _ => s
    [(x, String.ofList (s.map Prod.fst))]
  | x :: xs, s =>
    let isBlank (l : Letter) : Bool := !l.2 && separators.contains l.1 && isGap l.1
    let ends (l : Letter) : Bool := !l.2 && separators.contains l.1
    let s := s.dropWhile isBlank
    let r := (s.dropWhile (!ends ·)).dropWhile isBlank
    let r := match r with
      | l :: r => if ends l then r else l :: r
      | [] => []
    (x, String.ofList ((s.takeWhile (!ends ·)).map Prod.fst)) :: share separators xs r

def fieldsIn (separators : List Char) (s : List Letter) : List String :=
  let marks := s.map fun (c, quoted) => Mark.letter c quoted (!quoted)
  (Mark.split separators none false marks).map Glob.text

def putRow (name : String) (values : List String) : Act Unit :=
  modify fun s =>
    let v := (s.binding? name).getD {}
    let items := values.zipIdx.map fun (t, n) => (n, t)
    s.put (s.referent 8 name) (some { v with value := some (.row items) })

/-- Reads a line into variables. -/
def read (ws : List String) : Act Nat := do
  let s ← get
  let (os, names) ← options "read" (if s.extended then "ra:d:n:N:p:t:u:sei:" else "rp:") ws
  if names = [] ∧ !s.extended then wrong "read" "arg count" 2
  for x in names do
    if !(← checkName "read" (subscripted x).1 x) then return 1
  let stream := ((argumentOf? os 'u').bind String.toNat?).getD 0
  if (s.stream? stream).isNone ∧ (s.extended ∨ stream = 0) then
    if s.extended then
      let text := if stream = 0 then "read error: 0" else toString stream ++ ": invalid file descriptor"
      wrong "read" (text ++ ": Bad file descriptor") 1
    for x in names do Act.assign x ""
    return 1
  let stop := match (argumentOf? os 'd').map String.toList with
    | some (c :: _) => c
    | some [] => '\x00'
    | none => '\n'
  let raw := hasOption os 'r'
  let whole? := (argumentOf? os 'N').bind String.toNat?
  let most? := whole?.or ((argumentOf? os 'n').bind String.toNat?)
  let (letters, ended) ← match most? with
    | none => readLetters stream stop raw 1000
    | some n => do
      let t := ((← Act.left? stream).getD []).take n
      let line := if whole?.isSome then t else t.takeWhile (· ≠ stop)
      let stopped : Bool := line.length < t.length
      Act.skip stream (line.length + if stopped then 1 else 0)
      pure (line.map (·, false), stopped || line.length = n)
  let separators := if whole?.isSome then [] else s.separators
  match argumentOf? os 'a' with
  | some x => putRow x (fieldsIn separators letters)
  | none =>
    let mut fine := true
    if names = [] then
      fine ← Act.store Act.calculate "REPLY" none false (String.ofList (letters.map Prod.fst))
    else
      for (x, v) in share separators names letters do
        if !(← storeNamed x false v) then fine := false
    if !fine then return 1
  return if ended then 0 else 1

/-- Reads lines into a row. -/
def readRow (command : String) (ws : List String) : Act Nat := do
  let (os, names) ← options command "td:n:O:s:u:C:c:" ws
  let stream := ((argumentOf? os 'u').bind String.toNat?).getD 0
  let stop := match (argumentOf? os 'd').map String.toList with
    | some (c :: _) => c
    | some [] => '\x00'
    | none => '\n'
  let text ← Act.readAll stream
  let parts := text.splitOn stop
  let (full, last) := (parts.dropLast, parts.getLast?.getD [])
  let lines := full.map (fun l => if hasOption os 't' then l else l ++ [stop]) ++
    if last = [] then [] else [last]
  let lines := lines.drop (((argumentOf? os 's').bind String.toNat?).getD 0)
  let lines := match (argumentOf? os 'n').bind String.toNat? with
    | some (n + 1) => lines.take (n + 1)
    | _ => lines
  let name := names.head?.getD "MAPFILE"
  let origin := ((argumentOf? os 'O').bind String.toNat?).getD 0
  let items := lines.zipIdx.map fun (l, n) => (n + origin, String.ofList l)
  modify fun s => s.put (s.referent 8 name) (some
    { ((s.binding? name).getD {}) with value := some (.row items) })
  return 0

/-- Takes the next option from the arguments, or from the words given instead of them.  The number
of the word to look at next is a variable; how far a word was looked at is kept beside it. -/
def nextOption (ws : List String) : Act Nat := do
  match ws with
  | letters :: name :: given =>
    let s ← get
    let words := if given = [] then s.arguments else given
    let index := s.optionIndex
    let offset := if index ≤ 1 then 0 else s.optionOffset
    let inside := ((words[index - 2]?).map fun w => w.toList.drop offset).getD []
    let (rest, index) : List Char × Nat :=
      if offset ≠ 0 && inside ≠ [] then (inside, index)
      else
        match (words[index - 1]?).map String.toList with
        | some ['-', '-'] => ([], index + 1)
        | some ('-' :: c :: cs) => (c :: cs, index + 1)
        | _ => ([], index)
    let silent : Bool := letters.toList.head? = some ':'
    let say (plain extended : String) (c : Char) : Act Unit := do
      if s.extended then
        if (s.value? "OPTERR") ≠ some "0" then
          Act.complain (s.name ++ ": " ++ extended ++ " -- " ++ String.singleton c)
      else Act.complain (plain ++ " -" ++ String.singleton c ++
        if plain = "No arg for" then " option" else "")
    let put (x v : String) : Act Unit := do
      let _ ← Act.store Act.calculate x none false v
    let close (found : Char) (index offset status : Nat) : Act Nat := do
      put "OPTIND" (toString index)
      modify ({ · with optionOffset := offset })
      if !(← checkName "getopts" name name) then return 1
      put name (String.singleton found)
      return status
    match rest with
    | [] => close '?' index 0 1
    | c :: more =>
      let word := (words[index - 2]?).getD ""
      let offset := if more = [] then 0 else word.length - more.length
      match letters.toList.dropWhile (· ≠ c), c with
      | [], _ | _, ':' =>
        if silent then put "OPTARG" (String.singleton c)
        else
          modify (·.put "OPTARG" none)
          say "Illegal option" "illegal option" c
        close '?' index offset 0
      | _ :: ':' :: _, _ =>
        if more ≠ [] then
          put "OPTARG" (String.ofList more)
          close c index 0 0
        else
          match words[index - 1]? with
          | some w =>
            put "OPTARG" w
            close c (index + 1) 0 0
          | none =>
            if silent then
              put "OPTARG" (String.singleton c)
              close ':' index 0 0
            else
              modify (·.put "OPTARG" none)
              say "No arg for" "option requires an argument" c
              close '?' index 0 0
      | _, _ =>
        put "OPTARG" ""
        close c index offset 0
  | _ =>
    if (← get).extended then
      Act.complain "getopts: usage: getopts optstring name [arg ...]"
      return 2
    wrong "getopts" "Usage: getopts optstring var [arg...]" 2

end Builtin

end InlineRemote.Shell
