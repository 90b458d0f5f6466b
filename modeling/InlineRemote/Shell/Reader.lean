import InlineRemote.Shell.Reader.Braces

/-! # Reading shell scripts

A script is read one line at a time, so that the commands before a mistake still run.  Readers that
call each other take an amount that bounds how deep they nest, for which `enough` suffices. -/
namespace InlineRemote.Shell

namespace Reading

def assignment? (extended : Bool) : List Piece → Option Assignment
  | .text s false :: ps =>
    let name := s.takeWhile (fun c => c ≠ '=' && c ≠ '+')
    let value (v : List Char) : List Piece := if v = [] then ps else .text v false :: ps
    if !isName name then none
    else
      match s.drop name.length with
      | '=' :: v => some (.mk (String.ofList name) none false (value v))
      | '+' :: '=' :: v =>
        if extended then some (.mk (String.ofList name) none true (value v)) else none
      | _ => none
  | _ => none

def functionName? (extended : Bool) : List Piece → Option String
  | [.text s false] =>
    let w := String.ofList s
    if extended then if s.all fun c => !(['$', '\x60', '='].contains c) then some w else none
    else if isName s && !specialBuiltins.contains w then some w else none
  | _ => none

def streamDigits (s : Source) : List Char :=
  let ds := s.rest.takeWhile Char.isDigit
  let ds := if s.extended then ds else s.rest.take 1 |>.filter Char.isDigit
  match s.rest.drop ds.length with
  | '<' :: _ | '>' :: _ => ds
  | _ => []

def streamHolder? (s : Source) : Option (String × List Char) :=
  match s.extended, s.rest with
  | true, '{' :: r =>
    let name := r.takeWhile isNameChar
    match r.drop name.length with
    | '}' :: c :: r =>
      if isName name && (c = '<' || c = '>') then some (String.ofList name, c :: r) else none
    | _ => none
  | _, _ => none

def startsStream (s : Source) : Bool :=
  match s.rest with
  | c :: '(' :: _ => s.extended && (c = '<' || c = '>')
  | _ => false

def startsRedirect (s : Source) : Bool :=
  if startsStream s then false
  else
    match unjoined (s.rest.drop (streamDigits s).length) with
    | '<' :: _ | '>' :: _ => true
    | '&' :: '>' :: _ => s.extended
    | _ => (streamHolder? s).isSome

def startsWord (s : Source) : Bool :=
  match s.rest with
  | [] => false
  | c :: _ => !endsWord c || startsStream s

/-- How the body of a document is read. -/
inductive Body where
  | lines (tabs : Bool)
  /-- It is the next word. -/
  | word
  /-- There is none. -/
  | absent
  deriving DecidableEq

/-- The stream and the direction that a redirection starts with. -/
def direction : Reading (Nat × Option String × Direction × Body) := do
  let s ← get
  let ds := streamDigits s
  let holder := streamHolder? s
  goOn (match holder with
    | some (_, r) => r
    | none => s.rest.drop ds.length)
  let lead (usual : Nat) (d : Direction) (b : Body) :
      Reading (Nat × Option String × Direction × Body) :=
    return (if ds = [] then usual else Text.ofDigits 10 ds, holder.map Prod.fst, d, b)
  if s.extended && (← accept "&>>") then lead 1 (.all true) .absent
  else if s.extended && (← accept "&>") then lead 1 (.all false) .absent
  else if s.extended && (← accept "<<<") then lead 0 .document .word
  else if ← accept "<<-" then lead 0 .document (.lines true)
  else if ← accept "<<" then lead 0 .document (.lines false)
  else if ← accept "<&" then lead 0 (.copy true) .absent
  else if ← accept "<>" then lead 0 .both .absent
  else if ← accept "<" then lead 0 .input .absent
  else if ← accept ">>" then lead 1 .append .absent
  else if ← accept ">&" then lead 1 (.copy false) .absent
  else if ← accept ">|" then lead 1 (.output true) .absent
  else
    expect ">"
    lead 1 (.output false) .absent

def documentLines (tabs : Bool) (last : List Char) :
    List (List Char) → List Char × List (List Char)
  | [] => ([], [])
  | [[]] => ([], [])
  | l :: ls =>
    let l := if tabs then l.dropWhile (· = '\t') else l
    if l = last then ([], ls)
    else
      let (t, rest) := documentLines tabs last ls
      (l ++ '\n' :: t, rest)

def joinLines : List (List Char) → List (List Char)
  | [] => []
  | l :: ls =>
    match joinLines ls with
    | [] => [l]
    | next :: rest =>
      let slashes := (l.reverse.takeWhile (· = '\\')).length
      if slashes % 2 = 1 then (l.dropLast ++ next) :: rest else l :: next :: rest

def takeDocument (tabs quoted : Bool) (last : List Char) : Reading (List Char) := do
  let s ← rest
  let here := s.takeWhile (· ≠ '\n')
  match s.dropWhile (· ≠ '\n') with
  | [] => return []
  | _ :: below =>
    let ls := below.splitOn '\n'
    let (t, left) := documentLines tabs last (if quoted then ls else joinLines ls)
    goOn (here ++ '\n' :: ['\n'].intercalate left)
    return t

def after (before : Option Command) (c : Command) : Command :=
  match before with
  | none => c
  | some b => .sequence b c

def wordIn (script : Reading Command) (n : Nat) (x : Setting) : Reading (List Piece) := do
  toToken false
  if startsWord (← get) || (x ≠ .word && (← rest) ≠ []) then pieces script n x else failure

/-- The values of a row, up to the parenthesis that closes it. -/
def items (script : Reading Command) : Nat → Reading (List Item)
  | 0 => failure
  | n + 1 => do
    toToken true
    if ← accept ")" then return []
    let keyed : Reading (List Item) := do
      expect "["
      match bracketed 0 (← rest) with
      | none => failure
      | some (t, r) =>
        goOn r
        let key ← whole t (pieces script n .free)
        let added ← accept "+="
        if !added then expect "="
        let v ← pieces script n .word
        return [.mk (some key) added v]
    let plain : Reading (List Item) := do
      let w ← wordIn script n .word
      return (braceWords w).map fun w => .mk none false w
    let first ← orElse keyed plain
    return first ++ (← items script n)

def assigned (script : Reading Command) (n : Nat) : Reading (List Piece) := do
  if (← extended) && (← accept "(") then return [.row (← items script n)]
  match ← get with
  | s => if startsWord s then pieces script n .word else return []

/-- An assignment that a word cannot hold: to one value of a row, or of a row. -/
def rowAssignment (script : Reading Command) (n : Nat) : Reading Assignment := do
  if !(← extended) then failure
  let s ← rest
  let name := s.takeWhile isNameChar
  if !isName name then failure
  let close (subscript : Option (List Piece)) : Reading Assignment := do
    let added ← accept "+="
    if !added then expect "="
    if subscript.isNone && !(← rest).head? = some '(' then failure
    return .mk (String.ofList name) subscript added (← assigned script n)
  match s.drop name.length with
  | '[' :: r =>
    match bracketed 0 r with
    | none => failure
    | some (t, r) =>
      goOn r
      close (some (← whole t (pieces script n .free)))
  | r =>
    goOn r
    close none

def redirect (script : Reading Command) (n : Nat) : Reading Redirect := do
  let (stream, holder, d, body) ← direction
  let w ← wordIn script n .word
  match d, body with
  | .document, .word => return .mk stream holder d (w ++ [.text ['\n'] true])
  | .document, .lines tabs =>
    let t ← takeDocument tabs (hasQuotes w) (letters w)
    if hasQuotes w then return .mk stream holder d [.text t true]
    return .mk stream holder d (← whole t (pieces script n .document))
  | _, _ => return .mk stream holder d w

def redirects (script : Reading Command) : Nat → Reading (List Redirect)
  | 0 => failure
  | n + 1 => do
    toToken false
    if startsRedirect (← get) then
      let r ← redirect script n
      return r :: (← redirects script n)
    else return []

def loopWords (script : Reading Command) : Nat → Reading (List (List Piece))
  | 0 => failure
  | n + 1 => do
    toToken false
    let s ← get
    match s.rest with
    | '\n' :: r => goOn r; return []
    | ';' :: r => if r.head? = some ';' then failure else goOn r; return []
    | _ =>
      if startsRedirect s then failure
      let w ← wordIn script n .word
      let ws := if s.extended then braceWords w else [w]
      return ws ++ (← loopWords script n)

def patterns (script : Reading Command) : Nat → Reading (List (List Piece))
  | 0 => failure
  | n + 1 => do
    let w ← wordIn script n .word
    toToken false
    if ← accept "|" then return w :: (← patterns script n)
    expect ")"
    return [w]

def unaryTests : List String :=
  ["-a", "-b", "-c", "-d", "-e", "-f", "-g", "-h", "-k", "-n", "-o", "-p", "-r", "-s", "-t", "-u",
    "-v", "-w", "-x", "-z", "-G", "-L", "-N", "-O", "-R", "-S"]

def binaryTests : List String :=
  ["==", "=~", "=", "!=", "-eq", "-ne", "-lt", "-le", "-gt", "-ge", "-nt", "-ot", "-ef", "<", ">"]

def bareWord (s : List Char) : String × List Char :=
  let (w, r) := span (!endsWord ·) s
  (String.ofList w, r)

mutual

def eitherTest (script : Reading Command) : Nat → Reading Condition
  | 0 => failure
  | n + 1 => do
    let a ← bothTest script n
    toToken true
    if ← accept "||" then return .either a (← eitherTest script n)
    return a

def bothTest (script : Reading Command) : Nat → Reading Condition
  | 0 => failure
  | n + 1 => do
    let a ← oneTest script n
    toToken true
    if ← accept "&&" then return .both a (← bothTest script n)
    return a

/-- A test of one or two words, or one in parentheses, maybe negated. -/
def oneTest (script : Reading Command) : Nat → Reading Condition
  | 0 => failure
  | n + 1 => do
    toToken true
    let (w, r) := bareWord (← rest)
    if w = "!" then
      goOn r
      return .not (← oneTest script n)
    else if ← accept "(" then
      let c ← eitherTest script n
      toToken true
      expect ")"
      return c
    else
      let unary : Reading Condition := do
        if !unaryTests.contains w then failure
        goOn r
        let v ← wordIn script n .word
        toToken true
        let (op, _) := bareWord (← rest)
        if binaryTests.contains op || (← rest).head? = some '<' || (← rest).head? = some '>' then
          failure
        return .unary w v
      let binary : Reading Condition := do
        if w = "]]" then failure
        let a ← wordIn script n .word
        toToken true
        if ← accept "<" then return .binary "<" a (← wordIn script n .word)
        else if ← accept ">" then return .binary ">" a (← wordIn script n .word)
        else
          let (op, r) := bareWord (← rest)
          if binaryTests.contains op then
            goOn r
            toToken false
            let groups := (← get).groups
            modify ({ · with groups := true })
            let b ← pieces script n (if op = "=~" then .expression 0 else .word)
            modify ({ · with groups })
            return .binary op a b
          else return .unary "-n" a
      orElse unary binary

end

def condition (script : Reading Command) (n line : Nat) : Reading Command := do
  let c ← eitherTest script n
  toToken true
  expectWord "]]"
  return .condition line c

mutual

/-- The rest of a simple command: assignments, words and redirections. -/
def simple : Nat → Nat → List Assignment → List (List Piece) → List Redirect → Reading Command
  | 0, _, _, _, _ => failure
  | n + 1, line, assignments, words, rs => do
    toToken false
    let s ← get
    let script := compound n true
    if startsRedirect s then
      simple n line assignments words (rs ++ [← redirect script n])
    else if startsWord s then
      let opened ← if words = [] then openAlias else openNextAlias
      if opened then
        if words = [] && assignments.isEmpty && rs.isEmpty then return ← command n
        return ← simple n line assignments words rs
      let declares : Bool := words.head?.any fun w =>
        ["declare", "export", "local", "readonly", "typeset"].contains (String.ofList (letters w))
      if words = [] then
        match (rowAssignment script n).run s with
        | .ok (a, t) =>
          set t
          return ← simple n line (assignments ++ [a]) [] rs
        | .error _ => pure ()
      if declares then
        match (rowAssignment script n).run s with
        | .ok (.mk name none added [.row l], t) =>
          set t
          let sign := if added then ['+', '='] else ['=']
          return ← simple n line assignments
            (words ++ [[.text (name.toList ++ sign) false, .row l]]) rs
        | _ => pure ()
      let w ← wordIn script n .word
      match words, assignment? s.extended w with
      | [], some a => simple n line (assignments ++ [a]) [] rs
      | _, a? =>
        let ws := if s.extended && a?.isNone then braceWords w else [w]
        simple n line assignments (words ++ ws) rs
    else
      match s.rest, assignments, words, rs with
      | '(' :: r, [], [w], [] =>
        goOn r
        toToken false
        expect ")"
        match functionName? s.extended w with
        | none => failure
        | some name =>
          toToken true
          return .definition name (← body n)
      | _, [], [], [] => failure
      | _, _, _, _ => return .simple line assignments words rs

def arms : Nat → Reading (List (List (List Piece) × Command × ArmEnd))
  | 0 => failure
  | n + 1 => do
    toToken true
    if ← acceptWord "esac" then return []
    let _ ← accept "("
    let ps ← patterns (compound n true) n
    let body ← compound n true
    if ← acceptWord "esac" then return [(ps, body, .leave)]
    if (← extended) && (← accept ";;&") then return (ps, body, .retry) :: (← arms n)
    else if (← extended) && (← accept ";&") then return (ps, body, .fall) :: (← arms n)
    else
      expect ";;"
      return (ps, body, .leave) :: (← arms n)

def conditional : Nat → Reading Command
  | 0 => failure
  | n + 1 => do
    let test ← compound n false
    expectWord "then"
    let yes ← compound n false
    if ← acceptWord "elif" then return .conditional test yes (← conditional n)
    else if ← acceptWord "else" then
      let no ← compound n false
      expectWord "fi"
      return .conditional test yes no
    else
      expectWord "fi"
      return .conditional test yes .nothing

def loopBody : Nat → Reading Command
  | 0 => failure
  | n + 1 => do
    let close ← if ← acceptWord "do" then pure "done"
      else if (← extended) && (← acceptWord "\x7b") then pure "\x7d"
      else failure
    let body ← compound n false
    expectWord close
    return body

/-- What follows `for` or `select`. -/
def each : Nat → Bool → Reading Command
  | 0, _ => failure
  | n + 1, choosing => do
    toToken false
    let s ← get
    let script := compound n true
    if s.extended && (← accept "((") then
      let line := s.line
      let start ← pieces script n (.stage 0)
      expect ";"
      let test ← pieces script n (.stage 0)
      expect ";"
      let step ← pieces script n (.sum 0)
      expect "))"
      toToken false
      let _ ← accept ";"
      toToken true
      return .counted line start test step (← loopBody n)
    let (name, r) := span (!endsWord ·) s.rest
    if name = [] || (!s.extended && !isName name) then failure
    goOn r
    toToken true
    if ← acceptWord "in" then
      let ws ← loopWords script n
      toToken true
      return .each choosing (String.ofList name) (some ws) (← loopBody n)
    else
      let _ ← accept ";"
      toToken true
      return .each choosing (String.ofList name) none (← loopBody n)

def definition : Nat → Reading Command
  | 0 => failure
  | n + 1 => do
    toToken false
    let (name, r) := span (!endsWord ·) (← rest)
    if name = [] then failure
    goOn r
    toToken false
    if ← accept "(" then
      toToken false
      expect ")"
    toToken true
    return .definition (String.ofList name) (← body n)

def body : Nat → Reading Command
  | 0 => failure
  | n + 1 => do
    match ← command n with
    | .simple line assignments words rs =>
      if ← extended then failure else return .simple line assignments words rs
    | c => return c

/-- A command. -/
def command : Nat → Reading Command
  | 0 => failure
  | n + 1 => do
    toToken false
    let s ← get
    let script := compound n true
    let body? : Option (Reading Command) :=
      match reserved? s, unjoined s.rest with
      | some (w, r), _ =>
        some do
          goOn r
          match w with
          | "if" => conditional n
          | "while" => do
            let test ← compound n false
            return .loop true test (← loopBody n)
          | "until" => do
            let test ← compound n false
            return .loop false test (← loopBody n)
          | "for" => each n false
          | "select" => each n true
          | "function" => definition n
          | "[[" => condition script n s.line
          | "case" => do
            let subject ← wordIn script n .word
            toToken true
            expectWord "in"
            return .choice subject (← arms n)
          | "\x7b" => do
            let body ← compound n false
            expectWord "\x7d"
            return .redirected body []
          | _ => failure
      | none, '(' :: _ =>
        let subshell : Reading Command := do
          expect "("
          let body ← compound n false
          expect ")"
          return .subshell body
        let calculation : Reading Command := do
          if !s.extended then failure
          expect "(("
          let e ← pieces script n (.sum 0)
          expect "))"
          return .calculation s.line e
        some (orElse calculation subshell)
      | none, _ => none
    match body? with
    | none => simple n s.line [] [] []
    | some body =>
      match ← body with
      | .definition name c => return .definition name c
      | c =>
        match ← redirects script n with
        | [] => return c
        | rs => return .redirected c rs

def parts : Nat → Reading (List (Command × Bool))
  | 0 => failure
  | n + 1 => do
    let c ← command n
    toToken false
    match unjoined (← rest) with
    | '|' :: r =>
      if (unjoined r).head? = some '|' then return [(c, false)]
      goOn r
      let along ← if ← extended then accept "&" else pure false
      toToken true
      return (c, along) :: (← parts n)
    | _ => return [(c, false)]

/-- A pipeline, maybe negated or timed. -/
def pipeline : Nat → Reading Command
  | 0 => failure
  | n + 1 => do
    toToken false
    let ends (s : Source) : Bool :=
      (s.rest.head?.all fun c => ['\n', ';', '&', ')'].contains c) || (strip? ['|', '|'] s.rest).isSome
    if ← acceptWord "!" then
      toToken false
      if (← extended) && ends (← get) then return .negated .nothing
      if ← extended then return .negated (← pipeline n)
      let c := match ← parts n with
        | [(c, _)] => c
        | cs => .pipeline cs
      return .negated c
    else if (← extended) && (← acceptWord "time") then
      toToken false
      let (w, r) := bareWord (← rest)
      if w = "-p" then goOn r
      toToken false
      if ends (← get) then return .timed .nothing
      return .timed (← pipeline n)
    else
      match ← parts n with
      | [(c, _)] => return c
      | cs => return .pipeline cs

def chain : Nat → Command → Reading Command
  | 0, _ => failure
  | n + 1, c => do
    toToken false
    if ← accept "&&" then
      toToken true
      chain n (.both c (← pipeline n))
    else if ← accept "||" then
      toToken true
      chain n (.either c (← pipeline n))
    else return c

/-- The commands of a list, after those before them: up to the end of a line, or of the list if it
stands inside a command. -/
def list : Nat → Bool → Option Command → Reading Command
  | 0, _, _ => failure
  | n + 1, inside, before => do
    let c ← chain n (← pipeline n)
    let next (acc : Command) : Reading Command := do
      toToken inside
      let s ← get
      if inside && stops s then return acc
      else if !inside && s.rest = [] then return acc
      else if !inside && s.rest.head? = some '\n' then goOn (s.rest.drop 1); return acc
      else list n inside (some acc)
    match unjoined (← rest) with
    | [] => return after before c
    | '\n' :: r => if inside then next (after before c) else goOn r; return after before c
    | '&' :: r => goOn r; next (after before (.background c))
    | ';' :: r =>
      if inside && stops (← get) then return after before c
      else if r.head? ≠ some ';' then goOn r; next (after before c)
      else failure
    | _ => if inside then return after before c else failure

def compound : Nat → Bool → Reading Command
  | 0, _ => failure
  | n + 1, mayBeEmpty => do
    toToken true
    if mayBeEmpty && stops (← get) then return .nothing
    list n true none

end

def enough (s : List Char) : Nat :=
  10 * s.length + 100

end Reading

/-- What a script starts with. -/
inductive Line where
  | ended
  | mistaken (m : Mistake)
  | command (c : Command) (rest : Source)

def nextLine (s : Source) : Line :=
  let s := { s with rest := Reading.gap true false s.rest }
  match s.rest with
  | [] => .ended
  | text =>
    let amount := Reading.enough (text ++ s.aliases.flatMap fun (_, t) => t.toList)
    match (Reading.list amount false none).run s with
    | .ok (c, r) => .command c r
    | .error m => .mistaken m

end InlineRemote.Shell
