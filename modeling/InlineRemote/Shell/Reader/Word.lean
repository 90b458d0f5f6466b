import InlineRemote.Shell.Reader.Source

/-! # Reading words

A word is read piece by piece.  What surrounds a text decides which characters end it, which have a
meaning, and from which of them a backslash takes it.  Scripts inside words are read by a reader
that is handed in, and an amount bounds how deep words nest. -/
namespace InlineRemote.Shell

namespace Reading

/-- What surrounds the text of a word, and ends it. -/
inductive Setting where
  | word
  | quotes
  | braces (quoted : Bool)
  /-- A pattern in braces, which a slash ends too. -/
  | slash
  /-- A group of patterns. -/
  | group
  /-- An arithmetic expression, with so many open parentheses. -/
  | sum (depth : Nat)
  /-- A part of a counted loop, with so many open parentheses, which a semicolon ends too. -/
  | stage (depth : Nat)
  /-- A regular expression, with so many open parentheses. -/
  | expression (depth : Nat)
  | document
  /-- A text that is a whole of its own. -/
  | free
  deriving DecidableEq

def Setting.isQuoted : Setting → Bool
  | quotes | sum _ | stage _ | document => true
  | braces quoted => quoted
  | _ => false

def Setting.isEnd : Setting → Char → List Char → Bool
  | word, c, _ => endsWord c
  | quotes, c, _ => c = '"'
  | braces _, c, _ => c = '}'
  | slash, c, _ => c = '}' || c = '/'
  | group, c, _ => c = ')'
  | sum depth, c, s => depth = 0 && c = ')' && s.head? = some ')'
  | stage depth, c, s => depth = 0 && (c = ';' || (c = ')' && s.head? = some ')'))
  | expression depth, c, _ => (depth = 0 && endsWord c && c ≠ '(' && c ≠ '|')
  | document, _, _ | free, _, _ => false

def Setting.mayRunOut : Setting → Bool
  | word | document | free | expression _ => true
  | _ => false

def Setting.keepsQuotes : Setting → Bool
  | sum _ | stage _ | document => true
  | _ => false

def Setting.escapes (x : Setting) (c : Char) : Bool :=
  !x.isQuoted || ['$', '\x60', '\\'].contains c || (c = '"' && !x.keepsQuotes) ||
    (c = '}' && x = braces true)

def Setting.past : Setting → Char → Setting
  | sum d, '(' => sum (d + 1)
  | sum d, ')' => sum (d - 1)
  | stage d, '(' => stage (d + 1)
  | stage d, ')' => stage (d - 1)
  | expression d, '(' => expression (d + 1)
  | expression d, ')' => expression (d - 1)
  | x, _ => x

def isDull (c : Char) : Bool :=
  isNameChar c || c = '.' || c = ','

def putText (s : List Char) (quoted : Bool) : List Piece → List Piece
  | .text t q :: ps =>
    if q = quoted then .text (s ++ t) q :: ps else .text s quoted :: .text t q :: ps
  | ps => .text s quoted :: ps

/-- Puts the pieces of a text in quotation marks in front of the pieces of a word. -/
def putQuoted (inner rest : List Piece) : List Piece :=
  match inner with
  | [] => putText [] true rest
  | [.text t true] => putText t true rest
  | _ => inner ++ rest

def isSign (c : Char) : Bool :=
  ['@', '*', '#', '?', '-', '$', '!'].contains c

def parameter? (s : List Char) : Option (String × List Char) :=
  match unjoined s with
  | [] => none
  | c :: s =>
    if startsName c then
      let (t, r) := span isNameChar s
      some (String.ofList (c :: t), r)
    else if c.isDigit then
      let (t, r) := span Char.isDigit s
      some (String.ofList (c :: t), r)
    else if isSign c then some (String.singleton c, s)
    else none

def backquoted (quoted : Bool) : List Char → Option (List Char × List Char)
  | [] => none
  | '\x60' :: s => some ([], s)
  | '\\' :: c :: s =>
    (backquoted quoted s).map fun (t, r) =>
      if ['$', '\x60', '\\'].contains c || (quoted && c = '"') then (c :: t, r)
      else ('\\' :: c :: t, r)
  | c :: s => (backquoted quoted s).map fun (t, r) => (c :: t, r)

def letters : List Piece → List Char
  | [] => []
  | .text s _ :: ps => s ++ letters ps
  | _ :: ps => letters ps

def hasQuotes : List Piece → Bool
  | [] => false
  | .text _ quoted :: ps => quoted || hasQuotes ps
  | _ :: ps => hasQuotes ps

/-- The pieces of a word before and after a character that stands in one of its texts. -/
def cutAt (c : Char) : List Piece → Option (List Piece × List Piece)
  | [] => none
  | .text s quoted :: ps =>
    match s.dropWhile (· ≠ c) with
    | [] => (cutAt c ps).map fun (a, b) => (.text s quoted :: a, b)
    | _ :: r => some ([.text (s.takeWhile (· ≠ c)) quoted], .text r quoted :: ps)
  | p :: ps => (cutAt c ps).map fun (a, b) => (p :: a, b)

def bracketed : Nat → List Char → Option (List Char × List Char)
  | _, [] => none
  | 0, ']' :: s => some ([], s)
  | d + 1, ']' :: s => (bracketed d s).map fun (t, r) => (']' :: t, r)
  | d, '[' :: s => (bracketed (d + 1) s).map fun (t, r) => ('[' :: t, r)
  | d, c :: s => (bracketed d s).map fun (t, r) => (c :: t, r)

def bytes (n : Nat) : List Char :=
  (String.singleton (Char.ofNat n)).toUTF8.toList.map fun b => Char.ofNat b.toNat

/-- The letters for an escape after a backslash in quotes with a dollar sign, and what follows. -/
def escape (c : Char) (s : List Char) : List Char × List Char :=
  let number (base most : Nat) (isDigit : Char → Bool) (s : List Char) : Nat × List Char :=
    let ds := (s.take most).takeWhile isDigit
    (Text.ofDigits base ds, s.drop ds.length)
  let coded (most : Nat) : List Char × List Char :=
    match number 16 most Text.isHexDigit s with
    | (n, r) => if r.length = s.length then (['\\', c], s) else (if most = 2 then
        [Char.ofNat n] else bytes n, r)
  match c with
  | 'a' => (['\x07'], s)
  | 'b' => (['\x08'], s)
  | 'e' | 'E' => (['\x1b'], s)
  | 'f' => (['\x0c'], s)
  | 'n' => (['\n'], s)
  | 'r' => (['\r'], s)
  | 't' => (['\t'], s)
  | 'v' => (['\x0b'], s)
  | '\\' | '\'' | '"' | '?' => ([c], s)
  | 'x' => coded 2
  | 'u' => coded 4
  | 'U' => coded 8
  | 'c' =>
    match s with
    | d :: r => ([Char.ofNat (d.toUpper.toNat % 32)], r)
    | [] => (['\\', c], s)
  | c =>
    if Text.isOctalDigit c then
      let (n, r) := number 8 3 Text.isOctalDigit (c :: s)
      ([Char.ofNat (n % 256)], r)
    else (['\\', c], s)

/-- The letters of a text in quotes with a dollar sign, and what follows the closing quote. -/
def escaped : Nat → List Char → Option (List Char × List Char)
  | 0, _ | _ + 1, [] => none
  | _ + 1, '\'' :: s => some ([], s)
  | n + 1, '\\' :: c :: s =>
    let (t, r) := escape c s
    (escaped n r).map fun (u, r) => (t ++ u, r)
  | n + 1, c :: s => (escaped n s).map fun (u, r) => (c :: u, r)

def untilZero (s : List Char) : List Char :=
  s.takeWhile (· ≠ '\x00')

def isClosed : Nat → List Char → Bool
  | _, [] => false
  | 0, ')' :: _ => true
  | d + 1, ')' :: s => isClosed d s
  | d, '(' :: s => isClosed (d + 1) s
  | d, _ :: s => isClosed d s

def inParentheses (script : Reading Command) : Reading Command := do
  let s ← get
  let closed : Reading Command := do
    expect "("
    let c ← script
    expect ")"
    return c
  match closed s with
  | .ok (c, t) =>
    set t
    return c
  | .error m => throw (if s.extended && isClosed 0 (s.rest.drop 1) then .within else m)

def readLater (t : List Char) : Command :=
  .simple 1 [] [[.text "eval".toList false], [.text t true]] []

mutual

/-- The pieces of a word up to the end that its setting asks for. -/
def pieces (script : Reading Command) : Nat → Setting → Reading (List Piece)
  | 0, _ => failure
  | n + 1, x => do
    match ← rest with
    | [] => if x.mayRunOut then return [] else failure
    | c :: s =>
      if (← extended) && (c = '<' || c = '>') && s.head? = some '(' && x = .word then
        goOn (s.drop 1)
        let body ← script
        expect ")"
        return .stream (c = '<') body :: (← pieces script n x)
      if x.isEnd c s then return []
      if c = ')' && x = .sum 0 && (← extended) then failure
      goOn s
      match c with
      | '\\' =>
        match s with
        | [] => return [.text ['\\'] x.isQuoted]
        | '\n' :: r => goOn r; pieces script n x
        | d :: r =>
          if x.escapes d then goOn r; return putText [d] true (← pieces script n x)
          else return putText ['\\'] x.isQuoted (← pieces script n x)
      | '\'' =>
        if x.isQuoted then return putText ['\''] true (← pieces script n x)
        match s.dropWhile (· ≠ '\'') with
        | [] => failure
        | _ :: r =>
          goOn r
          return putText (s.takeWhile (· ≠ '\'')) true (← pieces script n x)
      | '"' =>
        if x.keepsQuotes then
          if (← extended) && x ≠ .document then pieces script n x
          else return putText ['"'] true (← pieces script n x)
        else
          let inner ← pieces script n .quotes
          expect "\""
          return putQuoted inner (← pieces script n x)
      | '$' =>
        match s, (← extended) && !x.isQuoted with
        | '\'' :: r, true =>
          match escaped (r.length + 1) r with
          | none => failure
          | some (t, r) =>
            goOn r
            return putText (untilZero t) true (← pieces script n x)
        | '"' :: r, true =>
          goOn r
          let inner ← pieces script n .quotes
          expect "\""
          return putQuoted inner (← pieces script n x)
        | _, _ =>
          let p ← dollar script n x.isQuoted
          let more ← pieces script n x
          return match p with
            | .text t q => putText t q more
            | p => p :: more
      | '\x60' =>
        match backquoted x.isQuoted s with
        | none => failure
        | some (t, r) =>
          goOn r
          let c ← if ← extended then orElse (whole t script) (return readLater t) else whole t script
          return .output c x.isQuoted :: (← pieces script n x)
      | c =>
        let patterned : Bool := ['?', '*', '+', '@', '!'].contains c && s.head? = some '('
        if patterned && (← get).groups && !x.isQuoted then
          goOn (s.drop 1)
          let inner ← pieces script n .group
          expect ")"
          return putText [c, '('] false (inner ++ putText [')'] false (← pieces script n x))
        else if x = .group && c = '(' then
          let inner ← pieces script n .group
          expect ")"
          return putText ['('] false (inner ++ putText [')'] false (← pieces script n x))
        else if isDull c then
          goOn (s.dropWhile isDull)
          return putText (c :: s.takeWhile isDull) x.isQuoted (← pieces script n x)
        else return putText [c] x.isQuoted (← pieces script n (x.past c))

/-- What follows a dollar sign. -/
def dollar (script : Reading Command) : Nat → Bool → Reading Piece
  | 0, _ => failure
  | n + 1, quoted => do
    let substitution : Reading Piece := do
      return .output (← inParentheses script) quoted
    let sum : Reading Piece := do
      expect "(("
      let e ← pieces script n (.sum 0)
      expect "))"
      return .arithmetic e quoted
    let s ← rest
    if (strip? ['(', '('] s).isSome then
      if ← extended then orElse sum substitution else sum
    else if (strip? ['('] s).isSome then substitution
    else if ← accept "\x7b" then braced script n quoted
    else
      match unjoined s with
      | '[' :: r =>
        if !(← extended) then return .text ['$'] quoted
        match bracketed 0 r with
        | none => failure
        | some (t, r) =>
          goOn r
          return .arithmetic (← whole t (pieces script n .free)) quoted
      | c :: r =>
        if c.isDigit then
          goOn r
          return .parameter (String.singleton c) .whole .value quoted
        match parameter? s with
        | some (name, r) => goOn r; return .parameter name .whole .value quoted
        | none => return .text ['$'] quoted
      | [] => return .text ['$'] quoted

/-- Which of the values of a parameter a subscript after its name means. -/
def reach (script : Reading Command) : Nat → Reading Reach
  | 0 => failure
  | n + 1 => do
    match ← rest with
    | '[' :: s =>
      if !(← extended) then return .whole
      match bracketed 0 s with
      | none => failure
      | some (t, r) =>
        goOn r
        match t with
        | ['@'] => return .all false
        | ['*'] => return .all true
        | t => return .element (← whole t (pieces script n .free))
    | _ => return .whole

/-- What follows a dollar sign and a brace. -/
def braced (script : Reading Command) : Nat → Bool → Reading Piece
  | 0, _ => failure
  | n + 1, quoted => do
    let s ← rest
    let more ← extended
    let measured : Option (String × List Char) := do
      let '#' :: r := unjoined s | none
      let (name, r) ← parameter? r
      match unjoined r with
      | '}' :: _ => some (name, r)
      | '[' :: _ => if more then some (name, r) else none
      | _ => none
    let pointed : Option (String × List Char) := do
      let '!' :: r := unjoined s | none
      let (name, r) ← parameter? r
      if more && name ≠ "-" && name ≠ "?" then some (name, r) else none
    match measured, pointed, parameter? s with
    | some (name, r), _, _ =>
      goOn r
      let reached ← reach script n
      expect "\x7d"
      return .parameter name reached .length quoted
    | none, some (name, r), _ =>
      goOn r
      if ← accept "*\x7d" then return .parameter name (.names true) .value quoted
      else if ← accept "@\x7d" then return .parameter name (.names false) .value quoted
      else
        match ← reach script n with
        | .all joined =>
          expect "\x7d"
          return .parameter name (.keys joined) .value quoted
        | _ => use script n name .indirect quoted
    | none, none, none =>
      let _ ← pieces script n (.braces quoted)
      expect "\x7d"
      return .parameter "" .whole .unknown quoted
    | none, none, some (name, r) =>
      goOn r
      let reached ← reach script n
      use script n name reached quoted

/-- What follows a parameter in braces. -/
def use (script : Reading Command) : Nat → String → Reach → Bool → Reading Piece
  | 0, _, _, _ => failure
  | n + 1, name, reached, quoted => do
    let parameter (u : Use) : Piece := .parameter name reached u quoted
    let more ← extended
    let colon ← accept ":"
    let fallback (kind : Fallback) : Reading Piece := do
      let w ← pieces script n (.braces quoted)
      expect "\x7d"
      return parameter (.fallback kind colon w)
    let trimmed (atEnd longest : Bool) : Reading Piece := do
      let w ← pieces script n (.braces false)
      expect "\x7d"
      return parameter (.trimmed atEnd longest w)
    let replaced (which : Matches) : Reading Piece := do
      let pattern ← pieces script n .slash
      let w ← if ← accept "/" then pieces script n (.braces false) else pure []
      expect "\x7d"
      return parameter (.replaced which pattern w)
    let changed (how : LetterChange) (everywhere : Bool) : Reading Piece := do
      let w ← pieces script n (.braces false)
      expect "\x7d"
      return parameter (.changed how everywhere w)
    if !colon && (← accept "\x7d") then return parameter .value
    else if ← accept "-" then fallback .use
    else if ← accept "=" then fallback .assign
    else if ← accept "?" then fallback .demand
    else if ← accept "+" then fallback .instead
    else if !colon && (← accept "%%") then trimmed true true
    else if !colon && (← accept "%") then trimmed true false
    else if !colon && (← accept "##") then trimmed false true
    else if !colon && (← accept "#") then trimmed false false
    else if more && colon then
      let w ← pieces script n (.braces true)
      expect "\x7d"
      match cutAt ':' w with
      | none => return parameter (.part w none)
      | some (a, b) => return parameter (.part a (some b))
    else if more && (← accept "//") then replaced .every
    else if more && (← accept "/#") then replaced .atFront
    else if more && (← accept "/%") then replaced .atEnd
    else if more && (← accept "/") then replaced .first
    else if more && (← accept "^^") then changed .upper true
    else if more && (← accept "^") then changed .upper false
    else if more && (← accept ",,") then changed .lower true
    else if more && (← accept ",") then changed .lower false
    else if more && (← accept "~~") then changed .swap true
    else if more && (← accept "~") then changed .swap false
    else
      let form ← rest
      let w ← pieces script n (.braces quoted)
      expect "\x7d"
      match form, more with
      | '@' :: c :: '}' :: _, true => return parameter (.formed c)
      | _, _ =>
        let _ := w
        return parameter .unknown

end

end Reading

end InlineRemote.Shell
