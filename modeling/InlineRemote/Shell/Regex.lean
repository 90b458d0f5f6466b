import InlineRemote.Shell.Pattern
import InlineRemote.Text.Digits

/-! # Regular expressions

A regular expression fits a part of a text.  The leftmost part counts, and of those that start there
the longest.  Groups remember what they fitted.  The basic form writes groups and counts with
backslashes; the extended form writes them without. -/
namespace InlineRemote.Shell

/-- A regular expression. -/
inductive Regex where
  | empty
  | exactly (c : Char)
  | any
  | oneOf (inside : Bool) (ranges : List (Char × Char))
  /-- The start of the text, or of any line. -/
  | front
  /-- The end of the text, or of any line. -/
  | back
  /-- A place between characters, by whether words end before it and start after it. -/
  | edge (isEdge : Bool → Bool → Bool)
  | sequence (a b : Regex)
  | either (a b : Regex)
  /-- Any number of times, without a limit. -/
  | star (r : Regex)
  | group (n : Nat) (r : Regex)
  /-- What a group fitted, once more. -/
  | again (n : Nat)

namespace Regex

def isWordChar (c : Char) : Bool :=
  c.isAlphanum || c = '_'

def wordRanges : List (Char × Char) :=
  [('a', 'z'), ('A', 'Z'), ('0', '9'), ('_', '_')]

def spaceRanges : List (Char × Char) :=
  [('\t', '\r'), (' ', ' ')]

def inRow : List Regex → Regex
  | [] => empty
  | r :: rs => rs.foldl sequence r

def times (r : Regex) : Nat → Regex
  | 0 => empty
  | n + 1 => sequence r (times r n)

def upTo (r : Regex) : Nat → Regex
  | 0 => empty
  | n + 1 => either (sequence r (upTo r n)) empty

def counted (r : Regex) (least : Nat) (most : Option Nat) : Regex :=
  match most with
  | none => sequence (times r least) (star r)
  | some most => sequence (times r least) (upTo r (most - least))

def bounds? (closing : List Char) (s : List Char) : Option ((Nat × Option Nat) × List Char) :=
  let (a, r) := (s.takeWhile Char.isDigit, s.dropWhile Char.isDigit)
  let least := Text.ofDigits 10 a
  let close (most : Option Nat) (r : List Char) : Option ((Nat × Option Nat) × List Char) :=
    if closing.isPrefixOf r && (most.all fun m => least ≤ m) then
      some ((least, most), r.drop closing.length)
    else none
  match r with
  | ',' :: r =>
    match r.takeWhile Char.isDigit with
    | [] => close none r
    | b => close (some (Text.ofDigits 10 b)) (r.dropWhile Char.isDigit)
  | r => if a = [] then none else close (some least) r

def brackets (s : List Char) : Option (List (Char × Char) × List Char) :=
  (PatternPart.ranges (s.length + 1) true (s.map (·, false))).map fun (rs, r) =>
    (rs, r.map Prod.fst)

/-- How far an expression is read: what is left, how many groups were opened, and how many of them
are not closed yet. -/
structure Progress where
  left : List Char
  groups : Nat := 0
  depth : Nat := 0

abbrev Reading := StateT Progress Option

namespace Reading

def rest : Reading (List Char) := do
  return (← get).left

def goOn (s : List Char) : Reading Unit :=
  modify ({ · with left := s })

/-- What a letter after a backslash means in every form. -/
def escaped (c : Char) : Regex :=
  if c = 'w' then .oneOf true wordRanges
  else if c = 'W' then .oneOf false wordRanges
  else if c = 's' then .oneOf true spaceRanges
  else if c = 'S' then .oneOf false spaceRanges
  else if c = 'b' then .edge fun a b => a ≠ b
  else if c = 'B' then .edge fun a b => a = b
  else if c = '<' then .edge fun a b => !a && b
  else if c = '>' then .edge fun a b => a && !b
  else if c = '\x60' then .front
  else if c = '\'' then .back
  else if c = 'n' then .exactly '\n'
  else if c = 't' then .exactly '\t'
  else if '1' ≤ c ∧ c ≤ '9' then .again (c.toNat - 48)
  else .exactly c

def accept (extended : Bool) (c : Char) : Reading Bool := do
  match extended, ← rest with
  | true, d :: s => if c = d then goOn s; return true else return false
  | false, '\\' :: d :: s => if c = d then goOn s; return true else return false
  | _, _ => return false

def counts (extended : Bool) : Nat → Regex → Reading Regex
  | 0, r => return r
  | n + 1, r => do
    match ← rest with
    | '*' :: s => goOn s; counts extended n (.star r)
    | _ =>
      if ← accept extended '+' then counts extended n (.counted r 1 none)
      else if ← accept extended '?' then counts extended n (.counted r 0 (some 1))
      else
        let before ← rest
        if ← accept extended '{' then
          match bounds? (if extended then ['}'] else ['\\', '}']) (← rest) with
          | some ((least, most), s) =>
            goOn s
            counts extended n (.counted r least most)
          | none =>
            if !extended then failure
            goOn before
            return r
        else return r

mutual

def alternatives (extended : Bool) : Nat → Reading Regex
  | 0 => failure
  | n + 1 => do
    let a := inRow (← row extended n true)
    if ← accept extended '|' then return .either a (← alternatives extended n)
    return a

/-- Expressions in a row; the flag says that nothing stands before them. -/
def row (extended : Bool) : Nat → Bool → Reading (List Regex)
  | 0, _ => failure
  | n + 1, atStart => do
    let p ← get
    let ends : Bool :=
      match extended, p.left with
      | _, [] => true
      | true, '|' :: _ => true
      | true, ')' :: _ => p.depth ≠ 0
      | false, '\\' :: '|' :: _ | false, '\\' :: ')' :: _ => true
      | _, _ => false
    if ends then return []
    let a ← one extended n atStart
    let isFront := match a with
      | .front => true
      | _ => false
    return a :: (← row extended n (atStart && isFront && !extended))

/-- One expression with its counts. -/
def one (extended : Bool) : Nat → Bool → Reading Regex
  | 0, _ => failure
  | n + 1, atStart => do
    let counted (r : Regex) : Reading Regex := do
      counts extended ((← rest).length + 1) r
    if ← accept extended '(' then
      let p ← get
      set { p with groups := p.groups + 1, depth := p.depth + 1 }
      let r ← alternatives extended n
      if !(← accept extended ')') then failure
      modify fun q => { q with depth := p.depth }
      counted (.group (p.groups + 1) r)
    else
      match ← rest with
      | [] => return .empty
      | '\\' :: c :: s => goOn s; counted (escaped c)
      | ['\\'] => failure
      | '[' :: s =>
        let inside : Bool := s.head? ≠ some '^'
        match brackets (if inside then s else s.drop 1) with
        | none => failure
        | some (rs, r) => goOn r; counted (.oneOf inside rs)
      | '.' :: s => goOn s; counted .any
      | '^' :: s =>
        goOn s
        if extended || atStart then return .front else counted (.exactly '^')
      | '$' :: s =>
        goOn s
        let last : Bool := extended || s = [] || ['\\', ')'].isPrefixOf s || ['\\', '|'].isPrefixOf s
        if last then return .back else counted (.exactly '$')
      | '*' :: s =>
        goOn s
        if atStart || extended then counted (.exactly '*') else failure
      | c :: s => goOn s; counted (.exactly c)

end

end Reading

def ofText? (extended : Bool) (text : List Char) : Option Regex :=
  match (Reading.alternatives extended (4 * text.length + 8)).run { left := text } with
  | some (r, p) => if p.left = [] then some r else none
  | none => none

def ofLiteral : List Char → Regex
  | [] => empty
  | c :: s => sequence (exactly c) (ofLiteral s)

def repeats : Regex → Bool
  | sequence a b | either a b => a.repeats || b.repeats
  | star r | group _ r => r.repeats
  | again _ => true
  | _ => false

def groups : Regex → Nat
  | sequence a b | either a b => max a.groups b.groups
  | star r => r.groups
  | group n r => max n r.groups
  | _ => 0

/-- A place in a text: how much of it is before, the character before, what is left, and where the
groups fitted. -/
structure Spot where
  before : Nat
  previous : Option Char
  left : List Char
  fitted : List (Nat × Nat × Nat) := []

def Spot.next? (p : Spot) : Option (Char × Spot) :=
  match p.left with
  | [] => none
  | c :: s => some (c, { p with before := p.before + 1, previous := some c, left := s })

def Spot.skip (p : Spot) : Nat → Spot
  | 0 => p
  | n + 1 =>
    match p.next? with
    | none => p
    | some (_, q) => q.skip n

/-- How an expression is matched. -/
structure Manner where
  foldCase : Bool := false
  /-- Whether the start and the end of every line count as those of the text. -/
  lines : Bool := false
  /-- Whether places count as different if groups fitted differently. -/
  exact : Bool := false

def Manner.same (m : Manner) (c d : Char) : Bool :=
  c = d || (m.foldCase && c.toLower = d.toLower)

def Manner.agree (m : Manner) (p q : Spot) : Bool :=
  q.before = p.before && (!m.exact || q.fitted = p.fitted)

def Manner.distinct (m : Manner) (ps : List Spot) : List Spot :=
  (ps.foldl (fun found p => if found.any (m.agree p) then found else p :: found) []).reverse

def Manner.ordered (m : Manner) (ps : List Spot) : List Spot :=
  (m.distinct ps).mergeSort fun p q => q.before ≤ p.before

def Manner.turns (m : Manner) (step : Spot → List Spot) :
    Nat → List Spot → List Spot → List Spot
  | 0, found, _ => found
  | n + 1, found, new =>
    match (m.ordered (new.flatMap step)).filter fun p => !found.any (m.agree p) with
    | [] => found
    | next => turns m step n (found ++ next) next

def Manner.row (fits : Char → Bool) : Nat → Spot → List Spot
  | 0, p => [p]
  | n + 1, p =>
    match p.next? with
    | none => [p]
    | some (c, q) => if fits c then row fits n q ++ [p] else [p]

def fitsCharacter? (m : Manner) : Regex → Option (Char → Bool)
  | exactly c => some (m.same c)
  | any => some fun _ => true
  | oneOf inside rs => some fun c =>
    let cases := if m.foldCase then [c, c.toLower, c.toUpper] else [c]
    inside == cases.any fun c => rs.any fun (a, b) => a ≤ c && c ≤ b
  | _ => none

def Manner.past (m : Manner) : List Char → Spot → Option Spot
  | [], p => some p
  | c :: s, p =>
    match p.next? with
    | some (d, q) => if m.same c d then past m s q else none
    | none => none

/-- The spots after what fits an expression at a spot, the better ones first. -/
def spots (m : Manner) (text : List Char) : Regex → Spot → List Spot
  | empty, p => [p]
  | front, p =>
    if p.previous = none || (m.lines && p.previous = some '\n') then [p] else []
  | back, p => if p.left = [] || (m.lines && p.left.head? = some '\n') then [p] else []
  | edge isEdge, p =>
    if isEdge (p.previous.any isWordChar) (p.left.head?.any isWordChar) then [p] else []
  | sequence a b, p => m.distinct ((spots m text a p).flatMap (spots m text b))
  | either a b, p => m.ordered (spots m text a p ++ spots m text b p)
  | star r, p =>
    match fitsCharacter? m r with
    | some fits => Manner.row fits p.left.length p
    | none => m.ordered (m.turns (spots m text r) (p.left.length + 1) [p] [p])
  | group n r, p =>
    (spots m text r p).map fun q =>
      { q with fitted := (n, p.before, q.before) :: q.fitted.filter (·.1 ≠ n) }
  | again n, p =>
    match p.fitted.lookup n with
    | some (a, b) => (m.past ((text.drop a).take (b - a)) p).toList
    | none => []
  | r, p =>
    match fitsCharacter? m r, p.next? with
    | some fits, some (c, q) => if fits c then [q] else []
    | _, _ => []

def match? (m : Manner) (text : List Char) (r : Regex) (p : Spot) : Option Spot :=
  (spots m text r p).foldl (fun best q =>
    match best with
    | some b => if b.before < q.before then some q else best
    | none => some q) none

def find? (m : Manner) (text : List Char) (r : Regex) : Nat → Spot → Option (Spot × Spot)
  | 0, p => (match? m text r p).map (p, ·)
  | n + 1, p =>
    match match? m text r p with
    | some q => some (p, q)
    | none =>
      match p.next? with
      | some (_, next) => find? m text r n next
      | none => none

def search? (m : Manner) (r : Regex) (text : List Char) (start : Nat) : Option (Spot × Spot) :=
  let p : Spot := { before := 0, previous := none, left := text }
  find? { m with exact := r.repeats } text r text.length (p.skip start)

def occurs (m : Manner) (r : Regex) (text : List Char) : Bool :=
  (search? m r text 0).isSome

def fittedBy (text : List Char) (found : Spot × Spot) (n : Nat) : Option (List Char) :=
  let part (a b : Nat) := (text.drop a).take (b - a)
  if n = 0 then some (part found.1.before found.2.before)
  else (found.2.fitted.lookup n).map fun (a, b) => part a b

end Regex

end InlineRemote.Shell
