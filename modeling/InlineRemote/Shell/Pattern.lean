/-! # Patterns

A pattern fits a whole text.  A star stands for any text, a question mark for any character, and
brackets for one of some characters.  Quoted characters stand for themselves.  The extended dialect
has groups of patterns too, with a sign in front that says how often one of them may stand there. -/
namespace InlineRemote.Shell

abbrev Letter := Char × Bool

/-- Which signs a pattern may use. -/
structure PatternStyle where
  /-- Whether a caret inverts brackets, as an exclamation mark does. -/
  caret : Bool := false
  /-- Whether patterns may be grouped. -/
  groups : Bool := false
  /-- Whether letters of either case fit each other. -/
  foldCase : Bool := false
  deriving DecidableEq, Repr

/-- A part of a pattern. -/
inductive PatternPart where
  | exactly (c : Char)
  | anyCharacter
  | anyText
  /-- A character in one of some ranges, or in none of them. -/
  | oneOf (inside : Bool) (ranges : List (Char × Char))
  /-- Patterns of which one fits: at most once, any number of times, at least once, exactly once, or
  not at all, as a sign says. -/
  | group (sign : Char) (alternatives : List (List PatternPart))
  deriving Repr

def characterClasses : List (String × List (Char × Char)) :=
  [("alpha", [('a', 'z'), ('A', 'Z')]), ("digit", [('0', '9')]),
    ("alnum", [('a', 'z'), ('A', 'Z'), ('0', '9')]), ("upper", [('A', 'Z')]),
    ("lower", [('a', 'z')]), ("space", [('\t', '\r'), (' ', ' ')]),
    ("blank", [('\t', '\t'), (' ', ' ')]), ("punct", [('!', '/'), (':', '@'), ('[', '\x60'),
    ('\x7b', '~')]), ("xdigit", [('0', '9'), ('a', 'f'), ('A', 'F')]),
    ("print", [(' ', '~')]), ("graph", [('!', '~')]),
    ("cntrl", [('\x00', '\x1f'), ('\x7f', '\x7f')])]

namespace PatternPart

def class? (s : List Letter) : Option (List (Char × Char) × Nat) :=
  match s with
  | ('[', false) :: (':', false) :: r =>
    let name := (r.map Prod.fst).takeWhile Char.isAlpha
    match r.drop name.length, characterClasses.lookup (String.ofList name) with
    | (':', false) :: (']', false) :: _, some ranges => some (ranges, name.length + 4)
    | _, _ => none
  | _ => none

def ranges : Nat → Bool → List Letter → Option (List (Char × Char) × List Letter)
  | 0, _, _ => none
  | _ + 1, _, [] => none
  | n + 1, isFirst, (c, quoted) :: s =>
    if c = ']' ∧ !quoted ∧ !isFirst then some ([], s)
    else
      match class? ((c, quoted) :: s), s with
      | some (named, k), _ =>
        (ranges n false (((c, quoted) :: s).drop k)).map fun (rs, r) => (named ++ rs, r)
      | none, ('-', false) :: (d, q) :: r =>
        if d = ']' ∧ !q then (ranges n false s).map fun (rs, r) => ((c, c) :: rs, r)
        else (ranges n false r).map fun (rs, r) => ((c, d) :: rs, r)
      | none, _ => (ranges n false s).map fun (rs, r) => ((c, c) :: rs, r)

def alternatives : Nat → List Letter → List Letter → Option (List (List Letter) × List Letter)
  | _, _, [] => none
  | 0, part, (')', false) :: s => some ([part.reverse], s)
  | 0, part, ('|', false) :: s => (alternatives 0 [] s).map fun (ps, r) => (part.reverse :: ps, r)
  | d + 1, part, (')', false) :: s => alternatives d ((')', false) :: part) s
  | d, part, ('(', false) :: s => alternatives (d + 1) (('(', false) :: part) s
  | d, part, l :: s => alternatives d (l :: part) s

/-- The parts of a pattern; brackets and groups that do not close stand for themselves. -/
def ofLetters (style : PatternStyle) : Nat → List Letter → List PatternPart
  | 0, _ => []
  | _ + 1, [] => []
  | n + 1, (c, quoted) :: s =>
    let grouped :=
      match s with
      | ('(', false) :: r =>
        if style.groups && !quoted && ['?', '*', '+', '@', '!'].contains c then alternatives 0 [] r
        else none
      | _ => none
    match grouped with
    | some (as, r) => .group c (as.map (ofLetters style n)) :: ofLetters style n r
    | none =>
      if quoted then .exactly c :: ofLetters style n s
      else if c = '*' then .anyText :: ofLetters style n s
      else if c = '?' then .anyCharacter :: ofLetters style n s
      else if c = '[' then
        let inside : Bool := s.head? ≠ some ('!', false) &&
          !(style.caret && s.head? = some ('^', false))
        match ranges (s.length + 1) true (if inside then s else s.drop 1) with
        | some (rs, r) => .oneOf inside rs :: ofLetters style n r
        | none => .exactly c :: ofLetters style n s
      else if c = '\\' then
        match s with
        | (d, _) :: s => .exactly d :: ofLetters style n s
        | [] => [.exactly c]
      else .exactly c :: ofLetters style n s

def fitsCharacter (style : PatternStyle) (p : PatternPart) (d : Char) : Bool :=
  let cases := if style.foldCase then [d, d.toLower, d.toUpper] else [d]
  match p with
  | exactly c => cases.contains c
  | anyCharacter => true
  | oneOf inside rs => inside == cases.any fun d => rs.any fun (a, b) => a ≤ d && d ≤ b
  | anyText | group .. => false

def suffixes : List Char → List (List Char)
  | [] => [[]]
  | c :: s => (c :: s) :: suffixes s

def ordered (ss : List (List Char)) : List (List Char) :=
  let sized := (ss.map fun s => (s.length, s)).mergeSort fun a b => b.1 ≤ a.1
  let different := sized.foldr (fun s found =>
    match found with
    | t :: _ => if s.1 = t.1 then found else s :: found
    | [] => [s]) []
  different.map Prod.snd

/-- What may be left of a text after something that may stand there any number of times. -/
def repeated (step : List Char → List (List Char)) : Nat → List (List Char) → List (List Char)
  | 0, ss => ss
  | n + 1, ss =>
    let more := ordered (ss ++ ss.flatMap step)
    if more.length = ss.length then ss else repeated step n more

/-- What may be left of a text after parts that fit its front, given what was left before them, the
longest first; groups nest at most so deep. -/
def left (style : PatternStyle) :
    Nat → List PatternPart → List (List Char) → List (List Char)
  | _, [], ss => ss
  | depth, .anyText :: ps, ss =>
    match ss with
    | [] => []
    | s :: _ => left style depth ps (suffixes s)
  | 0, .group .. :: _, _ => []
  | depth + 1, .group sign alternatives :: ps, ss =>
    let once (s : List Char) : List (List Char) :=
      ordered (alternatives.flatMap fun a => left style depth a [s])
    let after (s : List Char) : List (List Char) :=
      if sign = '@' then once s
      else if sign = '?' then s :: once s
      else if sign = '*' then repeated once (s.length + 1) [s]
      else if sign = '+' then repeated once (s.length + 1) (once s)
      else
        let fitting := (once s).map List.length
        (suffixes s).filter fun r => !fitting.contains r.length
    left style (depth + 1) ps (ordered (ss.flatMap after))
  | depth, p :: ps, ss =>
    left style depth ps <| ss.filterMap fun s =>
      match s with
      | c :: r => if p.fitsCharacter style c then some r else none
      | [] => none
  termination_by depth ps => (depth, ps.length)

end PatternPart

def fits (style : PatternStyle) (pattern : List Letter) (s : List Char) : Bool :=
  let parts := PatternPart.ofLetters style pattern.length pattern
  (PatternPart.left style (pattern.length + 1) parts [s]).contains []

/-- How much of a text at its front fits a pattern at most; `none` if no part of it does. -/
def longestFit? (style : PatternStyle) (pattern : List Letter) (s : List Char) : Option Nat :=
  let parts := PatternPart.ofLetters style pattern.length pattern
  ((PatternPart.left style (pattern.length + 1) parts [s]).map fun r => s.length - r.length).max?

/-- The text without the shortest or the longest part at one end that fits a pattern. -/
def trimmed (style : PatternStyle) (atEnd longest : Bool) (pattern : List Letter) (s : List Char) :
    List Char :=
  let parts := PatternPart.ofLetters style pattern.length pattern
  let left (s : List Char) := PatternPart.left style (pattern.length + 1) parts [s]
  if atEnd then
    let sizes := (List.range (s.length + 1)).filter fun k => (left (s.drop (s.length - k))).contains []
    match if longest then sizes.max? else sizes.min? with
    | none => s
    | some k => s.take (s.length - k)
  else
    let rests := (left s).map List.length
    match if longest then rests.min? else rests.max? with
    | none => s
    | some k => s.drop (s.length - k)

end InlineRemote.Shell
