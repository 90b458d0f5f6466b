import InlineRemote.Text.Digits

/-! # Texts as a shell reads them back

Values are shown in a form that the shell reads as that value.  The plain dialect quotes every value;
the extended one has several forms, and leaves a value that needs no quotes as it is. -/
namespace InlineRemote.Shell

namespace Quoting

/-- A text in single quotes, with runs of single quotes in double ones; an amount bounds the runs. -/
def plainly : Nat → List Char → List Char
  | 0, _ => []
  | n + 1, s =>
    let (text, r) := (s.takeWhile (· ≠ '\''), s.dropWhile (· ≠ '\''))
    let first := '\'' :: text ++ ['\'']
    match r.takeWhile (· = '\'') with
    | [] => first
    | quotes =>
      let shown := first ++ '"' :: quotes ++ ['"']
      match r.dropWhile (· = '\'') with
      | [] => shown
      | r => shown ++ plainly n r

def plain (s : String) : String :=
  String.ofList (plainly (s.length + 1) s.toList)

def single (s : String) : String :=
  if s = "'" then "\\'"
  else
    let inside (c : Char) : List Char := if c = '\'' then ['\'', '\\', '\'', '\''] else [c]
    String.ofList ('\'' :: s.toList.flatMap inside ++ ['\''])

def isHidden (c : Char) : Bool :=
  c < ' ' || '\x7e' < c

def octal (c : Char) : List Char :=
  let ds := Nat.toDigits 8 c.toNat
  List.replicate (3 - ds.length) '0' ++ ds

def escape? : Char → Option Char
  | '\x07' => some 'a'
  | '\x08' => some 'b'
  | '\x1b' => some 'E'
  | '\x0c' => some 'f'
  | '\n' => some 'n'
  | '\r' => some 'r'
  | '\t' => some 't'
  | '\x0b' => some 'v'
  | '\\' => some '\\'
  | '\'' => some '\''
  | _ => none

def escaped (s : String) : String :=
  let shown (c : Char) : List Char :=
    match escape? c with
    | some d => ['\\', d]
    | none => if isHidden c then '\\' :: octal c else [c]
  String.ofList (['$', '\''] ++ s.toList.flatMap shown ++ ['\''])

def hasSigns (s : String) : Bool :=
  let s := s.toList
  s.head? = some '#' || s.head? = some '~' ||
    s.any [' ', '\t', '\n', '\'', '"', '\\', '|', '&', ';', '(', ')', '<', '>', '!', '{', '}', '*',
      '[', '?', ']', '^', '$', '\x60'].contains

def listed (s : String) : String :=
  if s.toList.any isHidden then escaped s else if hasSigns s then single s else s

def always (s : String) : String :=
  if s.toList.any isHidden then escaped s else single s

def double (s : String) : String :=
  if s.toList.any isHidden then escaped s
  else
    let shown (c : Char) : List Char :=
      if ['$', '\x60', '"', '\\'].contains c then ['\\', c] else [c]
    String.ofList ('"' :: s.toList.flatMap shown ++ ['"'])

def slashed (s : String) : String :=
  if s = "" then "''"
  else if s.toList.any isHidden then escaped s
  else
    let signs := [' ', '\t', '\n', '\'', '"', '\\', '|', '&', ';', '(', ')', '<', '>', '!', '{', '}',
      '*', '[', '?', ']', '^', '$', '\x60', ',']
    let shown (first : Bool) (c : Char) : List Char :=
      if signs.contains c || (first && (c = '#' || c = '~')) then ['\\', c] else [c]
    String.ofList ((s.toList.take 1).flatMap (shown true) ++ (s.toList.drop 1).flatMap (shown false))

end Quoting

end InlineRemote.Shell
