/-! # Writing TOML

A string is written in the first form that can hold it: on one line in double quotes or in single
quotes as it stands, then tripled double or single quotes as it stands, and at last with escapes.
In double quotes a tab is always escaped.  A string with line feeds starts on a line of its own. -/
namespace InlineRemote.Toml

def isControl (c : Char) : Bool :=
  (c.toNat < 0x20 && c ≠ '\t' && c ≠ '\n') || c.toNat = 0x7F

def hasTriple (q : Char) : List Char → Bool
  | [] => false
  | c :: s => [q, q, q].isPrefixOf (c :: s) || hasTriple q s

/-- The forms of a written string. -/
inductive Form where
  | basic
  | literal
  | multiBasic
  | multiLiteral
  deriving DecidableEq, Repr

def Form.choose (s : List Char) : Form :=
  let oneLine := !s.contains '\n'
  let quiet := !s.any isControl
  if oneLine && quiet && !s.contains '"' && !s.contains '\\' then basic
  else if oneLine && quiet && !s.contains '\x27' then literal
  else if quiet && !s.contains '\\' && !hasTriple '"' s then multiBasic
  else if quiet && !hasTriple '\x27' s then multiLiteral
  else if oneLine then basic
  else multiBasic

def hexDigit (n : Nat) : Char :=
  if n < 10 then Char.ofNat (48 + n) else Char.ofNat (55 + n)

/-- An escape, without its backslash, for a character that does not stand for itself; the double
quote and the line feed are left to the form. -/
def escapeOf? (c : Char) : Option (List Char) :=
  if c = '\x08' then some ['b']
  else if c = '\t' then some ['t']
  else if c = '\x0c' then some ['f']
  else if c = '\r' then some ['r']
  else if c = '\\' then some ['\\']
  else if isControl c then some ['u', '0', '0', hexDigit (c.toNat / 16), hexDigit (c.toNat % 16)]
  else none

/-- Writes text for double quotes.  Of a row of double quotes so many stand for themselves and the
next is escaped; `row` counts those that have just been written. -/
def escaped (allowed : Nat) (row : Nat) : List Char → List Char
  | [] => []
  | c :: s =>
    if c = '"' then
      if row < allowed then '"' :: escaped allowed (row + 1) s
      else '\\' :: '"' :: escaped allowed 0 s
    else
      match escapeOf? c with
      | some e => '\\' :: e ++ escaped allowed 0 s
      | none => c :: escaped allowed 0 s

def firstLineEnd (s : List Char) : List Char :=
  if s.contains '\n' then ['\n'] else []

def Form.write (s : List Char) : Form → List Char
  | basic => '"' :: escaped 0 0 s ++ ['"']
  | literal => '\x27' :: s ++ ['\x27']
  | multiBasic => ['"', '"', '"'] ++ firstLineEnd s ++ escaped 2 0 s ++ ['"', '"', '"']
  | multiLiteral => ['\x27', '\x27', '\x27'] ++ firstLineEnd s ++ s ++ ['\x27', '\x27', '\x27']

def writeString (s : String) : List Char :=
  (Form.choose s.toList).write s.toList

/-- Writes an array of strings: one item stands on the line, several stand on a line each. -/
def writeStrings : List String → List Char
  | [] => ['[', ']']
  | [s] => '[' :: writeString s ++ [']']
  | ss =>
    let line (s : String) := [' ', ' ', ' ', ' '] ++ writeString s ++ [',', '\n']
    '[' :: '\n' :: ss.flatMap line ++ [']']

def writeLine (key value : List Char) : List Char :=
  key ++ [' ', '=', ' '] ++ value ++ ['\n']

end InlineRemote.Toml
