/-! # Blanks, line ends and comments of TOML

A line ends with a line feed that may have a carriage return before it.  A comment runs to the end
of its line and holds no control character but the tab. -/
namespace InlineRemote.Toml

/-- A character that may stand in a comment: no control character but the tab. -/
def isPlain (c : Char) : Bool :=
  c = '\t' || (0x20 ≤ c.toNat && c.toNat ≠ 0x7F)

def skipBlanks (s : List Char) : List Char :=
  s.dropWhile fun c => c = ' ' || c = '\t'

def skipLineEnd? : List Char → Option (List Char)
  | '\n' :: s => some s
  | '\r' :: '\n' :: s => some s
  | _ => none

def skipComment : List Char → List Char
  | '#' :: s => s.dropWhile isPlain
  | s => s

/-- The text after the rest of a line that says nothing more: blanks, a comment, and the line end or
the end of the text. -/
def endLine? (s : List Char) : Option (List Char) :=
  match skipComment (skipBlanks s) with
  | [] => some []
  | s => skipLineEnd? s

/-- The text after blanks, line ends and whole comment lines; `comment` tells whether a comment is
open. -/
def skipLines (comment : Bool) : List Char → Option (List Char)
  | [] => some []
  | c :: s =>
    if c = '\n' then skipLines false s
    else if c = '\r' then
      match s with
      | '\n' :: s => skipLines false s
      | _ => none
    else if comment then if isPlain c then skipLines true s else none
    else if c = ' ' ∨ c = '\t' then skipLines false s
    else if c = '#' then skipLines true s
    else some (c :: s)

end InlineRemote.Toml
