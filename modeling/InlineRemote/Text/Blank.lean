/-! # Blank characters and trimming

A character is blank when it has the Unicode property White_Space.  Lines and button words are
trimmed of blanks at both ends.  Inside a line only a space or a tab separates two parts. -/
namespace InlineRemote.Text

def blankCodes : List Nat :=
  [0x09, 0x0A, 0x0B, 0x0C, 0x0D, 0x20, 0x85, 0xA0, 0x1680,
   0x2000, 0x2001, 0x2002, 0x2003, 0x2004, 0x2005, 0x2006, 0x2007, 0x2008, 0x2009, 0x200A,
   0x2028, 0x2029, 0x202F, 0x205F, 0x3000]

def isBlank (c : Char) : Bool :=
  blankCodes.contains c.toNat

/-- A character that separates the parts of a line: a space or a tab. -/
def isSpacing (c : Char) : Bool :=
  c = ' ' || c = '\t'

def trimEnd (s : List Char) : List Char :=
  (s.reverse.dropWhile isBlank).reverse

def trim (s : List Char) : List Char :=
  trimEnd (s.dropWhile isBlank)

/-- Every character that separates parts of a line is blank, so a trimmed line ends in a part. -/
theorem isBlank_of_isSpacing {c : Char} (h : isSpacing c = true) : isBlank c = true := by
  have : c = ' ' ∨ c = '\t' := by simpa [isSpacing] using h
  rcases this with rfl | rfl <;> decide

end InlineRemote.Text
