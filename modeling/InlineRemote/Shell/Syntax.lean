/-! # The syntax of shell commands

A script is read into commands.  A word is a row of pieces, because quoted and unquoted text, the
values of parameters and the output of other commands may stand next to each other in one word.

Two dialects share this syntax.  The plain one is what every shell understands; the extended one
adds rows of values, tests with operators, counted loops and more ways to use a value. -/
namespace InlineRemote.Shell

/-- What a word next to a parameter is for. -/
inductive Fallback where
  /-- It is taken when the parameter has no value. -/
  | use
  /-- It is taken and becomes the value of the parameter. -/
  | assign
  /-- It says that a value is needed. -/
  | demand
  /-- It is taken when the parameter has a value. -/
  | instead
  deriving DecidableEq, Repr

/-- Where a stream of a command is led to. -/
inductive Direction where
  | input
  /-- To a new file; one that is there is only replaced if that is forced. -/
  | output (forced : Bool)
  | append
  | both
  /-- To where another stream leads, or closed. -/
  | copy (forInput : Bool)
  /-- From a text that is written in the script. -/
  | document
  /-- What is written and what is complained, to one file. -/
  | all (append : Bool)
  deriving DecidableEq, Repr

/-- Which matches of a pattern are replaced. -/
inductive Matches where
  | first
  | every
  | atFront
  | atEnd
  deriving DecidableEq, Repr

/-- How a choice goes on after one of its arms ran. -/
inductive ArmEnd where
  | leave
  /-- The next arm runs too. -/
  | fall
  /-- The next arms are tried too. -/
  | retry
  deriving DecidableEq, Repr

/-- How letters change. -/
inductive LetterChange where
  | upper
  | lower
  | swap
  deriving DecidableEq, Repr

mutual

/-- A piece of a word. -/
inductive Piece where
  | text (content : List Char) (quoted : Bool)
  | parameter (name : String) (reach : Reach) (use : Use) (quoted : Bool)
  | arithmetic (expression : List Piece) (quoted : Bool)
  /-- What a command writes. -/
  | output (script : Command) (quoted : Bool)
  /-- The path of a stream from a command, or to it. -/
  | stream (fromCommand : Bool) (script : Command)
  /-- A row of values, given to a variable. -/
  | row (items : List Item)

/-- Which of the values of a parameter are meant. -/
inductive Reach where
  | whole
  | element (subscript : List Piece)
  | all (joined : Bool)
  /-- The keys of all values. -/
  | keys (joined : Bool)
  /-- The parameter that is named by the value. -/
  | indirect
  /-- The names of the variables that start so. -/
  | names (joined : Bool)

/-- How the value of a parameter enters a word. -/
inductive Use where
  | value
  | length
  /-- A word beside a parameter that may be unset, or set to nothing. -/
  | fallback (kind : Fallback) (emptyToo : Bool) (word : List Piece)
  /-- The value without the part at one end that fits a pattern. -/
  | trimmed (atEnd longest : Bool) (pattern : List Piece)
  /-- A part of the value, by its place. -/
  | part (offset : List Piece) (length : Option (List Piece))
  /-- The value with a word in the stead of what fits a pattern. -/
  | replaced (which : Matches) (pattern word : List Piece)
  /-- The value with some letters changed: the first, or all that fit a pattern. -/
  | changed (how : LetterChange) (everywhere : Bool) (pattern : List Piece)
  /-- The value in another form. -/
  | formed (form : Char)
  /-- A use that the reader does not know; it fails when it is reached. -/
  | unknown

/-- A value of a row: it may say its key, and may add to what is there. -/
inductive Item where
  | mk (subscript : Option (List Piece)) (added : Bool) (value : List Piece)

/-- An assignment to a variable, or to one value of a row. -/
inductive Assignment where
  | mk (name : String) (subscript : Option (List Piece)) (added : Bool) (value : List Piece)

/-- A stream of a command and where it is led to.  The stream has a number, or a variable gets the
number of a free one. -/
inductive Redirect where
  | mk (stream : Nat) (holder : Option String) (direction : Direction) (target : List Piece)

/-- A test with operators. -/
inductive Condition where
  | unary (op : String) (word : List Piece)
  | binary (op : String) (left right : List Piece)
  | not (c : Condition)
  | both (first second : Condition)
  | either (first second : Condition)

/-- A command.  Simple commands know the line that they stand in. -/
inductive Command where
  | nothing
  | simple (line : Nat) (assignments : List Assignment) (words : List (List Piece))
      (redirects : List Redirect)
  | redirected (body : Command) (redirects : List Redirect)
  | subshell (body : Command)
  /-- Commands joined by bars; the flags say which of them send their complaints along. -/
  | pipeline (parts : List (Command × Bool))
  | negated (body : Command)
  | timed (body : Command)
  | background (body : Command)
  /-- The second runs after success of the first. -/
  | both (first second : Command)
  /-- The second runs after failure of the first. -/
  | either (first second : Command)
  | sequence (first second : Command)
  | conditional (test yes no : Command)
  /-- A loop that goes on while its test succeeds, or until it does. -/
  | loop (whileTrue : Bool) (test body : Command)
  /-- A loop over words, or over the arguments; it may let its reader choose. -/
  | each (choosing : Bool) (name : String) (words : Option (List (List Piece))) (body : Command)
  /-- A loop that an expression starts, one tests and one ends each turn of. -/
  | counted (line : Nat) (start test step : List Piece) (body : Command)
  /-- The first arm runs that has a pattern which fits the subject. -/
  | choice (subject : List Piece) (arms : List (List (List Piece) × Command × ArmEnd))
  | condition (line : Nat) (c : Condition)
  | calculation (line : Nat) (expression : List Piece)
  | definition (name : String) (body : Command)

end

def startsName (c : Char) : Bool :=
  c.isAlpha || c = '_'

def isNameChar (c : Char) : Bool :=
  startsName c || c.isDigit

def isName (s : List Char) : Bool :=
  match s with
  | [] => false
  | c :: s => startsName c && s.all isNameChar

def specialBuiltins : List String :=
  [".", ":", "break", "continue", "eval", "exec", "exit", "export", "local", "readonly", "return",
    "set", "shift", "times", "trap", "unset"]

end InlineRemote.Shell
