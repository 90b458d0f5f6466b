import InlineRemote.Toml.Moment
import InlineRemote.Toml.Quoted

/-! # Reading TOML documents

A document is a row of statements: assignments to dotted keys, and headers that open tables.  Arrays
and inline tables nest to a fixed depth.  Statements are carried out in order on the entries of the
document. -/
namespace InlineRemote.Toml

def nestingLimit : Nat := 80

abbrev Reader (α : Type) := List Char → Option (α × List Char)

def isBare (c : Char) : Bool :=
  c.isAlphanum || c = '_' || c = '-'

def readPart : Reader String
  | '"' :: s => (readBasic s).map fun (k, r) => (String.ofList k, r)
  | '\x27' :: s => (readLiteral s).map fun (k, r) => (String.ofList k, r)
  | s =>
    match s.takeWhile isBare with
    | [] => none
    | k => some (String.ofList k, s.dropWhile isBare)

/-- Reads the parts of a dotted key, with blanks around each. -/
def readParts (s : List Char) : Option (List String × List Char) :=
  match readPart (skipBlanks s) with
  | none => none
  | some (k, r) =>
    match skipBlanks r with
    | '.' :: r =>
      if r.length < s.length then (readParts r).map fun (ks, r) => (k :: ks, r) else none
    | r => some ([k], r)
termination_by s.length

def readKey (s : List Char) : Option ((List String × String) × List Char) :=
  match readParts s with
  | none => none
  | some (ks, r) =>
    if nestingLimit ≤ ks.length then none
    else ks.getLast?.map fun last => ((ks.dropLast, last), r)

def readAssignment (value : Reader Value) (s : List Char) :
    Option ((List String × String × Value) × List Char) :=
  match readKey s with
  | some ((path, last), '=' :: r) =>
    (value (skipBlanks r)).map fun (v, r) => ((path, last, v), r)
  | _ => none

/-- Reads the items of an array after an opening bracket or a comma. -/
def readItems (value : Reader Value) (s : List Char) : Option (List Value × List Char) :=
  match skipLines false s with
  | none => none
  | some (']' :: r) => some ([], r)
  | some r =>
    match value r with
    | none => none
    | some (v, r) =>
      match skipLines false r with
      | some (',' :: r) =>
        if r.length < s.length then (readItems value r).map fun (vs, r) => (v :: vs, r) else none
      | some (']' :: r) => some ([v], r)
      | _ => none
termination_by s.length

/-- Reads the entries of an inline table after an opening brace or a comma. -/
def readEntries (value : Reader Value) (es : Entries) (s : List Char) :
    Option (Entries × List Char) :=
  match readAssignment value s with
  | none => none
  | some ((path, last, v), r) =>
    match es.assign v last path, skipBlanks r with
    | some es, ',' :: r => if r.length < s.length then readEntries value es r else none
    | some es, '}' :: r => some (es, r)
    | _, _ => none
termination_by s.length

def readInlineTable (value : Reader Value) (s : List Char) : Option (Entries × List Char) :=
  match skipBlanks s with
  | '}' :: r => some ([], r)
  | _ => readEntries value [] s

/-- Strips a word from the start of a text, and gives a value for it. -/
def readWord (word : List Char) (v : Value) : Reader Value := fun s =>
  (Text.strip? word s).map (v, ·)

/-- Reads a value in which arrays and inline tables nest to a depth. -/
def readValue : Nat → Reader Value
  | depth, '[' :: s =>
    match depth with
    | 0 => none
    | depth + 1 => (readItems (readValue depth) s).map fun (vs, r) => (.array vs, r)
  | depth, '{' :: s =>
    match depth with
    | 0 => none
    | depth + 1 => (readInlineTable (readValue depth) s).map fun (es, r) => (.table .inline es, r)
  | _, '"' :: s => (readQuoted ('"' :: s)).map fun (t, r) => (.string (String.ofList t), r)
  | _, '\x27' :: s => (readQuoted ('\x27' :: s)).map fun (t, r) => (.string (String.ofList t), r)
  | _, 't' :: s => readWord ['t', 'r', 'u', 'e'] (.boolean true) ('t' :: s)
  | _, 'f' :: s => readWord ['f', 'a', 'l', 's', 'e'] (.boolean false) ('f' :: s)
  | _, s =>
    match readMoment s with
    | some read => some read
    | none => readNumber s

/-- What a document says in one place. -/
inductive Statement where
  | assign (path : List String) (last : String) (v : Value)
  | openTable (path : List String) (last : String)
  | openElement (path : List String) (last : String)

def readHeader (closing : List Char) (s : List Char) :
    Option ((List String × String) × List Char) :=
  match readKey s with
  | none => none
  | some (key, r) => (Text.strip? closing r).map (key, ·)

def readStatement : Reader Statement
  | '[' :: '[' :: s =>
    (readHeader [']', ']'] s).map fun ((path, last), r) => (.openElement path last, r)
  | '[' :: s => (readHeader [']'] s).map fun ((path, last), r) => (.openTable path last, r)
  | s =>
    (readAssignment (readValue (nestingLimit - 1)) s).map
      fun ((path, last, v), r) => (.assign path last v, r)

/-- Reads the statements of a document to its end.  Lines may say nothing. -/
def readStatements (s : List Char) : Option (List Statement) :=
  match skipBlanks s with
  | [] => some []
  | c :: t =>
    if c = '#' ∨ c = '\n' ∨ c = '\r' then
      match endLine? (c :: t) with
      | none => none
      | some r => if r.length < s.length then readStatements r else none
    else
      match readStatement (c :: t) with
      | none => none
      | some (st, r) =>
        match endLine? r with
        | none => none
        | some r =>
          if r.length < s.length then (readStatements r).map (st :: ·) else none
termination_by s.length

abbrev Progress := List String × Entries

def Statement.apply (p : Progress) : Statement → Option Progress
  | assign path last v =>
    (Entries.within (Entries.assign v last path) p.1 p.2).map (p.1, ·)
  | openTable path last =>
    (Entries.within (Entries.openTable last) path p.2).map (path ++ [last], ·)
  | openElement path last =>
    (Entries.within (Entries.openElement last) path p.2).map (path ++ [last], ·)

def Statement.applyAll (p : Progress) : List Statement → Option Progress
  | [] => some p
  | st :: sts => (st.apply p).bind (applyAll · sts)

def skipMark : List Char → List Char
  | '\uFEFF' :: s => s
  | s => s

def read (text : String) : Option Entries :=
  match readStatements (skipMark text.toList) with
  | none => none
  | some sts => (Statement.applyAll ([], []) sts).map (·.2)

end InlineRemote.Toml
