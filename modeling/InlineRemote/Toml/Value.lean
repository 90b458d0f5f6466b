/-! # TOML values and tables

A table keeps its entries in the order in which their keys first appear, and remembers how it was
opened, for that decides what may still be added to it.

* Under a header a table is opened once; it may have been implied before by a longer header.
* A dotted key opens tables on its way.  It may go on into tables that dotted keys opened, and
  through implied ones, but it assigns only in a table that dotted keys opened.
* A table written inline is closed for good. -/
namespace InlineRemote.Toml

/-- How a table was opened. -/
inductive Origin where
  | header
  /-- By a longer header, as a table on its way. -/
  | implied
  | dotted
  | inline
  deriving DecidableEq, Repr

/-- A value.  Floats and moments of time are kept as they are written. -/
inductive Value where
  | string (text : String)
  | integer (value : Int)
  | float (text : String)
  | boolean (value : Bool)
  | moment (text : String)
  | array (items : List Value)
  | table (origin : Origin) (entries : List (String × Value))
  /-- The tables that double-bracket headers opened, at least one. -/
  | tables (elements : List (List (String × Value)))

abbrev Entries := List (String × Value)

namespace Entries

def get? (es : Entries) (key : String) : Option Value :=
  es.lookup key

def set (es : Entries) (key : String) (v : Value) : Entries :=
  if (es.get? key).isSome then es.map fun e => if e.1 = key then (key, v) else e
  else es ++ [(key, v)]

/-- Changes the entries of the table that a header's path leads to, opening tables on the way.  A
path goes through the last of the tables that double-bracket headers opened. -/
def within (f : Entries → Option Entries) : List String → Entries → Option Entries
  | [], es => f es
  | k :: path, es =>
    match es.get? k with
    | none => (within f path []).map fun sub => es.set k (.table .implied sub)
    | some (.table origin sub) =>
      if origin = .inline then none
      else (within f path sub).map fun sub => es.set k (.table origin sub)
    | some (.tables elements) =>
      match elements.getLast? with
      | none => none
      | some last =>
        (within f path last).map fun last => es.set k (.tables (elements.dropLast ++ [last]))
    | some _ => none

def openTable (key : String) (es : Entries) : Option Entries :=
  match es.get? key with
  | none => some (es.set key (.table .header []))
  | some (.table .implied sub) => some (es.set key (.table .header sub))
  | some _ => none

def openElement (key : String) (es : Entries) : Option Entries :=
  match es.get? key with
  | none => some (es.set key (.tables [[]]))
  | some (.tables elements) => some (es.set key (.tables (elements ++ [[]])))
  | some _ => none

/-- Assigns a value to a dotted key: the keys on the way, and the last one. -/
def assign (v : Value) (last : String) : List String → Entries → Option Entries
  | [], es => if (es.get? last).isSome then none else some (es.set last v)
  | k :: path, es =>
    match es.get? k with
    | none => (assign v last path []).map fun sub => es.set k (.table .dotted sub)
    | some (.table origin sub) =>
      if origin = .dotted ∨ (origin = .implied ∧ path ≠ []) then
        (assign v last path sub).map fun sub => es.set k (.table origin sub)
      else none
    | some (.tables elements) =>
      match path, elements.getLast? with
      | _ :: _, some e =>
        (assign v last path e).map fun e => es.set k (.tables (elements.dropLast ++ [e]))
      | _, _ => none
    | some _ => none

end Entries

end InlineRemote.Toml
