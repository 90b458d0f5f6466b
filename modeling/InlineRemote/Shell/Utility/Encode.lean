import InlineRemote.Shell.Utility.Lines
import InlineRemote.Text.Parts

/-! # Other forms of data

Data is written in letters, five or six bits to each, and read from them; or it is shown as numbers in
rows with the place of each row. -/
namespace InlineRemote.Shell

namespace Utility

/-- A way to write data in letters. -/
structure Lettering where
  letters : List Char
  /-- The bits that a letter stands for. -/
  bits : Nat
  /-- How many letters make a group. -/
  group : Nat

namespace Lettering

def six : Lettering where
  letters := "ABCDEFGHIJKLMNOPQRSTUVWXYZabcdefghijklmnopqrstuvwxyz0123456789+/".toList
  bits := 6
  group := 4

def five : Lettering where
  letters := "ABCDEFGHIJKLMNOPQRSTUVWXYZ234567".toList
  bits := 5
  group := 8

def digits (base : Nat) : Nat → Nat → List Nat
  | 0, _ => []
  | n + 1, x => digits base n (x / base) ++ [x % base]

def number (base : Nat) (ds : List Nat) : Nat :=
  ds.foldl (fun n d => n * base + d) 0

def size (k : Lettering) : Nat :=
  k.group * k.bits / 8

def encodeGroup (k : Lettering) (s : List Char) : List Char :=
  let missing := k.size - s.length
  let n := number 256 (s.map Char.toNat ++ List.replicate missing 0)
  let used := (s.length * 8 + k.bits - 1) / k.bits
  let ls := (digits (1 <<< k.bits) k.group n).map fun d => k.letters[d]?.getD '='
  ls.take used ++ List.replicate (k.group - used) '='

def encode (k : Lettering) (s : List Char) : List Char :=
  (Text.parts k.size s).flatMap k.encodeGroup

def decodeGroup (k : Lettering) (s : List Char) : List Char × Bool :=
  let ls := s.takeWhile (· ≠ '=')
  let n := number (1 <<< k.bits) (ls.map k.letters.idxOf ++ List.replicate (k.group - ls.length) 0)
  let count := ls.length * k.bits / 8
  let cs := ((digits 256 k.size n).map Char.ofNat).take count
  let fills := (count * 8 + k.bits - 1) / k.bits = ls.length
  (cs, s.length = k.group && (s.drop ls.length).all (· = '=') && fills && ls ≠ [])

/-- The data that letters stand for, as far as they can be read, and whether that is to the end. -/
def decode (k : Lettering) (s : List Char) : List Char × Bool :=
  let known := s.takeWhile fun c => k.letters.contains c || c = '='
  let step (done : List Char × Bool) (g : List Char) : List Char × Bool :=
    if !done.2 then done
    else
      let (cs, whole) := k.decodeGroup g
      (done.1 ++ cs, whole)
  let (cs, whole) := (Text.parts k.group known).foldl step ([], true)
  (cs, whole && known.length = s.length)

end Lettering

/-- Writes a file in letters, or reads it from them. -/
def encoded (k : Lettering) (c : Call) : Act Nat := do
  let names := [("decode", 'd', false), ("ignore-garbage", 'i', false), ("wrap", 'w', true)]
  c.withOptions { letters := "diw:", names } 1 fun os files => do
    let width? := match argumentOf? os 'w' with
      | some w => count? w
      | none => some 76
    match width?, files with
    | none, _ => c.fail ("invalid wrap size: '" ++ (argumentOf? os 'w').getD "" ++ "'") 1
    | _, _ :: extra :: _ => c.fail ("extra operand '" ++ extra ++ "'") 1
    | some width, _ =>
      let (texts, fine) ← c.inputs files
      if !fine then return 1
      let t := texts.flatMap Prod.snd
      if hasOption os 'd' then
        let wanted (ch : Char) : Bool :=
          if hasOption os 'i' then k.letters.contains ch || ch = '=' else ch ≠ '\n'
        let (cs, whole) := k.decode (t.filter wanted)
        let status ← c.print (String.ofList cs) 0
        if whole then return status else c.fail "invalid input" 1
      else
        let ls := k.encode t
        let shown := if width = 0 then ls
          else (Text.parts width ls).flatMap (· ++ ['\n'])
        c.print (String.ofList shown) 0

/-! ## Data as numbers -/

/-- A form in which data is shown: numbers of so many characters, names or characters. -/
inductive DumpForm where
  | number (base : Nat) (signed : Bool) (size : Nat)
  | name
  | character
  deriving DecidableEq

namespace DumpForm

def size : DumpForm → Nat
  | .number _ _ n => max n 1
  | _ => 1

def width : DumpForm → Nat
  | .number base signed n =>
    let most := if signed then 1 <<< (8 * n - 1) else 1 <<< (8 * n) - 1
    (Nat.toDigits base most).length + (if signed then 1 else 0) + 1
  | _ => 4

def names : List String :=
  ["nul", "soh", "stx", "etx", "eot", "enq", "ack", "bel", "bs", "ht", "nl", "vt", "ff", "cr", "so",
    "si", "dle", "dc1", "dc2", "dc3", "dc4", "nak", "syn", "etb", "can", "em", "sub", "esc", "fs", "gs",
    "rs", "us", "sp"]

/-- An item as it is shown. -/
def item (f : DumpForm) (s : List Char) : List Char :=
  let n := Lettering.number 256 (s.reverse.map Char.toNat)
  match f with
  | .number base signed size =>
    if signed then
      let half := 1 <<< (8 * size - 1)
      if n < half then Nat.toDigits 10 n else '-' :: Nat.toDigits 10 (2 * half - n)
    else
      let ds := Nat.toDigits base n
      if base = 10 then ds
      else List.replicate (f.width - 1 - ds.length) '0' ++ ds
  | .name =>
    let n := n % 128
    if n = 127 then "del".toList
    else
      match names[n]? with
      | some w => w.toList
      | none => [Char.ofNat n]
  | .character =>
    let marks := [(0, '0'), (7, 'a'), (8, 'b'), (12, 'f'), (10, 'n'), (13, 'r'), (9, 't'), (11, 'v')]
    match marks.lookup n with
    | some c => ['\\', c]
    | none =>
      if 32 ≤ n ∧ n < 127 then [Char.ofNat n]
      else
        let ds := Nat.toDigits 8 n
        List.replicate (3 - ds.length) '0' ++ ds

/-- A row of data, of which there may be less than there is room for; the items fill the same width as
those of the widest form. -/
def row (f : DumpForm) (length width : Nat) (s : List Char) : List Char :=
  let count := length / f.size
  let items := Text.parts f.size s
  let spare := width - f.width * count
  (items.zipIdx.map fun (x, i) =>
    let x := x ++ List.replicate (f.size - x.length) '\x00'
    let room := f.width + spare * (count - i) / count - spare * (count - i - 1) / count
    let shown := f.item x
    List.replicate (room - shown.length) ' ' ++ shown).flatten

/-- The forms that a text asks for, each with whether the characters are shown beside it. -/
def read? : Nat → List Char → Option (List (DumpForm × Bool))
  | _, [] => some []
  | 0, _ => none
  | n + 1, c :: s =>
    let withRest (f : DumpForm) (r : List Char) : Option (List (DumpForm × Bool)) :=
      match r with
      | 'z' :: r => (read? n r).map ((f, true) :: ·)
      | r => (read? n r).map ((f, false) :: ·)
    let sized (base : Nat) (signed : Bool) : Option (List (DumpForm × Bool)) :=
      let ds := s.takeWhile Char.isDigit
      if ds ≠ [] then
        let size := Text.ofDigits 10 ds
        if [1, 2, 4, 8].contains size then withRest (.number base signed size) (s.drop ds.length)
        else none
      else
        match s with
        | 'C' :: r => withRest (.number base signed 1) r
        | 'S' :: r => withRest (.number base signed 2) r
        | 'I' :: r => withRest (.number base signed 4) r
        | 'L' :: r => withRest (.number base signed 8) r
        | r => withRest (.number base signed 4) r
    match c with
    | 'a' => withRest .name s
    | 'c' => withRest .character s
    | 'd' => sized 10 true
    | 'u' => sized 10 false
    | 'o' => sized 8 false
    | 'x' => sized 16 false
    | _ => none

def old? : Char → Option DumpForm
  | 'a' => some .name
  | 'b' => some (.number 8 false 1)
  | 'c' => some .character
  | 'd' => some (.number 10 false 2)
  | 'i' => some (.number 10 true 4)
  | 'l' => some (.number 10 true 8)
  | 'o' => some (.number 8 false 2)
  | 's' => some (.number 10 true 2)
  | 'x' => some (.number 16 false 2)
  | _ => none

end DumpForm

/-- How data is shown as numbers. -/
structure Dump where
  forms : List (DumpForm × Bool)
  /-- The base of places, and how many digits they have; no places are shown if not given. -/
  places : Option (Nat × Nat)
  /-- How many characters a row has. -/
  length : Nat
  /-- Whether a row is shown that is like the one before. -/
  repeats : Bool

namespace Dump

def place (k : Dump) (n : Nat) : List Char :=
  match k.places with
  | none => []
  | some (base, width) =>
    let ds := Nat.toDigits base n
    List.replicate (width - ds.length) '0' ++ ds

/-- The rows of data from a place on, given the row before and whether that was not shown.  A star
stands for rows that are like the one before. -/
def rows (k : Dump) : Nat → Option (List Char) → Bool → List (List Char) → List Char
  | _, _, _, [] => []
  | start, before?, hidden, r :: rs =>
    let next := start + r.length
    if before? = some r && !k.repeats then
      (if hidden then [] else ['*', '\n']) ++ k.rows next before? true rs
    else
      let width := (k.forms.map fun (f, _) => f.width * (k.length / f.size)).foldl max 0
      let lead (i : Nat) : List Char :=
        if i = 0 then k.place start else List.replicate (k.place start).length ' '
      let line (e : (DumpForm × Bool) × Nat) : List Char :=
        let ((f, beside), i) := e
        let shown := f.row k.length width r
        let text := r.map fun c => if 32 ≤ c.toNat ∧ c.toNat < 127 then c else '.'
        let gap := List.replicate (width - shown.length) ' '
        lead i ++ shown ++
          (if beside then gap ++ [' ', ' ', '>'] ++ text ++ ['<'] else []) ++ ['\n']
      k.forms.zipIdx.flatMap line ++ k.rows next (some r) false rs

end Dump

/-- Shows data as numbers. -/
def dump (c : Call) : Act Nat := do
  let names := [("address-radix", 'A', true), ("skip-bytes", 'j', true), ("read-bytes", 'N', true),
    ("format", 't', true), ("output-duplicates", 'v', false), ("width", 'w', true)]
  let words := c.words.map fun w => if w = "-w" ∨ w = "--width" then "-w32" else w
  let c := { c with words }
  c.withOptions { letters := "A:j:N:t:vw:abcdilosx", names } 1 fun os files => do
    let forms? := os.mapM fun o =>
      if o.letter = 't' then DumpForm.read? 100 o.argument.toList
      else some ((DumpForm.old? o.letter).map (·, false)).toList
    let places? := match argumentOf? os 'A' with
      | none | some "o" => some (some (8, 7))
      | some "d" => some (some (10, 7))
      | some "x" => some (some (16, 6))
      | some "n" => some none
      | some _ => none
    let amount? (o : Char) (usual : Nat) : Option Nat :=
      match argumentOf? os o with
      | none => some usual
      | some w => if w.startsWith "0x" then (number? false w).map Int.toNat else sized? w
    match forms?, places?, amount? 'j' 0, amount? 'w' 16 with
    | none, _, _, _ => c.fail "invalid type string" 1
    | _, none, _, _ => c.fail "invalid output address radix" 1
    | _, _, none, _ | _, _, _, none => c.fail "invalid number" 1
    | some forms, some places, some skip, some length =>
      let forms := forms.flatten
      let forms := if forms = [] then [(.number 8 false 2, false)] else forms
      let (texts, fine) ← c.inputs files
      if texts = [] then return 1
      let t := texts.flatMap Prod.snd
      if t.length < skip then return ← c.fail "cannot skip past end of combined input" 1
      let t := t.drop skip
      let t := match (argumentOf? os 'N').bind fun _ => amount? 'N' 0 with
        | some n => t.take n
        | none => t
      let k : Dump := { forms, places, length := max length 1, repeats := hasOption os 'v' }
      let rows := k.rows skip none false (Text.parts k.length t)
      let finish := if places.isNone then [] else k.place (skip + t.length) ++ ['\n']
      c.print (String.ofList (rows ++ finish)) (if fine then 0 else 1)

end Utility

end InlineRemote.Shell
