import InlineRemote.Text.Digits
import InlineRemote.Toml.Layout

/-! # Reading quoted text

Text stands in single quotes as it is, or in double quotes with escapes; tripled quotes let it run
over lines.  A line feed right after the opening triple is dropped.  A backslash at the end of a
line drops the line end and all blanks and line ends after it.  Up to two quotes may stand right
before the closing triple. -/
namespace InlineRemote.Toml

open Text

/-- Reads so many hexadecimal digits: their value, above that of the digits before, and the rest. -/
def readHex : Nat → Nat → List Char → Option (Nat × List Char)
  | 0, value, s => some (value, s)
  | n + 1, value, c :: s =>
    if isHexDigit c then readHex n (16 * value + digitValue c) s else none
  | _ + 1, _, [] => none

/-- The character with a code point that so many hexadecimal digits write, and the rest. -/
def readCode (digits : Nat) (s : List Char) : Option (Char × List Char) :=
  match readHex digits 0 s with
  | some (n, r) => if n.isValidChar then some (Char.ofNat n, r) else none
  | none => none

/-- Reads what follows a backslash: the character meant and the rest. -/
def readEscape : List Char → Option (Char × List Char)
  | 'b' :: s => some ('\x08', s)
  | 't' :: s => some ('\t', s)
  | 'n' :: s => some ('\n', s)
  | 'f' :: s => some ('\x0c', s)
  | 'r' :: s => some ('\r', s)
  | '"' :: s => some ('"', s)
  | '\\' :: s => some ('\\', s)
  | 'u' :: s => readCode 4 s
  | 'U' :: s => readCode 8 s
  | _ => none

theorem length_readHex_le {n v w : Nat} {s r : List Char} (h : readHex n v s = some (w, r)) :
    r.length ≤ s.length := by
  induction n generalizing v s with
  | zero =>
    obtain ⟨-, rfl⟩ := Prod.mk.inj (Option.some.inj h)
    exact Nat.le_refl _
  | succ n ih =>
    cases s with
    | nil => cases h
    | cons c s =>
      rw [readHex] at h
      split at h
      · have := ih h
        simp only [List.length_cons]
        omega
      · cases h

theorem length_readCode_le {n : Nat} {c : Char} {s r : List Char}
    (h : readCode n s = some (c, r)) : r.length ≤ s.length := by
  unfold readCode at h
  split at h
  · next hx =>
    split at h
    · obtain ⟨-, rfl⟩ := Prod.mk.inj (Option.some.inj h)
      exact length_readHex_le hx
    · cases h
  · cases h

theorem length_readEscape_lt {c : Char} {s r : List Char} (h : readEscape s = some (c, r)) :
    r.length < s.length := by
  unfold readEscape at h
  split at h
  case h_8 => have := length_readCode_le h; simp only [List.length_cons]; omega
  case h_9 => have := length_readCode_le h; simp only [List.length_cons]; omega
  case h_10 => cases h
  all_goals
    obtain ⟨-, rfl⟩ := Prod.mk.inj (Option.some.inj h)
    simp

def prepend (c : Char) (read : Option (List Char × List Char)) : Option (List Char × List Char) :=
  read.map fun (s, r) => (c :: s, r)

/-- Reads one line of text up to a closing double quote. -/
def readBasic (s : List Char) : Option (List Char × List Char) :=
  match s with
  | [] => none
  | c :: s =>
    if c = '"' then some ([], s)
    else if c = '\\' then
      match _h : readEscape s with
      | none => none
      | some (e, r) => prepend e (readBasic r)
    else if isPlain c then prepend c (readBasic s)
    else none
termination_by s.length
decreasing_by
  · have := length_readEscape_lt _h
    simp only [List.length_cons]
    omega
  · simp

def readLiteral : List Char → Option (List Char × List Char)
  | [] => none
  | c :: s =>
    if c = '\x27' then some ([], s)
    else if isPlain c then prepend c (readLiteral s)
    else none

/-- Reads three closing quotes and the up to two quotes before them: the latter and the rest. -/
def readClosing (q : Char) (s : List Char) : Option (List Char × List Char) :=
  if [q, q, q].isPrefixOf s then
    if [q, q, q, q, q].isPrefixOf s then some ([q, q], s.drop 5)
    else if [q, q, q, q].isPrefixOf s then some ([q], s.drop 4)
    else some ([], s.drop 3)
  else none

def skipFold : List Char → List Char
  | [] => []
  | c :: s =>
    if c = ' ' ∨ c = '\t' ∨ c = '\n' then skipFold s
    else if c = '\r' then
      match s with
      | '\n' :: s => skipFold s
      | s => '\r' :: s
    else c :: s

/-- The text after a line end that a backslash drops, with the blanks and line ends around it. -/
def readFold? (s : List Char) : Option (List Char) :=
  (skipLineEnd? (skipBlanks s)).map skipFold

theorem length_skipLineEnd?_lt {s r : List Char} (h : skipLineEnd? s = some r) :
    r.length < s.length := by
  unfold skipLineEnd? at h
  split at h
  · obtain rfl := Option.some.inj h
    simp
  · obtain rfl := Option.some.inj h
    simp only [List.length_cons]
    omega
  · cases h

theorem length_skipFold_le (s : List Char) : (skipFold s).length ≤ s.length := by
  fun_induction skipFold s with
  | case1 => simp
  | case2 c s h ih => simp only [List.length_cons]; omega
  | case3 c s ih => simp only [List.length_cons]; omega
  | case4 => simp
  | case5 => simp

theorem length_readFold?_lt {s r : List Char} (h : readFold? s = some r) :
    r.length < s.length := by
  unfold readFold? at h
  obtain ⟨t, ht, rfl⟩ := Option.map_eq_some_iff.mp h
  have h1 := length_skipLineEnd?_lt ht
  have h2 := length_skipFold_le t
  have h3 : (skipBlanks s).length ≤ s.length := (List.dropWhile_suffix _).length_le
  omega

/-- Reads text over lines up to three closing double quotes. -/
def readMultiBasic (s : List Char) : Option (List Char × List Char) :=
  match s with
  | [] => none
  | c :: s =>
    if c = '"' then
      match readClosing '"' (c :: s) with
      | some closed => some closed
      | none => prepend c (readMultiBasic s)
    else if c = '\\' then
      match _hf : readFold? s with
      | some r => readMultiBasic r
      | none =>
        match _he : readEscape s with
        | none => none
        | some (e, r) => prepend e (readMultiBasic r)
    else if c = '\n' then prepend c (readMultiBasic s)
    else if c = '\r' then
      match s with
      | '\n' :: s => prepend '\n' (readMultiBasic s)
      | _ => none
    else if isPlain c then prepend c (readMultiBasic s)
    else none
termination_by s.length
decreasing_by
  · simp
  · have := length_readFold?_lt _hf
    simp only [List.length_cons]
    omega
  · have := length_readEscape_lt _he
    simp only [List.length_cons]
    omega
  · simp
  · simp only [List.length_cons]
    omega
  · simp

/-- Reads text over lines up to three closing single quotes. -/
def readMultiLiteral : List Char → Option (List Char × List Char)
  | [] => none
  | c :: s =>
    if c = '\x27' then
      match readClosing '\x27' (c :: s) with
      | some closed => some closed
      | none => prepend c (readMultiLiteral s)
    else if c = '\n' then prepend c (readMultiLiteral s)
    else if c = '\r' then
      match s with
      | '\n' :: s => prepend '\n' (readMultiLiteral s)
      | _ => none
    else if isPlain c then prepend c (readMultiLiteral s)
    else none

def skipFirstLineEnd (s : List Char) : List Char :=
  (skipLineEnd? s).getD s

/-- Reads quoted text of any of the four forms, from its opening quotes on. -/
def readQuoted (s : List Char) : Option (List Char × List Char) :=
  match s with
  | '"' :: '"' :: '"' :: r => readMultiBasic (skipFirstLineEnd r)
  | '"' :: r => readBasic r
  | '\x27' :: '\x27' :: '\x27' :: r => readMultiLiteral (skipFirstLineEnd r)
  | '\x27' :: r => readLiteral r
  | _ => none

end InlineRemote.Toml
