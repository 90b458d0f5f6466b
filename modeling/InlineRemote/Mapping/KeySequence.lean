import InlineRemote.Key.Name
import InlineRemote.Mapping.Error

/-! # Key sequences

A key sequence is a row of tokens, each of which types one stroke.

* Two backslashes type a backslash, and a backslash before `<` types `<`.
* Any other character except `<` and the backslash types itself.
* `<`, letters of modifiers with a hyphen each, a name, `>` types the named key.  The letters are
  taken as far as they go; the name is what then stands before the first `>`, and is not empty.

A name that no key has may still be a single character.  All tokens are read before the first name
is looked up. -/
namespace InlineRemote.Mapping

/-- One written key. -/
inductive Token where
  | char (c : Char)
  | special (modifiers : Modifiers) (name : List Char)
  deriving DecidableEq, Repr

namespace Token

/-- Reads modifier letters as long as a hyphen follows each: their union and the rest. -/
def readModifiers : List Char → Modifiers × List Char
  | c :: '-' :: s =>
    match Modifiers.ofLetter? c with
    | some m => let (ms, r) := readModifiers s; (m.union ms, r)
    | none => (.empty, c :: '-' :: s)
  | s => (.empty, s)

def readSpecial (s : List Char) : Option (Token × List Char) :=
  let (ms, r) := readModifiers s
  match r.takeWhile (· ≠ '>'), r.dropWhile (· ≠ '>') with
  | [], _ => none
  | _ :: _, [] => none
  | c :: name, _ :: rest => some (.special ms (c :: name), rest)

def read? : List Char → Option (Token × List Char)
  | [] => none
  | '<' :: s => readSpecial s
  | '\\' :: '\\' :: s => some (.char '\\', s)
  | '\\' :: '<' :: s => some (.char '<', s)
  | '\\' :: _ => none
  | c :: s => some (.char c, s)

def stroke : Token → Except KeyFault Stroke
  | char c => .ok (.plain (.char c))
  | special ms name =>
    match Key.ofName? name, name with
    | some k, _ => .ok ⟨k, ms⟩
    | none, [c] => .ok ⟨.char c, ms⟩
    | none, _ => .error (.unknownKey (String.ofList name))

theorem length_readModifiers_le (s : List Char) : (readModifiers s).2.length ≤ s.length := by
  fun_induction readModifiers s with
  | case1 c s m h ms r hr ih =>
    simp only [hr] at ih
    simp only [List.length_cons]
    omega
  | case2 => simp
  | case3 => simp

/-- Reading a token leaves less text. -/
theorem length_read?_lt {s r : List Char} {t : Token} (h : read? s = some (t, r)) :
    r.length < s.length := by
  unfold read? at h
  split at h
  · cases h
  · next s =>
    have hm := length_readModifiers_le s
    unfold readSpecial at h
    have hd : ((readModifiers s).2.dropWhile (· ≠ '>')).length ≤ (readModifiers s).2.length :=
      (List.dropWhile_suffix _).length_le
    revert h
    simp only
    split
    · simp
    · simp
    · next c name _ rest _ he =>
      intro h
      obtain ⟨-, rfl⟩ := Prod.mk.inj (Option.some.inj h)
      rw [he] at hd
      simp only [List.length_cons] at *
      omega
  · obtain ⟨-, rfl⟩ := Prod.mk.inj (Option.some.inj h)
    simp only [List.length_cons]
    omega
  · obtain ⟨-, rfl⟩ := Prod.mk.inj (Option.some.inj h)
    simp only [List.length_cons]
    omega
  · cases h
  · obtain ⟨-, rfl⟩ := Prod.mk.inj (Option.some.inj h)
    simp

/-- Reads tokens as far as they go: the tokens and the text that is left. -/
def readMany (s : List Char) : List Token × List Char :=
  match _h : read? s with
  | none => ([], s)
  | some (t, r) =>
    let (ts, r') := readMany r
    (t :: ts, r')
termination_by s.length
decreasing_by exact length_read?_lt _h

end Token

/-- The strokes of a row of tokens; the first unknown name is the fault. -/
def strokes : List Token → Except KeyFault (List Stroke)
  | [] => .ok []
  | t :: ts =>
    match t.stroke with
    | .error e => .error e
    | .ok s =>
      match strokes ts with
      | .error e => .error e
      | .ok ss => .ok (s :: ss)

def readKeys (s : List Char) : Except KeyFault (List Stroke) :=
  match Token.readMany s with
  | (ts, []) => strokes ts
  | (_, rest) => .error (.unreadable (String.ofList rest))

end InlineRemote.Mapping
