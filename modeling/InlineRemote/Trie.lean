import InlineRemote.Trigger

/-! # Tries over buttons

A trie binds triggers to values and shares the beginnings that triggers have in common.  Its view is
the function `find?`; `toList` lists the bindings. -/
namespace InlineRemote

/-- A finite map from triggers. -/
inductive Trie (α : Type) where
  | empty
  | node (here : Option α) (play up down : Trie α)
  deriving Repr

namespace Trie

variable {α : Type}

def here? : Trie α → Option α
  | empty => none
  | node v _ _ _ => v

def child : Trie α → Button → Trie α
  | empty, _ => empty
  | node _ p _ _, .play => p
  | node _ _ u _, .up => u
  | node _ _ _ d, .down => d

def withChild (t : Trie α) (b : Button) (s : Trie α) : Trie α :=
  match b with
  | .play => node t.here? s (t.child .up) (t.child .down)
  | .up => node t.here? (t.child .play) s (t.child .down)
  | .down => node t.here? (t.child .play) (t.child .up) s

def descend (t : Trie α) : Trigger → Trie α
  | [] => t
  | b :: s => (t.child b).descend s

def find? (t : Trie α) (s : Trigger) : Option α :=
  (t.descend s).here?

/-- Whether a trie is the empty one.  Binding a trigger never leaves an empty one, so a trie that
is not empty has a binding. -/
def isEmpty : Trie α → Bool
  | empty => true
  | node .. => false

def extends? (t : Trie α) (s : Trigger) : Bool :=
  [Button.play, .up, .down].any fun b => !((t.descend s).child b).isEmpty

def insert (t : Trie α) (s : Trigger) (a : α) : Trie α :=
  match s with
  | [] => node (some a) (t.child .play) (t.child .up) (t.child .down)
  | b :: s => t.withChild b ((t.child b).insert s a)

def toList : Trie α → List (Trigger × α)
  | empty => []
  | node v p u d =>
    v.toList.map (([], ·)) ++ p.toList.map (fun e => (.play :: e.1, e.2)) ++
      u.toList.map (fun e => (.up :: e.1, e.2)) ++ d.toList.map (fun e => (.down :: e.1, e.2))

@[simp] theorem find?_empty (s : Trigger) : (empty : Trie α).find? s = none := by
  induction s with
  | nil => rfl
  | cons b s ih => simpa [find?, descend, child] using ih

@[simp] theorem find?_nil (t : Trie α) : t.find? [] = t.here? := rfl

@[simp] theorem find?_cons (t : Trie α) (b : Button) (s : Trigger) :
    t.find? (b :: s) = (t.child b).find? s := rfl

@[simp] theorem child_withChild (t s : Trie α) (b c : Button) :
    (t.withChild b s).child c = if c = b then s else t.child c := by
  cases b <;> cases c <;> rfl

@[simp] theorem here?_withChild (t s : Trie α) (b : Button) :
    (t.withChild b s).here? = t.here? := by
  cases b <;> rfl

/-- Binding a trigger changes the value of that trigger alone. -/
theorem find?_insert (t : Trie α) (s r : Trigger) (a : α) :
    (t.insert s a).find? r = if r = s then some a else t.find? r := by
  induction s generalizing t r with
  | nil =>
    cases r with
    | nil => rfl
    | cons c r => cases c <;> simp [insert, child]
  | cons b s ih =>
    cases r with
    | nil => simp [insert]
    | cons c r =>
      by_cases h : c = b
      · subst h
        simp [insert, ih]
      · simp [insert, h]

end Trie

end InlineRemote
