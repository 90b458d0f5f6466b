import InlineRemote.Proofs.Key.Names
import InlineRemote.Proofs.Mapping.Keys

/-! # Strokes as key sequences

The text of a stroke looks like a key sequence that types it.  That is so for every stroke that a
key sequence can type, but for a bare `<` or backslash, which is not escaped, for three keys that
are shown by names of their own, and for modifiers held while nothing is typed, which are not
shown. -/
namespace InlineRemote

namespace Modifiers

@[simp] theorem empty_union (m : Modifiers) : empty.union m = m := by
  simp [union, empty]

theorem union_assoc (a b c : Modifiers) : (a.union b).union c = a.union (b.union c) := by
  simp [union, Bool.or_assoc]

theorem Spelled.append {a b : Modifiers} {v w : List Char} (ha : a.Spelled v) (hb : b.Spelled w) :
    (a.union b).Spelled (v ++ w) := by
  induction ha with
  | nil => rwa [empty_union]
  | cons hc _ ih =>
    rw [union_assoc]
    exact .cons hc ih

theorem Spelled.flag {c : Char} {m : Modifiers} (hc : Letter c m) (held : Bool) :
    (bif held then m else empty).Spelled (if held then [c, '-'] else []) := by
  cases held with
  | true =>
    have h := Spelled.cons hc .nil
    have hm : m.union empty = m := by simp [union, empty]
    rwa [hm] at h
  | false => exact .nil

theorem spelled_letters (m : Modifiers) : m.Spelled m.letters := by
  have h := (((Spelled.flag (.logo (.inl rfl)) m.logo).append
    (.flag (.alt (.inl rfl)) m.alt)).append
    (.flag (.control (.inl rfl)) m.control)).append (.flag (.shift (.inl rfl)) m.shift)
  have hm : (((bif m.logo then { logo := true } else empty).union
      (bif m.alt then { alt := true } else empty)).union
      (bif m.control then { control := true } else empty)).union
      (bif m.shift then { shift := true } else empty) = m := by
    obtain ⟨control, alt, shift, logo⟩ := m
    cases control <;> cases alt <;> cases shift <;> cases logo <;> rfl
  rwa [hm] at h

end Modifiers

theorem Key.ofName?_ne_char (name : List Char) (c : Char) : ofName? name ≠ some (char c) := by
  intro h
  rcases called_or_padded h with ⟨_, hname, -⟩ | ⟨_, _, hk, -⟩
  · cases hname
  · cases hk

/-- The name shown for a key of the keyboard is read as that key, for all but three. -/
theorem NamedKey.ofName?_name (k : NamedKey) : Key.ofName? k.name.toList =
    if k = delete ∨ k = backspace ∨ k = escape then none else some (.named k) := by
  cases k with
  | function i =>
    revert i
    decide +kernel
  | _ => decide +kernel

theorem MediaKey.ofName?_name (k : MediaKey) : Key.ofName? k.name.toList = some (.media k) :=
  Key.ofName?_name (.media k) _ (List.mem_singleton.mpr rfl)

namespace Mapping

/-- A stroke whose text is meant to be read: a bare character is neither `<` nor a backslash, a key
is shown by a name that it has, and modifiers are not held while nothing is typed. -/
def Legible (k : Stroke) : Prop :=
  match k.key with
  | .char c => k.modifiers = .empty → c ≠ '<' ∧ c ≠ '\\'
  | .named n => n ≠ .delete ∧ n ≠ .backspace ∧ n ≠ .escape
  | .media _ => True
  | .nothing => k.modifiers = .empty

/-- A name that can stand between brackets as it is: it is not empty, nothing in it closes the
bracket, and its first letter has no hyphen after it. -/
def Proper (name : List Char) : Prop :=
  name ≠ [] ∧ '>' ∉ name ∧ name.tail.head? ≠ some '-'

instance (name : List Char) : Decidable (Proper name) :=
  inferInstanceAs (Decidable (_ ∧ _ ∧ _))

theorem proper_namedKey (k : NamedKey) : Proper k.name.toList := by
  cases k with
  | function i =>
    revert i
    decide +kernel
  | _ => decide +kernel

theorem proper_mediaKey (k : MediaKey) : Proper k.name.toList := by
  cases k <;> decide +kernel

section Bracketed

variable {ms : Modifiers} {name : List Char} {k : Stroke}

theorem Proper.cut (h : Proper name) : Cut ('<' :: ms.letters ++ name ++ ['>'])
    [.special ms name] ['<' :: (ms.letters ++ name ++ ['>'])] [] := by
  obtain ⟨hne, hclose, htail⟩ := h
  have hended : Modifiers.Ended name := by
    rintro c m r - rfl
    exact htail rfl
  exact ⟨.cons (.special ms.spelled_letters hne hclose hended) .nil, by simp, Token.stuck_nil⟩

theorem Proper.readKeys_of_types (h : Proper name) (hk : (Token.special ms name).Types k) :
    readKeys ('<' :: ms.letters ++ name ++ ['>']) = .ok [k] :=
  readKeys_of_typed h.cut (.cons hk .nil)

theorem Proper.readKeys_of_not_known (h : Proper name) (hk : ¬ (Token.special ms name).Known) :
    readKeys ('<' :: ms.letters ++ name ++ ['>']) =
      .error (.unknownKey (String.ofList name)) := by
  rw [h.cut.readKeys_of_none_left]
  exact strokes_of_not_known (List.forall_mem_nil _) hk []

end Bracketed

theorem readKeys_named (n : NamedKey) (ms : Modifiers) :
    readKeys (Stroke.letters ⟨.named n, ms⟩) = .ok [⟨.named n, ms⟩] ↔ Legible ⟨.named n, ms⟩ := by
  have hname := n.ofName?_name
  rw [Stroke.letters, Legible]
  by_cases hn : n = .delete ∨ n = .backspace ∨ n = .escape
  · rw [if_pos hn] at hname
    have hunknown : ¬ (Token.special ms n.name.toList).Known := by
      rw [Token.Known, hname]
      rintro (h | ⟨c, h⟩)
      · cases h
      · have hlength : n.name.toList.length = 1 := congrArg List.length h
        revert hlength
        rcases hn with rfl | rfl | rfl <;> decide +kernel
    rw [(proper_namedKey n).readKeys_of_not_known hunknown]
    simpa [or_iff_not_imp_left] using hn
  · rw [if_neg hn] at hname
    rw [(proper_namedKey n).readKeys_of_types (.named hname)]
    simpa using hn

theorem readKeys_media (m : MediaKey) (ms : Modifiers) :
    readKeys (Stroke.letters ⟨.media m, ms⟩) = .ok [⟨.media m, ms⟩] :=
  (proper_mediaKey m).readKeys_of_types (.named m.ofName?_name)

theorem readKeys_nothing (ms : Modifiers) :
    readKeys (Stroke.letters ⟨.nothing, ms⟩) = .ok [⟨.nothing, ms⟩] ↔ ms = .empty := by
  have hread : readKeys (Stroke.letters ⟨.nothing, ms⟩) = .ok [.plain .nothing] := by
    change readKeys ['<', 'N', 'o', 'p', '>'] = _
    decide +kernel
  rw [hread]
  simp [Stroke.plain, eq_comm]

theorem readKeys_plain (c : Char) :
    readKeys (Stroke.plain (.char c)).letters = .ok [.plain (.char c)] ↔
      Legible (.plain (.char c)) := by
  have hread : readKeys [c] = .ok [.plain (.char c)] ↔ c ≠ '<' ∧ c ≠ '\\' := by
    constructor
    · intro h
      constructor <;> rintro rfl <;> revert h <;> decide +kernel
    · rintro ⟨hless, hbackslash⟩
      exact readKeys_eq_ok_iff.mpr
        ⟨_, _, .cons (.plain hless hbackslash) .nil, rfl, .cons (.char c) .nil⟩
  simpa [Legible, Stroke.letters, Stroke.plain] using hread

theorem readKeys_held {c : Char} {ms : Modifiers} (hms : ms ≠ .empty) (hc : c ≠ '>')
    (h : Key.ofName? [c] = none) :
    readKeys (Stroke.letters ⟨.char c, ms⟩) = .ok [⟨.char c, ms⟩] := by
  have hproper : Proper [c] := ⟨by simp, by simpa using hc.symm, by simp⟩
  rw [Stroke.letters]
  simpa [hms] using hproper.readKeys_of_types (.single h)

theorem exists_token {s : List Char} {ks : List Stroke} (h : readKeys s = .ok ks) {k : Stroke}
    (hk : k ∈ ks) : ∃ t w, Token.Spelled t w ∧ t.Types k := by
  obtain ⟨ts, ws, hspelled, -, htypes⟩ := readKeys_eq_ok_iff.mp h
  clear h
  induction htypes generalizing ws with
  | nil => cases hk
  | cons ht _ ih =>
    cases hspelled with
    | cons hw hws =>
      rcases List.mem_cons.mp hk with rfl | hk
      · exact ⟨_, _, hw, ht⟩
      · exact ih hk _ hws

/-- **The text of a stroke is a key sequence for it** exactly if it is legible, for all strokes that
key sequences type. -/
theorem readKeys_letters_iff {s : List Char} {ks : List Stroke} (h : readKeys s = .ok ks)
    {k : Stroke} (hk : k ∈ ks) : readKeys k.letters = .ok [k] ↔ Legible k := by
  obtain ⟨t, w, hw, ht⟩ := exists_token h hk
  cases ht with
  | char c => exact readKeys_plain c
  | @named ms name key hkey =>
    cases key with
    | char c => exact absurd hkey (Key.ofName?_ne_char name c)
    | named n => exact readKeys_named n ms
    | media m => exact iff_of_true (readKeys_media m ms) trivial
    | nothing => exact readKeys_nothing ms
  | @single ms c hnone =>
    cases hw with
    | special _ _ hclose _ =>
      have hc : c ≠ '>' := by
        rintro rfl
        exact hclose List.mem_cons_self
      by_cases hms : ms = .empty
      · subst hms
        exact readKeys_plain c
      · exact iff_of_true (readKeys_held hms hc hnone) fun heq => absurd heq hms

/-- A stroke with modifiers in another order and the name of a key in small letters. -/
theorem readKeys_letters_iff_held :
    let k : Stroke := ⟨.named .pageUp, { control := true, shift := true }⟩
    readKeys "a<s-C-pageup>".toList = .ok [.plain (.char 'a'), k] ∧
      k.letters = "<C-S-PageUp>".toList ∧ readKeys k.letters = .ok [k] := by
  intro k
  have h : readKeys "a<s-C-pageup>".toList = .ok [.plain (.char 'a'), k] := by decide +kernel
  exact ⟨h, by decide +kernel,
    (readKeys_letters_iff h (by simp)).mpr ⟨by decide, by decide, by decide⟩⟩

/-- Strokes that are typed by key sequences and whose texts are none for them: the key of `<Del>`, a
`<` after a backslash, and modifiers held while nothing is typed. -/
theorem readKeys_letters_lost :
    (readKeys "<Del>".toList = .ok [.plain (.named .delete)] ∧
      readKeys (Stroke.plain (.named .delete)).letters = .error (.unknownKey "Delete")) ∧
    (readKeys "\\<".toList = .ok [.plain (.char '<')] ∧
      readKeys (Stroke.plain (.char '<')).letters = .error (.unreadable "<")) ∧
    readKeys "<C-Nop>".toList = .ok [⟨.nothing, { control := true }⟩] ∧
      readKeys (Stroke.letters ⟨.nothing, { control := true }⟩) = .ok [.plain .nothing] := by
  decide +kernel

end Mapping

end InlineRemote
