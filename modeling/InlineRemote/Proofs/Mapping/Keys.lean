import InlineRemote.Mapping.File
import InlineRemote.Proofs.Mapping.Line
import Mathlib.Data.List.Forall2

/-! # The grammar of key sequences

Which letters spell a token is told without the reader.  The reader takes the one token that can
stand at the start of a text, so a text is cut in one way only into tokens and a rest at which no
token can stand.  A key sequence is read if nothing is left and every name is known; otherwise the
rest is the fault, and only then the first unknown name. -/
namespace InlineRemote

namespace Modifiers

/-- The letters of modifiers, in either case. -/
inductive Letter : Char → Modifiers → Prop
  | control {c : Char} (h : c = 'C' ∨ c = 'c') : Letter c { control := true }
  | alt {c : Char} (h : c = 'A' ∨ c = 'a') : Letter c { alt := true }
  | shift {c : Char} (h : c = 'S' ∨ c = 's') : Letter c { shift := true }
  | logo {c : Char} (h : c = 'D' ∨ c = 'd') : Letter c { logo := true }

/-- A text spells modifiers: letters with a hyphen after each. -/
inductive Spelled : Modifiers → List Char → Prop
  | nil : Spelled .empty []
  | cons {c : Char} {m ms : Modifiers} {w : List Char} (hc : Letter c m) (h : Spelled ms w) :
      Spelled (m.union ms) (c :: '-' :: w)

/-- A text does not start with the letter of a modifier and a hyphen. -/
def Ended (s : List Char) : Prop :=
  ∀ c m r, Letter c m → s ≠ c :: '-' :: r

theorem eq_or_eq_of_toUpper {c u l : Char} (hl : l.val = u.val - ('A'.val - 'a'.val))
    (h : c.toUpper = u) : c = u ∨ c = l := by
  unfold Char.toUpper at h
  split at h
  · subst h
    right
    apply Char.ext
    simp [hl]
  · exact .inl h

theorem ofLetter?_eq_some_iff {c : Char} {m : Modifiers} :
    ofLetter? c = some m ↔ Letter c m := by
  constructor
  · intro h
    rw [ofLetter?] at h
    split at h
    · next hc =>
      obtain rfl := Option.some.inj h
      exact .control (eq_or_eq_of_toUpper (by decide) hc)
    · next hc =>
      obtain rfl := Option.some.inj h
      exact .alt (eq_or_eq_of_toUpper (by decide) hc)
    · next hc =>
      obtain rfl := Option.some.inj h
      exact .shift (eq_or_eq_of_toUpper (by decide) hc)
    · next hc =>
      obtain rfl := Option.some.inj h
      exact .logo (eq_or_eq_of_toUpper (by decide) hc)
    · cases h
  · rintro (h | h | h | h) <;> rcases h with rfl | rfl <;> rfl

end Modifiers

namespace Mapping

namespace Token

/-- A text spells a token. -/
inductive Spelled : Token → List Char → Prop
  | backslash : Spelled (.char '\\') ['\\', '\\']
  | less : Spelled (.char '<') ['\\', '<']
  | plain {c : Char} (hless : c ≠ '<') (hbackslash : c ≠ '\\') : Spelled (.char c) [c]
  /-- The letters of modifiers are taken as far as they go. -/
  | special {ms : Modifiers} {w name : List Char} (hw : ms.Spelled w) (hne : name ≠ [])
      (hclose : '>' ∉ name) (hended : Modifiers.Ended name) :
      Spelled (.special ms name) ('<' :: (w ++ name ++ ['>']))

/-- No token stands at the start of a text. -/
def Stuck (s : List Char) : Prop :=
  ∀ t w r, Spelled t w → s ≠ w ++ r

/-- What a token types: its name may be that of a key, or else a single character. -/
inductive Types : Token → Stroke → Prop
  | char (c : Char) : Types (.char c) (.plain (.char c))
  | named {ms : Modifiers} {name : List Char} {k : Key} (h : Key.ofName? name = some k) :
      Types (.special ms name) ⟨k, ms⟩
  | single {ms : Modifiers} {c : Char} (h : Key.ofName? [c] = none) :
      Types (.special ms [c]) ⟨.char c, ms⟩

/-- A token whose name, if it has one, is that of a key or a single character. -/
def Known : Token → Prop
  | char _ => True
  | special _ name => (Key.ofName? name).isSome ∨ ∃ c, name = [c]

-- One token.

theorem readModifiers_of_ended {s : List Char} (h : Modifiers.Ended s) :
    readModifiers s = (.empty, s) := by
  unfold readModifiers
  split
  · next c s =>
    have hnone : Modifiers.ofLetter? c = none :=
      Option.eq_none_iff_forall_ne_some.mpr fun m hm =>
        h c m s (Modifiers.ofLetter?_eq_some_iff.mp hm) rfl
    rw [hnone]
  · rfl

theorem readModifiers_eq_iff {s r : List Char} {ms : Modifiers} :
    readModifiers s = (ms, r) ↔ ∃ w, ms.Spelled w ∧ s = w ++ r ∧ Modifiers.Ended r := by
  constructor
  · intro h
    fun_induction readModifiers s generalizing ms with
    | case1 c s m hm ms' r' hr ih =>
      obtain ⟨rfl, rfl⟩ := Prod.mk.inj h
      obtain ⟨w, hw, rfl, hended⟩ := ih hr
      exact ⟨_, .cons (Modifiers.ofLetter?_eq_some_iff.mp hm) hw, rfl, hended⟩
    | case2 c s hm =>
      obtain ⟨rfl, rfl⟩ := Prod.mk.inj h
      refine ⟨[], .nil, rfl, fun d m r hd heq => ?_⟩
      obtain ⟨rfl, -⟩ := List.cons.inj heq
      rw [Modifiers.ofLetter?_eq_some_iff.mpr hd] at hm
      cases hm
    | case3 s hs =>
      obtain ⟨rfl, rfl⟩ := Prod.mk.inj h
      exact ⟨[], .nil, rfl, fun c m r _ heq => hs c r heq⟩
  · rintro ⟨w, hw, rfl, hended⟩
    induction hw with
    | nil => exact readModifiers_of_ended hended
    | cons hc _ ih =>
      rw [List.cons_append, List.cons_append, readModifiers,
        Modifiers.ofLetter?_eq_some_iff.mpr hc]
      simp only [ih]

theorem ended_append_close {name r : List Char} (hclose : '>' ∉ name) :
    Modifiers.Ended (name ++ '>' :: r) ↔ Modifiers.Ended name := by
  constructor
  · rintro h c m r' hc rfl
    exact h c m (r' ++ '>' :: r) hc rfl
  · rintro h c m r' hc heq
    match name with
    | [] =>
      obtain ⟨rfl, -⟩ := List.cons.inj heq
      cases hc <;> rename_i h <;> rcases h with h | h <;> cases h
    | [d] =>
      obtain ⟨-, heq⟩ := List.cons.inj heq
      cases (List.cons.inj heq).1
    | d :: e :: name =>
      rw [List.cons_append, List.cons_append, List.cons.injEq, List.cons.injEq] at heq
      obtain ⟨rfl, rfl, -⟩ := heq
      exact h d m name hc rfl

theorem readSpecial_eq_some_iff {s r : List Char} {t : Token} :
    readSpecial s = some (t, r) ↔ ∃ ms w name, ms.Spelled w ∧ name ≠ [] ∧ '>' ∉ name ∧
      Modifiers.Ended name ∧ t = .special ms name ∧ s = w ++ name ++ '>' :: r := by
  constructor
  · intro h
    obtain ⟨⟨ms, s'⟩, hread⟩ : ∃ p, readModifiers s = p := ⟨_, rfl⟩
    obtain ⟨w, hw, rfl, hended⟩ := readModifiers_eq_iff.mp hread
    have hsplit := (List.takeWhile_append_dropWhile (p := (· ≠ '>')) (l := s')).symm
    have hmem := List.all_eq_true.mp (List.all_takeWhile (p := (· ≠ '>')) (l := s'))
    have hhead := List.head?_dropWhile_not (· ≠ '>') s'
    rw [readSpecial, hread] at h
    simp only at h
    split at h
    · cases h
    · cases h
    · next c name d rest hname hrest =>
      obtain ⟨rfl, rfl⟩ := Prod.mk.inj (Option.some.inj h)
      rw [hrest] at hhead
      obtain rfl : d = '>' := by simpa using hhead
      have hclose : '>' ∉ c :: name := by
        intro hin
        rw [← hname] at hin
        simpa using hmem '>' hin
      rw [hname, hrest] at hsplit
      subst hsplit
      exact ⟨ms, w, c :: name, hw, by simp, hclose, (ended_append_close hclose).mp hended, rfl,
        by simp⟩
  · rintro ⟨ms, w, name, hw, hne, hclose, hended, rfl, rfl⟩
    have hread : readModifiers (w ++ name ++ '>' :: r) = (ms, name ++ '>' :: r) :=
      readModifiers_eq_iff.mpr ⟨w, hw, by simp, (ended_append_close hclose).mpr hended⟩
    have hname : ∀ c ∈ name, (decide (c ≠ '>')) = true := by
      intro c hc
      rw [decide_eq_true_eq]
      rintro rfl
      exact hclose hc
    obtain ⟨c, name, rfl⟩ := List.exists_cons_of_ne_nil hne
    rw [readSpecial, hread]
    simp only [List.takeWhile_append_of_pos hname, List.dropWhile_append_of_pos hname]
    simp

/-- The reader of tokens takes the one that stands at the start of a text. -/
theorem read?_eq_some_iff {s r : List Char} {t : Token} :
    read? s = some (t, r) ↔ ∃ w, t.Spelled w ∧ s = w ++ r := by
  constructor
  · intro h
    unfold read? at h
    split at h
    · cases h
    · obtain ⟨ms, w, name, hw, hne, hclose, hended, rfl, rfl⟩ := readSpecial_eq_some_iff.mp h
      exact ⟨_, .special hw hne hclose hended, by simp⟩
    · obtain ⟨rfl, rfl⟩ := Prod.mk.inj (Option.some.inj h)
      exact ⟨_, .backslash, rfl⟩
    · obtain ⟨rfl, rfl⟩ := Prod.mk.inj (Option.some.inj h)
      exact ⟨_, .less, rfl⟩
    · cases h
    · next c s hless _ _ hbackslash =>
      obtain ⟨rfl, rfl⟩ := Prod.mk.inj (Option.some.inj h)
      exact ⟨[c], .plain (fun heq => hless heq) (fun heq => hbackslash heq), rfl⟩
  · rintro ⟨w, hw, rfl⟩
    cases hw with
    | backslash => rfl
    | less => rfl
    | @plain c hless hbackslash =>
      rw [List.singleton_append]
      unfold read?
      split <;> simp_all
    | @special ms w name hw hne hclose hended =>
      exact readSpecial_eq_some_iff.mpr
        ⟨ms, w, name, hw, hne, hclose, hended, rfl, by simp⟩

theorem read?_eq_none_iff {s : List Char} : read? s = none ↔ Stuck s := by
  constructor
  · rintro h t w r hw rfl
    rw [read?_eq_some_iff.mpr ⟨w, hw, rfl⟩] at h
    cases h
  · intro h
    refine Option.eq_none_iff_forall_ne_some.mpr fun ⟨t, r⟩ hread => ?_
    obtain ⟨w, hw, hs⟩ := read?_eq_some_iff.mp hread
    exact h t w r hw hs

theorem Stuck.head? {s : List Char} (h : Stuck s) (hs : s ≠ []) :
    s.head? = some '<' ∨ s.head? = some '\\' := by
  obtain ⟨c, s, rfl⟩ := List.exists_cons_of_ne_nil hs
  by_contra hother
  simp only [List.head?_cons, Option.some.injEq, not_or] at hother
  exact h _ [c] s (.plain hother.1 hother.2) rfl

theorem Spelled.unique {t u : Token} {v w r r' : List Char} (ht : t.Spelled w) (hu : u.Spelled v)
    (h : v ++ r' = w ++ r) : u = t ∧ v = w ∧ r' = r := by
  have hread : read? (w ++ r) = some (t, r) := read?_eq_some_iff.mpr ⟨w, ht, rfl⟩
  rw [read?_eq_some_iff.mpr ⟨v, hu, h.symm⟩] at hread
  obtain ⟨rfl, rfl⟩ := Prod.mk.inj (Option.some.inj hread)
  exact ⟨rfl, List.append_cancel_right h, rfl⟩

-- What a token types.

variable {t : Token} {k : Stroke} {ms : Modifiers} {name : List Char}

theorem Types.stroke (h : t.Types k) : t.stroke = .ok k := by
  cases h with
  | char c => rfl
  | named hk => simp only [Token.stroke, hk]
  | single hnone => simp only [Token.stroke, hnone]

theorem Known.exists_types (h : t.Known) : ∃ k, t.Types k := by
  cases t with
  | char c => exact ⟨_, .char c⟩
  | special ms name =>
    cases hk : Key.ofName? name with
    | some k => exact ⟨_, .named hk⟩
    | none =>
      rcases h with h | ⟨c, rfl⟩
      · rw [hk] at h
        cases h
      · exact ⟨_, .single hk⟩

theorem stroke_of_not_known (h : ¬ (special ms name).Known) :
    (special ms name).stroke = .error (.unknownKey (String.ofList name)) := by
  rw [Known, not_or] at h
  have hnone : Key.ofName? name = none := by simpa using h.1
  match name with
  | [] => simp only [stroke, hnone]
  | [c] => exact absurd ⟨c, rfl⟩ h.2
  | c :: d :: name => simp only [stroke, hnone]

theorem types_or_not_known (t : Token) :
    (∃ k, t.Types k) ∨ ∃ ms name, t = special ms name ∧ ¬ (special ms name).Known := by
  by_cases h : t.Known
  · exact .inl h.exists_types
  · cases t with
    | char c => exact absurd trivial h
    | special ms name => exact .inr ⟨ms, name, rfl, h⟩

theorem Types.known (h : t.Types k) : t.Known := by
  cases h with
  | char c => trivial
  | named hk => exact .inl (by rw [hk]; rfl)
  | @single ms c hnone => exact .inr ⟨c, rfl⟩

end Token

-- Rows of tokens.

/-- A text is cut into tokens, with a rest at which no token stands. -/
structure Cut (s : List Char) (ts : List Token) (ws : List (List Char)) (rest : List Char) :
    Prop where
  spelled : List.Forall₂ Token.Spelled ts ws
  text : s = ws.flatten ++ rest
  stuck : Token.Stuck rest

theorem Token.stuck_nil : Token.Stuck [] :=
  read?_eq_none_iff.mp rfl

theorem cut_readMany (s : List Char) :
    ∃ ws, Cut s (Token.readMany s).1 ws (Token.readMany s).2 := by
  fun_induction Token.readMany s with
  | case1 s hs => exact ⟨[], .nil, rfl, Token.read?_eq_none_iff.mp hs⟩
  | case2 s t r hs ts r' hr ih =>
    obtain ⟨w, hw, rfl⟩ := Token.read?_eq_some_iff.mp hs
    rw [hr] at ih
    obtain ⟨ws, hws, htext, hstuck⟩ := ih
    exact ⟨w :: ws, .cons hw hws, by rw [htext, List.flatten_cons, List.append_assoc], hstuck⟩

namespace Cut

variable {s rest rest' : List Char} {ts ts' : List Token} {ws ws' : List (List Char)}

theorem unique (h : Cut s ts ws rest) (h' : Cut s ts' ws' rest') :
    ts' = ts ∧ ws' = ws ∧ rest' = rest := by
  obtain ⟨hspelled, rfl, hstuck⟩ := h
  obtain ⟨hspelled', htext, hstuck'⟩ := h'
  induction hspelled generalizing ts' ws' with
  | nil =>
    cases hspelled' with
    | nil => exact ⟨rfl, rfl, htext.symm⟩
    | cons hw _ =>
      rw [List.flatten_nil, List.nil_append, List.flatten_cons, List.append_assoc] at htext
      exact absurd htext (hstuck _ _ _ hw)
  | cons hw _ ih =>
    cases hspelled' with
    | nil =>
      rw [List.flatten_nil, List.nil_append, List.flatten_cons, List.append_assoc] at htext
      exact absurd htext.symm (hstuck' _ _ _ hw)
    | cons hw' hws' =>
      rw [List.flatten_cons, List.flatten_cons, List.append_assoc, List.append_assoc] at htext
      obtain ⟨rfl, rfl, hrest⟩ := hw.unique hw' htext.symm
      obtain ⟨rfl, rfl, rfl⟩ := ih hws' hrest.symm
      exact ⟨rfl, rfl, rfl⟩

theorem readMany_eq (h : Cut s ts ws rest) : Token.readMany s = (ts, rest) := by
  obtain ⟨ws', hcut⟩ := cut_readMany s
  obtain ⟨hts, -, hrest⟩ := h.unique hcut
  exact Prod.ext hts hrest

theorem readKeys_of_left (h : Cut s ts ws rest) (hne : rest ≠ []) :
    readKeys s = .error (.unreadable (String.ofList rest)) := by
  rw [readKeys, h.readMany_eq]
  split
  · next heq => exact absurd (Prod.mk.inj heq).2 hne
  · next heq =>
    obtain ⟨-, rfl⟩ := Prod.mk.inj heq
    rfl

theorem readKeys_of_none_left (h : Cut s ts ws []) : readKeys s = strokes ts := by
  rw [readKeys, h.readMany_eq]

end Cut

theorem strokes_of_types {ts : List Token} {ks : List Stroke} (h : List.Forall₂ Token.Types ts ks) :
    strokes ts = .ok ks := by
  induction h with
  | nil => rfl
  | cons ht _ ih =>
    rw [strokes, ht.stroke, ih]

theorem strokes_of_not_known {before : List Token} {ms : Modifiers} {name : List Char}
    (hbefore : ∀ t ∈ before, t.Known) (h : ¬ (Token.special ms name).Known) (after : List Token) :
    strokes (before ++ .special ms name :: after) =
      .error (.unknownKey (String.ofList name)) := by
  induction before with
  | nil => rw [List.nil_append, strokes, Token.stroke_of_not_known h]
  | cons t before ih =>
    obtain ⟨ht, hrest⟩ := List.forall_mem_cons.mp hbefore
    obtain ⟨k, hk⟩ := ht.exists_types
    rw [List.cons_append, strokes, hk.stroke, ih hrest]

theorem types_or_first_not_known (ts : List Token) :
    (∃ ks, List.Forall₂ Token.Types ts ks) ∨ ∃ before ms name after,
      ts = before ++ .special ms name :: after ∧ (∀ t ∈ before, t.Known) ∧
        ¬ (Token.special ms name).Known := by
  induction ts with
  | nil => exact .inl ⟨[], .nil⟩
  | cons t ts ih =>
    rcases t.types_or_not_known with ⟨k, hk⟩ | ⟨ms, name, rfl, h⟩
    · rcases ih with ⟨ks, hks⟩ | ⟨before, ms, name, after, rfl, hbefore, h⟩
      · exact .inl ⟨k :: ks, .cons hk hks⟩
      · exact .inr ⟨t :: before, ms, name, after, rfl,
          List.forall_mem_cons.mpr ⟨hk.known, hbefore⟩, h⟩
    · exact .inr ⟨[], ms, name, ts, rfl, by simp, h⟩

theorem readKeys_of_typed {s : List Char} {ts : List Token} {ws : List (List Char)}
    {ks : List Stroke} (h : Cut s ts ws []) (ht : List.Forall₂ Token.Types ts ks) :
    readKeys s = .ok ks := by
  rw [h.readKeys_of_none_left, strokes_of_types ht]

/-- Why a key sequence is refused: no token stands where its rest starts, or all of it is tokens and
one of them has the first name that is not known. -/
inductive KeysRefused (s : List Char) : KeyFault → Prop
  | unreadable {ts : List Token} {ws : List (List Char)} {rest : List Char} (h : Cut s ts ws rest)
      (hne : rest ≠ []) : KeysRefused s (.unreadable (String.ofList rest))
  | unknownKey {before after : List Token} {ms : Modifiers} {name : List Char}
      {ws : List (List Char)} (h : Cut s (before ++ .special ms name :: after) ws [])
      (hbefore : ∀ t ∈ before, t.Known) (hname : ¬ (Token.special ms name).Known) :
      KeysRefused s (.unknownKey (String.ofList name))

theorem readKeys_of_refused {s : List Char} {fault : KeyFault} (h : KeysRefused s fault) :
    readKeys s = .error fault := by
  cases h with
  | unreadable h hne => exact h.readKeys_of_left hne
  | unknownKey h hbefore hname =>
    rw [h.readKeys_of_none_left, strokes_of_not_known hbefore hname]

/-- Every text is all tokens that type something, or there is a reason to refuse it. -/
theorem typed_or_refused (s : List Char) :
    (∃ ts ws ks, Cut s ts ws [] ∧ List.Forall₂ Token.Types ts ks) ∨
      ∃ fault, KeysRefused s fault := by
  obtain ⟨ws, hcut⟩ := cut_readMany s
  by_cases hrest : (Token.readMany s).2 = []
  · rw [hrest] at hcut
    rcases types_or_first_not_known (Token.readMany s).1 with
      ⟨ks, hks⟩ | ⟨before, ms, name, after, hts, hbefore, hname⟩
    · exact .inl ⟨_, ws, ks, hcut, hks⟩
    · rw [hts] at hcut
      exact .inr ⟨_, .unknownKey hcut hbefore hname⟩
  · exact .inr ⟨_, .unreadable hcut hrest⟩

/-- A text that is all tokens with known names is read, and any other is not. -/
theorem readKeys_eq_ok_iff {s : List Char} {ks : List Stroke} :
    readKeys s = .ok ks ↔ ∃ ts ws, List.Forall₂ Token.Spelled ts ws ∧ s = ws.flatten ∧
      List.Forall₂ Token.Types ts ks := by
  constructor
  · intro h
    rcases typed_or_refused s with ⟨ts, ws, ks', hcut, htypes⟩ | ⟨fault, hfault⟩
    · rw [readKeys_of_typed hcut htypes] at h
      obtain rfl := Except.ok.inj h
      exact ⟨ts, ws, hcut.spelled, by simpa using hcut.text, htypes⟩
    · rw [readKeys_of_refused hfault] at h
      cases h
  · rintro ⟨ts, ws, hspelled, rfl, htypes⟩
    exact readKeys_of_typed ⟨hspelled, by simp, Token.stuck_nil⟩ htypes

theorem readKeys_eq_error_iff {s : List Char} {fault : KeyFault} :
    readKeys s = .error fault ↔ KeysRefused s fault := by
  refine ⟨fun h => ?_, readKeys_of_refused⟩
  rcases typed_or_refused s with ⟨ts, ws, ks, hcut, htypes⟩ | ⟨fault', hfault⟩
  · rw [readKeys_of_typed hcut htypes] at h
    cases h
  · rw [readKeys_of_refused hfault] at h
    obtain rfl := Except.error.inj h
    exact hfault

theorem Progress.readLines_map (p : Progress) (n : Nat) {t : Trigger} {keys line : List Char}
    (h : (Line.map t keys).Form (Text.trim line)) (rest : List (List Char)) :
    p.readLines n (line :: rest) =
      match readKeys keys with
      | .ok ks => (p.enter t (.type ks)).readLines (n + 1) rest
      | .error fault => .error (.line n (.keys fault)) := by
  have hidle : Line.isIdle (Text.trim line) = false := by
    generalize Text.trim line = s at h
    cases h
    rfl
  rw [readLines, readLine, hidle, Line.read?_of_form h]
  cases hkeys : readKeys keys <;> simp [say, hkeys]

/-- **Key sequences are rows of tokens.**  A key sequence is read exactly if it is a row of tokens
with known names, one stroke for each.  Any text is cut in one way only into tokens and a rest that
starts with `<` or a backslash.  That rest is the fault if there is one, and otherwise the first
name that is not known; in a file the fault is reported for the number of its line. -/
theorem readKeys_by_tokens (s : List Char) :
    (∀ ks, readKeys s = .ok ks ↔ ∃ ts ws, List.Forall₂ Token.Spelled ts ws ∧ s = ws.flatten ∧
      List.Forall₂ Token.Types ts ks) ∧
    (∃ ts ws rest, Cut s ts ws rest ∧
      (rest = [] ∨ rest.head? = some '<' ∨ rest.head? = some '\\') ∧
      ∀ ts' ws' rest', Cut s ts' ws' rest' → ts' = ts ∧ ws' = ws ∧ rest' = rest) ∧
    (∀ fault, readKeys s = .error fault ↔ KeysRefused s fault) ∧
    ∀ (p : Progress) (n : Nat) (t : Trigger) (line : List Char) (rest : List (List Char)),
      (Line.map t s).Form (Text.trim line) →
      p.readLines n (line :: rest) =
        match readKeys s with
        | .ok ks => (p.enter t (.type ks)).readLines (n + 1) rest
        | .error fault => .error (.line n (.keys fault)) := by
  refine ⟨fun ks => readKeys_eq_ok_iff, ?_, fun fault => readKeys_eq_error_iff,
    fun p n t line rest h => p.readLines_map n h rest⟩
  obtain ⟨ws, hcut⟩ := cut_readMany s
  refine ⟨_, ws, _, hcut, ?_, fun ts' ws' rest' h => hcut.unique h⟩
  by_cases hrest : (Token.readMany s).2 = []
  · exact .inl hrest
  · exact .inr (hcut.stuck.head? hrest)

/-- A modifier may be repeated and a hyphen is a name; and on the seventh line a name that no key
has comes before a bracket with a modifier and no name, which is the fault. -/
theorem readKeys_by_tokens_seventh :
    readKeys "<d-C-c-F5>\\<<C-->".toList =
      .ok [⟨.named (.function 4), { control := true, logo := true }⟩, .plain (.char '<'),
        ⟨.char '-', { control := true }⟩] ∧
    ({} : Progress).readLines 7 [" map <Up> <Hyper>x<C->".toList] =
      .error (.line 7 (.keys (.unreadable "<C->"))) := by
  have hfunction : (Token.special { control := true, logo := true } ['F', '5']).Spelled
      "<d-C-c-F5>".toList :=
    .special (.cons (.logo (.inr rfl)) (.cons (.control (.inl rfl))
      (.cons (.control (.inr rfl)) .nil))) (by simp) (by simp) (by simp [Modifiers.Ended])
  have hhyphen : (Token.special { control := true } ['-']).Spelled "<C-->".toList :=
    .special (.cons (.control (.inl rfl)) .nil) (by simp) (by simp) (by simp [Modifiers.Ended])
  have hform : (Line.map [.up] "<Hyper>x<C->".toList).Form
      (Text.trim " map <Up> <Hyper>x<C->".toList) :=
    (Line.read?_eq_some_iff (Text.trimmed_trim _)).mp (by decide +kernel)
  have hkeys : readKeys "<Hyper>x<C->".toList = .error (.unreadable "<C->") := by decide +kernel
  constructor
  · exact ((readKeys_by_tokens _).1 _).mpr
      ⟨_, _, .cons hfunction (.cons .less (.cons hhyphen .nil)), rfl,
        .cons (.named (by decide)) (.cons (.char '<') (.cons (.single (by decide)) .nil))⟩
  · rw [(readKeys_by_tokens _).2.2.2 {} 7 [.up] _ [] hform, hkeys]

end Mapping

end InlineRemote
