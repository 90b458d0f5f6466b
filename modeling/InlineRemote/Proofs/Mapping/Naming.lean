import InlineRemote.Proofs.Mapping.Toggles

/-! # Triggers as names

A trigger is read back from its text, whatever stands after it that is not one more button, so that
its text names it.  The modes of a file are named by the texts of their triggers: two blocks have one
mode exactly if they are opened by the same buttons, in whatever case these are written.  The two
readers of a button agree on words in brackets. -/
namespace InlineRemote

-- One button.

namespace Text

theorem trim_eq_self {s : List Char} (hfirst : ∀ c ∈ s.head?, isBlank c = false)
    (hlast : Trimmed s) : trim s = s := by
  have hstart : s.dropWhile isBlank = s := by
    cases s with
    | nil => rfl
    | cons c s => rw [List.dropWhile_cons_of_neg (by simp [hfirst c rfl])]
  rw [trim, hstart, trimEnd]
  cases hs : s.reverse with
  | nil => exact (List.reverse_eq_nil_iff.mp hs).symm
  | cons c r =>
    have hc : isBlank c = false := hlast c (by rw [← List.head?_reverse, hs]; rfl)
    rw [List.dropWhile_cons_of_neg (by simp [hc]), ← hs, List.reverse_reverse]

end Text

namespace Button

/-- A text starts with the name of a button in angle brackets, in any ASCII case. -/
def Starts (s : List Char) : Prop :=
  ∃ (b : Button) (name r : List Char), name.map Char.toLower = b.word ∧
    s = '<' :: (name ++ '>' :: r)

theorem read?_eq_none_iff {s : List Char} : read? s = none ↔ ¬ Starts s := by
  rw [Option.eq_none_iff_forall_ne_some]
  constructor
  · rintro h ⟨b, name, r, hname, hs⟩
    exact h (b, r) (read?_eq_some_iff.mpr ⟨name, hname, hs⟩)
  · rintro h ⟨b, r⟩ hread
    obtain ⟨name, hname, hs⟩ := read?_eq_some_iff.mp hread
    exact h ⟨b, name, r, hname, hs⟩

theorem ofWord?_eq_some_iff {w : List Char} {b : Button} :
    ofWord? w = some b ↔ w.map Char.toLower = b.word := by
  constructor
  · intro h
    simpa [eq_comm] using List.find?_some h
  · intro h
    rw [ofWord?, h]
    cases b <;> rfl

theorem exists_word {s : List Char} (hfirst : s.head? = some '<') (hlast : s.getLast? = some '>') :
    ∃ w, s = '<' :: (w ++ ['>']) := by
  cases s with
  | nil => cases hfirst
  | cons c s =>
    obtain rfl := Option.some.inj hfirst
    rcases List.eq_nil_or_concat' s with rfl | ⟨w, d, rfl⟩
    · cases hlast
    · rw [← List.cons_append, List.getLast?_concat] at hlast
      obtain rfl := Option.some.inj hlast
      exact ⟨w, rfl⟩

theorem ofText_bracketed {s : String} {w : List Char} (h : s.toList = '<' :: (w ++ ['>']))
    (b : Button) : ofText s = .ok b ↔ w.map Char.toLower = b.word := by
  have htrim : Text.trim s.toList = '<' :: (w ++ ['>']) := by
    rw [h]
    refine Text.trim_eq_self ?_ ?_
    · rintro c ⟨⟩
      decide
    · rw [← List.cons_append]
      intro c hc
      rw [List.getLast?_concat] at hc
      obtain rfl := Option.some.inj hc
      decide
  have hword : unbracket ('<' :: (w ++ ['>'])) = w := by simp [unbracket]
  rw [← ofWord?_eq_some_iff, ofText, htrim]
  simp only [hword]
  cases ofWord? w <;> simp

theorem read?_bracketed (w : List Char) (b : Button) :
    read? ('<' :: (w ++ ['>'])) = some (b, []) ↔ w.map Char.toLower = b.word := by
  rw [read?_eq_some_iff]
  constructor
  · rintro ⟨name, hname, h⟩
    rw [List.cons.injEq] at h
    rwa [List.append_cancel_right h.2]
  · intro h
    exact ⟨w, h, rfl⟩

theorem word_small {b : Button} {d : Char} (hd : d ∈ b.word) :
    d.toNat < 128 ∧ d.toLower = d := by
  have hall : b.word.all fun d => d.toNat < 128 ∧ d.toLower = d := by cases b <;> rfl
  simpa using List.all_eq_true.mp hall d hd

theorem toLower_of_large {c : Char} (hc : ¬ c.toNat < 128) : c.toLower = c := by
  refine dif_neg ?_
  rintro ⟨-, hcapital⟩
  exact hc (Nat.lt_of_le_of_lt (UInt32.le_iff_toNat_le.mp hcapital) (by decide))

/-- A lower case for all characters: ASCII characters have their small letters, and no other
character has a letter of the buttons' words for its lower case. -/
structure LowerCase (lower : Char → List Char) : Prop where
  ascii : ∀ c, c.toNat < 128 → lower c = [c.toLower]
  other : ∀ c, 128 ≤ c.toNat → ∀ b : Button, ∀ d ∈ b.word, lower c ≠ [d]

/-- The lower case of ASCII, with the small letter of the Kelvin sign. -/
def kelvinLower (c : Char) : List Char :=
  if c = '\u212A' then ['k'] else [c.toLower]

theorem lowerCase_kelvinLower : LowerCase kelvinLower where
  ascii c hc := by
    rw [kelvinLower, if_neg]
    rintro rfl
    exact absurd hc (by decide)
  other c hc b d hd := by
    rw [kelvinLower]
    split
    · have hnone : 'k' ∉ b.word := by cases b <;> decide
      intro h
      obtain rfl := (List.cons.inj h).1
      exact hnone hd
    · rw [toLower_of_large (by omega)]
      intro h
      obtain rfl := (List.cons.inj h).1
      exact absurd (word_small hd).1 (by omega)

/-- Strips a word from the start of a text, where letters are the same if their lower cases are. -/
def stripFolded (lower : Char → List Char) : List Char → List Char → Option (List Char)
  | [], s => some s
  | _ :: _, [] => none
  | w :: ws, c :: s => if lower c = lower w then stripFolded lower ws s else none

theorem LowerCase.same_iff {lower : Char → List Char} (h : LowerCase lower) {b : Button} {d : Char}
    (hd : d ∈ b.word) (c : Char) : lower c = lower d ↔ c.toLower = d := by
  have hsmall := word_small hd
  rw [h.ascii d hsmall.1, hsmall.2]
  by_cases hc : c.toNat < 128
  · rw [h.ascii c hc, List.singleton_inj]
  · refine iff_of_false (h.other c (by omega) b d hd) fun hcd => hc ?_
    rw [← toLower_of_large hc, hcd]
    exact hsmall.1

theorem stripFolded_word {lower : Char → List Char} (h : LowerCase lower) (b : Button)
    (s : List Char) : stripFolded lower b.word s = stripWord b.word s := by
  -- The induction is on what is left of the word, whose letters are letters of the word.
  have hword (ws : List Char) (hws : ∀ d ∈ ws, d ∈ b.word) (s : List Char) :
      stripFolded lower ws s = stripWord ws s := by
    induction ws generalizing s with
    | nil => rfl
    | cons d ws ih =>
      obtain ⟨hd, hrest⟩ := List.forall_mem_cons.mp hws
      cases s with
      | nil => rfl
      | cons c s =>
        rw [stripFolded, stripWord, ih hrest]
        simp only [h.same_iff hd c]
  exact hword b.word (fun d hd => hd) s

end Button

-- The modes of a file.

namespace Mapping

/-- The triggers of the lines that open modes, in their order. -/
inductive Opened : List (List Char × Nat) → List Trigger → Prop
  | nil : Opened [] []
  | opening {s : List Char} {n : Nat} {t : Trigger} {ls : List (List Char × Nat)} {ts : List Trigger}
      (h : (Line.opening t).Form s) (hrest : Opened ls ts) : Opened ((s, n) :: ls) (t :: ts)
  | other {s : List Char} {n : Nat} {ls : List (List Char × Nat)} {ts : List Trigger}
      (h : ∀ t, ¬ (Line.opening t).Form s) (hrest : Opened ls ts) : Opened ((s, n) :: ls) ts

theorem exists_opened (ls : List (List Char × Nat)) : ∃ ts, Opened ls ts := by
  induction ls with
  | nil => exact ⟨[], .nil⟩
  | cons l ls ih =>
    obtain ⟨ts, hts⟩ := ih
    by_cases h : ∃ t, (Line.opening t).Form l.1
    · obtain ⟨t, ht⟩ := h
      exact ⟨t :: ts, .opening ht hts⟩
    · exact ⟨ts, .other (not_exists.mp h) hts⟩

theorem Line.Form.unique {l m : Line} {s : List Char} (hl : l.Form s) (hm : m.Form s) : l = m :=
  Option.some.inj ((Line.read?_of_form hl).symm.trans (Line.read?_of_form hm))

theorem Opened.modes {ls : List (List Char × Nat)} {ts : List Trigger} {xs : List Statement}
    (h : Opened ls ts) (hxs : List.Forall₂ Means ls xs) :
    xs.filterMap Statement.mode? = ts.map fun t => ⟨t.text⟩ := by
  induction h generalizing xs with
  | nil =>
    cases hxs
    rfl
  | opening ht _ ih =>
    cases hxs with
    | cons hx hxs =>
      have hrest := ih hxs
      -- The line has no other form, so that it means what it opens.
      cases hx with
      | map h => cases h.unique ht
      | command h => cases h.unique ht
      | opening h =>
        obtain rfl := Line.opening.inj (h.unique ht)
        exact congrArg (_ :: ·) hrest
      | closing h => cases h.unique ht
  | other hnot _ ih =>
    cases hxs with
    | cons hx hxs =>
      have hrest := ih hxs
      cases hx with
      | map => exact hrest
      | command => exact hrest
      | opening h => exact absurd h (hnot _)
      | closing => exact hrest

theorem modes_of_read {text : List Char} {set : MappingSet} {ts : List Trigger}
    (h : read text = .ok set) (hts : Opened (numbered 1 (lines text)) ts) :
    set.modes = ts.map fun t => ⟨t.text⟩ := by
  obtain ⟨xs, hxs⟩ := accepted_of_read h
  rw [hxs.declared, ← hts.modes hxs.means]
  rfl

end Mapping

namespace Trigger

open Mapping

theorem read?_text_append {t : Trigger} {r : List Char} (ht : t ≠ []) (hr : ¬ Button.Starts r) :
    read? (t.text.toList ++ r) = some (t, r) := by
  rw [text, String.toList_ofList]
  exact read?_eq_some_iff.mpr
    ⟨ht, _, t.spelled_letters, rfl, Button.read?_eq_none_iff.mpr hr⟩

/-- **A trigger is named by its text.**  Its text is read back as that trigger, and what stands
after it is left, if that does not start with one more button.  So different triggers have different
texts, and the blocks of two files, or of one, have the same mode exactly if their triggers are the
same buttons.  A word in angle brackets is read as a button by itself exactly if it is read whole at
the start of a text; and it makes no difference there whether the case of all characters counts or
only that of ASCII letters. -/
theorem text_names :
    (∀ (t : Trigger) (r : List Char), t ≠ [] → ¬ Button.Starts r →
      read? (t.text.toList ++ r) = some (t, r)) ∧
    Function.Injective text ∧
    (∀ (a b : List Char) (x y : MappingSet), read a = .ok x → read b = .ok y →
      (∃ ts, Opened (numbered 1 (lines a)) ts) ∧
      ∀ (ts us : List Trigger),
        Opened (numbered 1 (lines a)) ts → Opened (numbered 1 (lines b)) us →
        x.modes.length = ts.length ∧
        ∀ (i j : Nat) (t u : Trigger), ts[i]? = some t → us[j]? = some u → (x.modes[i]? = y.modes[j]? ↔ t = u)) ∧
    (∀ s : String, s.toList.head? = some '<' → s.toList.getLast? = some '>' → ∀ b,
      Button.ofText s = .ok b ↔ Button.read? s.toList = some (b, [])) ∧
    ∀ lower, Button.LowerCase lower → ∀ (b : Button) (s : List Char),
      Button.stripFolded lower b.word s = Button.stripWord b.word s := by
  refine ⟨fun _ _ => read?_text_append, text_injective, ?_, ?_,
    fun lower h => Button.stripFolded_word h⟩
  · intro a b x y ha hb
    refine ⟨exists_opened _, fun ts us hts hus => ?_⟩
    rw [modes_of_read ha hts, modes_of_read hb hus]
    refine ⟨List.length_map _, fun i j t u ht hu => ?_⟩
    rw [List.getElem?_map, List.getElem?_map, ht, hu, Option.map_some, Option.map_some,
      Option.some.injEq, ModeId.mk.injEq, text_injective.eq_iff]
  · intro s hfirst hlast b
    obtain ⟨w, hw⟩ := Button.exists_word hfirst hlast
    rw [Button.ofText_bracketed hw, hw, Button.read?_bracketed]

/-- What follows a trigger may begin like a button, and two blocks may write one trigger in two
cases. -/
theorem text_names_cased :
    let file := "mode <Play><Up> \x7b\n\x7d\nmode <PLAY><uP>\x7b\n\x7d".toList
    read? ((text [.play, .up]).toList ++ "<pLAy k".toList) = some ([.play, .up], "<pLAy k".toList) ∧
    (∃ set, Mapping.read file = .ok set ∧ set.modes.length = 2 ∧
      set.modes[0]? = set.modes[1]?) ∧
    Button.read? "<dOwN>".toList = some (.down, []) ∧
    Button.stripFolded Button.kelvinLower Button.up.word "uP>\u212A".toList =
      some ">\u212A".toList := by
  intro file
  obtain ⟨htext, -, hmodes, hbutton, hfold⟩ := text_names
  refine ⟨htext _ _ (by decide) (Button.read?_eq_none_iff.mp (by decide)), ?_, ?_, ?_⟩
  · have hread : Mapping.read file = .ok ⟨[⟨"<Play><Up>"⟩, ⟨"<Play><Up>"⟩], [
        ⟨.global, [.play, .up], .activate ⟨"<Play><Up>"⟩⟩,
        ⟨.mode ⟨"<Play><Up>"⟩, [.play, .up], .deactivate ⟨"<Play><Up>"⟩⟩,
        ⟨.global, [.play, .up], .activate ⟨"<Play><Up>"⟩⟩,
        ⟨.mode ⟨"<Play><Up>"⟩, [.play, .up], .deactivate ⟨"<Play><Up>"⟩⟩]⟩ := by decide +kernel
    have hnumbered : numbered 1 (lines file) = [("mode <Play><Up> \x7b".toList, 1), (['\x7d'], 2),
        ("mode <PLAY><uP>\x7b".toList, 3), (['\x7d'], 4)] := by decide +kernel
    have hfirst : (Line.opening [.play, .up]).Form "mode <Play><Up> \x7b".toList :=
      (Line.read?_eq_some_iff (Text.trimmed_trim "mode <Play><Up> \x7b".toList)).mp
        (by decide +kernel)
    have hsecond : (Line.opening [.play, .up]).Form "mode <PLAY><uP>\x7b".toList :=
      (Line.read?_eq_some_iff (Text.trimmed_trim "mode <PLAY><uP>\x7b".toList)).mp
        (by decide +kernel)
    have hclosing : ∀ t, ¬ (Line.opening t).Form ['\x7d'] := fun t h => nomatch h.unique .closing
    have hopened : Opened (numbered 1 (lines file)) [[.play, .up], [.play, .up]] := by
      rw [hnumbered]
      exact .opening hfirst (.other hclosing (.opening hsecond (.other hclosing .nil)))
    obtain ⟨hlength, hsame⟩ := (hmodes _ _ _ _ hread hread).2 _ _ hopened hopened
    exact ⟨_, hread, hlength, (hsame 0 1 _ _ rfl rfl).mpr rfl⟩
  · exact (hbutton "<dOwN>" (by decide) (by decide) .down).mp (by decide)
  · rw [hfold _ Button.lowerCase_kelvinLower]
    decide

end Trigger

end InlineRemote
