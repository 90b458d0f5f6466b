import InlineRemote.Key.Name
import Mathlib.Data.List.Induction

/-! # The names that keys have

A key is named as a stroke shows it, but for a few keys of the keyboard that have shorter names or
several.  The reader of names takes these, in any ASCII case, and besides them function keys whose
number has a plus sign or zeros in front. -/
namespace InlineRemote

-- Decimal numbers.

namespace Text

theorem ofDigits_concat (base : Nat) (ds : List Char) (d : Char) :
    ofDigits base (ds ++ [d]) = base * ofDigits base ds + digitValue d := by
  simp [ofDigits]

theorem ofDigits_zeros {base : Nat} {zeros : List Char} (h : ∀ z ∈ zeros, z = '0')
    (ds : List Char) : ofDigits base (zeros ++ ds) = ofDigits base ds := by
  induction zeros with
  | nil => rfl
  | cons z zeros ih =>
    obtain ⟨rfl, hrest⟩ := List.forall_mem_cons.mp h
    exact ih hrest

theorem digitChar_digitValue {d : Char} (h : d.isDigit = true) :
    digitValue d < 10 ∧ (digitValue d).digitChar = d := by
  have hd : 48 ≤ d.toNat ∧ d.toNat ≤ 57 := by
    simpa [Char.isDigit, UInt32.le_iff_toNat_le, ← Char.toNat_val] using h
  have hvalue : digitValue d = d.toNat - 48 := by rw [digitValue, if_pos h]
  have hless : digitValue d < 10 := by omega
  refine ⟨hless, Char.toNat_inj.mp ?_⟩
  rw [Nat.toNat_digitChar_of_lt_ten hless]
  omega

theorem toDigits_ofDigits {ds : List Char} (hdigits : ∀ d ∈ ds, d.isDigit = true) (hne : ds ≠ [])
    (hzero : ds.head? ≠ some '0') : Nat.toDigits 10 (ofDigits 10 ds) = ds := by
  induction ds using List.reverseRecOn with
  | nil => exact absurd rfl hne
  | append_singleton ds d ih =>
    obtain ⟨hds, hd⟩ := List.forall_mem_append.mp hdigits
    obtain ⟨hless, hchar⟩ := digitChar_digitValue (hd d (List.mem_singleton.mpr rfl))
    have hlast : Nat.toDigits 10 (digitValue d) = [d] := by
      rw [Nat.toDigits_of_lt_base hless, hchar]
    rw [ofDigits_concat]
    by_cases hnil : ds = []
    · have hnone : ofDigits 10 [] = 0 := rfl
      rw [hnil, hnone, Nat.mul_zero, Nat.zero_add, hlast, List.nil_append]
    · have hhead : ds.head? ≠ some '0' := by
        obtain ⟨c, cs, rfl⟩ := List.exists_cons_of_ne_nil hnil
        exact hzero
      have hwritten := ih hds hnil hhead
      -- The digits before the last are no zeros, so that their number is written in front of it.
      have hpos : 0 < ofDigits 10 ds := by
        rw [Nat.pos_iff_ne_zero]
        intro hvalue
        rw [hvalue] at hwritten
        rw [← hwritten] at hhead
        exact hhead rfl
      rw [← Nat.toDigits_append_toDigits (by omega) hpos hless, hwritten, hlast]

theorem ofDigits_toDigits (n : Nat) : ofDigits 10 (Nat.toDigits 10 n) = n := by
  induction n using Nat.strongRecOn with
  | _ n ih =>
    by_cases hn : n < 10
    · have hall : ∀ n < 10, ofDigits 10 (Nat.toDigits 10 n) = n := by decide
      exact hall n hn
    · have hless : n % 10 < 10 := Nat.mod_lt _ (by omega)
      have hvalue : ∀ d < 10, digitValue d.digitChar = d := by decide
      rw [← Nat.div_add_mod n 10, ← Nat.toDigits_append_toDigits (by omega) (by omega) hless,
        Nat.toDigits_of_lt_base hless, ofDigits_concat, ih (n / 10) (by omega), hvalue _ hless]

/-- Digits of a number that is not zero are zeros and the number as it is written. -/
theorem ofDigits_eq_iff {ds : List Char} {n : Nat} (hn : 0 < n) :
    ((∀ d ∈ ds, d.isDigit = true) ∧ ofDigits 10 ds = n) ↔
      ∃ zeros, (∀ z ∈ zeros, z = '0') ∧ ds = zeros ++ Nat.toDigits 10 n := by
  constructor
  · rintro ⟨hdigits, rfl⟩
    have hsplit := (List.takeWhile_append_dropWhile (p := (· = '0')) (l := ds)).symm
    have hzeros : ∀ z ∈ ds.takeWhile (· = '0'), z = '0' := by
      intro z hz
      simpa using List.all_eq_true.mp (List.all_takeWhile (p := (· = '0')) (l := ds)) z hz
    have hvalue : ofDigits 10 ds = ofDigits 10 (ds.dropWhile (· = '0')) := by
      conv_lhs => rw [hsplit, ofDigits_zeros hzeros]
    have hne : ds.dropWhile (· = '0') ≠ [] := by
      intro hnil
      rw [hvalue, hnil] at hn
      exact absurd hn (by decide)
    have hhead : (ds.dropWhile (· = '0')).head? ≠ some '0' := by
      intro hhead
      have hnot := List.head?_dropWhile_not (· = '0') ds
      rw [hhead] at hnot
      exact absurd hnot (by simp)
    refine ⟨_, hzeros, ?_⟩
    rw [hvalue, toDigits_ofDigits _ hne hhead, ← hsplit]
    exact fun d hd => hdigits d ((List.dropWhile_suffix _).subset hd)
  · rintro ⟨zeros, hzeros, rfl⟩
    refine ⟨List.forall_mem_append.mpr ⟨fun z hz => ?_, fun d hd => ?_⟩, ?_⟩
    · rw [hzeros z hz]
      rfl
    · exact Nat.isDigit_of_mem_toDigits (by omega) (by omega) hd
    · rw [ofDigits_zeros hzeros, ofDigits_toDigits]

/-- What may stand in front of a number without changing it: a plus sign, and zeros. -/
def Filler (front : List Char) : Prop :=
  ∃ zeros, (∀ z ∈ zeros, z = '0') ∧ (front = zeros ∨ front = '+' :: zeros)

end Text

-- The names of keys.

/-- The names of a key of the keyboard: the one that a stroke shows, but for four keys. -/
def NamedKey.names : NamedKey → List String
  | enter => ["Return", "Enter", "CR"]
  | delete => ["Del"]
  | backspace => ["BS"]
  | escape => ["Esc"]
  | k => [k.name]

namespace Key

/-- The names of a key.  A character has none. -/
def names : Key → List String
  | char _ => []
  | named k => k.names
  | media k => [k.name]
  | nothing => ["Nop"]

/-- A text is a name of a key, in any ASCII case. -/
def Called (text : List Char) (k : Key) : Prop :=
  ∃ name ∈ k.names, text.map Char.toLower = name.toList.map Char.toLower

/-- A text stands for a key by its name.  The names of keyboard keys come first. -/
def Documented (text : List Char) (k : Key) : Prop :=
  Called text k ∧ ((∃ n, k = named n) ∨ ∀ n, ¬ Called text (named n))

/-- A text stands for a function key with something in front of its number. -/
def Padded (text : List Char) (k : Key) : Prop :=
  ∃ (i : Fin 12) (front : List Char), k = named (.function i) ∧ Text.Filler front ∧ front ≠ [] ∧
    text.map Char.toLower = 'f' :: (front ++ Nat.toDigits 10 (i.val + 1))

theorem decimal?_eq_some_iff {ds : List Char} {n : Nat} (hn : 0 < n) :
    decimal? ds = some n ↔ ∃ zeros, (∀ z ∈ zeros, z = '0') ∧ ds = zeros ++ Nat.toDigits 10 n := by
  rw [← Text.ofDigits_eq_iff hn, decimal?]
  constructor
  · intro h
    split at h
    · next hds => exact ⟨List.all_eq_true.mp hds.2, Option.some.inj h⟩
    · cases h
  · rintro ⟨hdigits, rfl⟩
    have hne : ds ≠ [] := by
      rintro rfl
      exact absurd hn (by decide)
    rw [if_pos ⟨hne, List.all_eq_true.mpr hdigits⟩]

theorem decimal?_unsigned_iff {s : List Char} {n : Nat} (hn : 0 < n) :
    decimal? (unsigned s) = some n ↔ ∃ front, Text.Filler front ∧
      s = front ++ Nat.toDigits 10 n := by
  constructor
  · intro h
    obtain ⟨zeros, hzeros, hs⟩ := (decimal?_eq_some_iff hn).mp h
    unfold unsigned at hs
    split at hs
    · exact ⟨'+' :: zeros, ⟨zeros, hzeros, .inr rfl⟩, congrArg ('+' :: ·) hs⟩
    · exact ⟨zeros, ⟨zeros, hzeros, .inl rfl⟩, hs⟩
  · rintro ⟨front, ⟨zeros, hzeros, rfl | rfl⟩, rfl⟩
    · have hread := (decimal?_eq_some_iff hn).mpr ⟨front, hzeros, rfl⟩
      unfold unsigned
      split
      · next heq =>
        rw [heq] at hread
        cases hread
      · exact hread
    · exact (decimal?_eq_some_iff hn).mpr ⟨zeros, hzeros, rfl⟩

theorem function?_eq_some_iff {w : List Char} {k : NamedKey} :
    function? w = some k ↔ ∃ (i : Fin 12) (front : List Char), k = .function i ∧
      Text.Filler front ∧ w = 'f' :: (front ++ Nat.toDigits 10 (i.val + 1)) := by
  constructor
  · intro h
    unfold function? at h
    split at h
    · split at h
      · next n hread =>
        split at h
        · next hn =>
          obtain rfl := Option.some.inj h
          obtain ⟨front, hfront, rfl⟩ := (decimal?_unsigned_iff n.succ_pos).mp hread
          exact ⟨⟨n, hn⟩, front, rfl, hfront, rfl⟩
        · cases h
      · cases h
    · cases h
  · rintro ⟨i, front, rfl, hfront, rfl⟩
    have hread := (decimal?_unsigned_iff i.val.succ_pos).mpr ⟨front, hfront, rfl⟩
    simp only [function?, hread, i.isLt, dite_true]

theorem called_function_iff {text : List Char} {i : Fin 12} :
    Called text (named (.function i)) ↔
      text.map Char.toLower = 'f' :: Nat.toDigits 10 (i.val + 1) := by
  have hname : ∀ i : Fin 12, (NamedKey.function i).name.toList.map Char.toLower =
      'f' :: Nat.toDigits 10 (i.val + 1) := by
    decide +kernel
  rw [← hname i]
  simp [Called, names, NamedKey.names]

theorem ofName?_name (k : Key) : ∀ name ∈ k.names, ofName? name.toList = some k := by
  cases k with
  | char c => exact List.forall_mem_nil _
  | named k =>
    cases k with
    | function i =>
      revert i
      decide +kernel
    | _ => decide +kernel
  | media k => cases k <;> decide +kernel
  | nothing => decide +kernel

theorem ofName?_of_called {text : List Char} {k : Key} (h : Called text k) :
    ofName? text = some k := by
  obtain ⟨name, hname, hsame⟩ := h
  rw [← ofName?_name k name hname, ofName?, ofName?, hsame]

theorem ofName?_of_padded {text : List Char} {k : Key} (h : Padded text k) :
    ofName? text = some k := by
  obtain ⟨i, front, rfl, hfront, -, htext⟩ := h
  have hread := function?_eq_some_iff.mpr ⟨i, front, rfl, hfront, htext⟩
  simp only [ofName?, hread]

theorem called_of_lookup {text : List Char} {k : Key}
    (h : (keyboardNames ++ mediaNames).lookup (String.ofList (text.map Char.toLower)) = some k) :
    Called text k := by
  have hnames : ∀ e ∈ keyboardNames ++ mediaNames, ∃ name ∈ e.2.names,
      e.1.toList = name.toList.map Char.toLower := by
    decide +kernel
  obtain ⟨before, after, htable, -⟩ := List.lookup_eq_some_iff.mp h
  have hmem : (String.ofList (text.map Char.toLower), k) ∈ keyboardNames ++ mediaNames := by
    rw [htable]
    simp
  obtain ⟨name, hname, hsame⟩ := hnames _ hmem
  exact ⟨name, hname, by rwa [String.toList_ofList] at hsame⟩

theorem called_or_padded {text : List Char} {k : Key} (h : ofName? text = some k) :
    Called text k ∨ Padded text k := by
  rw [ofName?] at h
  split at h
  · next n hread =>
    obtain rfl := Option.some.inj h
    obtain ⟨i, front, rfl, hfront, htext⟩ := function?_eq_some_iff.mp hread
    by_cases hnil : front = []
    · rw [hnil, List.nil_append] at htext
      exact .inl (called_function_iff.mpr htext)
    · exact .inr ⟨i, front, rfl, hfront, hnil, htext⟩
  · exact .inl (called_of_lookup h)

theorem documented_iff {text : List Char} {k : Key} : Documented text k ↔ Called text k := by
  refine ⟨fun h => h.1, fun h => ⟨h, ?_⟩⟩
  by_cases hn : ∃ n, Called text (named n)
  · obtain ⟨n, hn⟩ := hn
    have hsame := (ofName?_of_called h).symm.trans (ofName?_of_called hn)
    exact .inl ⟨n, Option.some.inj hsame⟩
  · exact .inr (not_exists.mp hn)

theorem Padded.not_called {text : List Char} {k k' : Key} (h : Padded text k) :
    ¬ Called text k' := by
  intro hcalled
  have hsame := (ofName?_of_called hcalled).symm.trans (ofName?_of_padded h)
  obtain rfl := Option.some.inj hsame
  obtain ⟨i, front, rfl, -, hne, htext⟩ := h
  rw [called_function_iff.mp hcalled, List.cons.injEq] at htext
  exact hne (List.append_cancel_right htext.2).symm

/-- **Names of keys.**  A text is accepted exactly if it is a name of a key, in any ASCII case, and
stands for that key; or if it is the name of a function key with a plus sign or zeros in front of
the number, which is no name.  No two keys share a name. -/
theorem ofName?_by_names (text : List Char) :
    (∀ k, ofName? text = some k ↔ Documented text k ∨ Padded text k) ∧
    (∀ k k', ¬ (Padded text k ∧ Documented text k')) ∧
    ∀ k k', Called text k ∧ Called text k' → k = k' := by
  refine ⟨fun k => ?_, fun k k' h => h.1.not_called h.2.1, fun k k' h => ?_⟩
  · rw [documented_iff]
    exact ⟨called_or_padded, fun h => h.elim ofName?_of_called ofName?_of_padded⟩
  · exact Option.some.inj ((ofName?_of_called h.1).symm.trans (ofName?_of_called h.2))

/-- A second name of a key in another case, and a number with a sign and a zero in front. -/
theorem ofName?_by_names_cased :
    ofName? "cR".toList = some (named .enter) ∧
      ofName? "f+012".toList = some (named (.function 11)) ∧
      ∀ k, Called "cR".toList k → k = named .enter := by
  have hname : Called "cR".toList (named .enter) :=
    ⟨"CR", by simp [names, NamedKey.names], by decide⟩
  have hpadded : Padded "f+012".toList (named (.function 11)) :=
    ⟨11, ['+', '0'], rfl, ⟨['0'], by simp, .inr rfl⟩, by simp, by decide⟩
  exact ⟨((ofName?_by_names _).1 _).mpr (.inl (documented_iff.mpr hname)),
    ((ofName?_by_names _).1 _).mpr (.inr hpadded),
    fun k hk => (ofName?_by_names _).2.2 k _ ⟨hk, hname⟩⟩

/-- A function key is read from a number with a sign or with zeros in front. -/
theorem ofName?_undocumented :
    ofName? "F+5".toList = some (named (.function 4)) ∧
      ofName? "f007".toList = some (named (.function 6)) ∧
      ∀ k, ¬ Documented "F+5".toList k ∧ ¬ Documented "f007".toList k := by
  have hsign : Padded "F+5".toList (named (.function 4)) :=
    ⟨4, ['+'], rfl, ⟨[], by simp, .inr rfl⟩, by simp, by decide⟩
  have hzeros : Padded "f007".toList (named (.function 6)) :=
    ⟨6, ['0', '0'], rfl, ⟨['0', '0'], by simp, .inl rfl⟩, by simp, by decide⟩
  exact ⟨ofName?_of_padded hsign, ofName?_of_padded hzeros,
    fun k => ⟨fun h => hsign.not_called h.1, fun h => hzeros.not_called h.1⟩⟩

end Key

end InlineRemote
