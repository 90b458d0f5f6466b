import InlineRemote.Toml.Quoted
import InlineRemote.Toml.Writer

/-! # Strings are read as they were written

Whichever of the four forms a string is written in, the reader of quoted text gives it back and
stops right behind it, if no further quote stands there.  The forms that escape nothing are chosen
only for strings that can stand as they are. -/
namespace InlineRemote.Toml

variable {c q : Char} {s rest : List Char}

-- Escapes.

theorem isPlain_of_quiet (h : isControl c = false) (hn : c ≠ '\n') : isPlain c = true := by
  rw [isControl, Bool.or_eq_false_iff] at h
  by_cases ht : c = '\t'
  · rw [ht]
    rfl
  · simp only [hn, ht, ne_eq, not_false_eq_true, decide_true, Bool.and_true,
      decide_eq_false_iff_not] at h
    simp only [isPlain, Bool.or_eq_true, Bool.and_eq_true, decide_eq_true_eq]
    exact .inr ⟨Nat.le_of_not_lt h.1, h.2⟩

theorem digitValue_hexDigit : ∀ n < 16, Text.isHexDigit (hexDigit n) = true ∧
    Text.digitValue (hexDigit n) = n := by
  decide

theorem readEscape_append {e : List Char} (h : escapeOf? c = some e) :
    readEscape (e ++ rest) = some (c, rest) := by
  rw [escapeOf?] at h
  split at h
  · next hc => obtain rfl := Option.some.inj h; rw [hc]; rfl
  split at h
  · next hc => obtain rfl := Option.some.inj h; rw [hc]; rfl
  split at h
  · next hc => obtain rfl := Option.some.inj h; rw [hc]; rfl
  split at h
  · next hc => obtain rfl := Option.some.inj h; rw [hc]; rfl
  split at h
  · next hc => obtain rfl := Option.some.inj h; rw [hc]; rfl
  split at h
  · next hc =>
    obtain rfl := Option.some.inj h
    have hlow : c.toNat < 128 := by
      simp only [isControl, Bool.or_eq_true, Bool.and_eq_true, decide_eq_true_eq] at hc
      omega
    obtain ⟨hhigh, hhigh'⟩ := digitValue_hexDigit (c.toNat / 16) (by omega)
    obtain ⟨hunit, hunit'⟩ := digitValue_hexDigit (c.toNat % 16) (by omega)
    have hzero : Text.isHexDigit '0' = true ∧ Text.digitValue '0' = 0 := by decide
    have hvalue : 16 * (c.toNat / 16) + c.toNat % 16 = c.toNat := Nat.div_add_mod c.toNat 16
    have hvalid : c.toNat.isValidChar := c.valid
    simp only [List.cons_append, List.nil_append, readEscape, readCode, readHex, hzero, hhigh,
      hhigh', hunit, hunit', if_true, Nat.mul_zero, Nat.add_zero, Nat.zero_add, hvalue, hvalid,
      Char.ofNat_toNat]
  · cases h

theorem readFold?_append {e : List Char} (h : escapeOf? c = some e) :
    readFold? (e ++ rest) = none := by
  rw [escapeOf?] at h
  repeat' split at h
  all_goals first
    | obtain rfl := Option.some.inj h; rfl
    | cases h

theorem escapeOf?_eq_none (h : escapeOf? c = none) :
    c ≠ '\\' ∧ c ≠ '\r' ∧ isControl c = false := by
  rw [escapeOf?] at h
  refine ⟨?_, ?_, ?_⟩
  · rintro rfl
    cases h
  · rintro rfl
    cases h
  · repeat' split at h
    all_goals first
      | exact Bool.eq_false_iff.mpr ‹_›
      | cases h

-- One line.

theorem readBasic_escape {r : List Char} (h : readEscape s = some (c, r)) :
    readBasic ('\\' :: s) = prepend c (readBasic r) := by
  rw [readBasic, if_neg (by decide), if_pos rfl]
  split
  · next hnone => rw [h] at hnone; cases hnone
  · next hsome =>
    rw [h] at hsome
    obtain ⟨rfl, rfl⟩ := Prod.mk.inj (Option.some.inj hsome)
    rfl

theorem readBasic_escaped (hs : '\n' ∉ s) :
    readBasic (escaped 0 0 s ++ '"' :: rest) = some (s, rest) := by
  induction s with
  | nil => rw [escaped, List.nil_append, readBasic, if_pos rfl]
  | cons c s ih =>
    obtain ⟨hc, hs⟩ := not_or.mp (mt List.mem_cons.mpr hs)
    rw [escaped]
    by_cases hquote : c = '"'
    · rw [if_pos hquote, if_neg (Nat.not_lt_zero 0), hquote]
      refine (readBasic_escape rfl).trans ?_
      show prepend '"' (readBasic (escaped 0 0 s ++ '"' :: rest)) = _
      rw [ih hs]
      rfl
    · rw [if_neg hquote]
      cases he : escapeOf? c with
      | some e =>
        simp only [List.cons_append, List.append_assoc]
        rw [readBasic_escape (readEscape_append he), ih hs]
        rfl
      | none =>
        obtain ⟨hslash, -, hquiet⟩ := escapeOf?_eq_none he
        simp only [List.cons_append]
        rw [readBasic, if_neg hquote, if_neg hslash,
          if_pos (isPlain_of_quiet hquiet (Ne.symm hc)), ih hs]
        rfl

theorem readLiteral_append (hs : '\n' ∉ s) (hquiet : ∀ c ∈ s, isControl c = false)
    (hquote : '\x27' ∉ s) : readLiteral (s ++ '\x27' :: rest) = some (s, rest) := by
  induction s with
  | nil => rw [List.nil_append, readLiteral, if_pos rfl]
  | cons c s ih =>
    obtain ⟨hc, hs⟩ := not_or.mp (mt List.mem_cons.mpr hs)
    obtain ⟨hc', hquote⟩ := not_or.mp (mt List.mem_cons.mpr hquote)
    obtain ⟨hplain, hquiet⟩ := List.forall_mem_cons.mp hquiet
    rw [List.cons_append, readLiteral, if_neg (Ne.symm hc'),
      if_pos (isPlain_of_quiet hplain (Ne.symm hc)), ih hs hquiet hquote]
    rfl

-- Closing quotes.

theorem readClosing_replicate {n : Nat} (hn : n ≤ 2) (hrest : rest.head? ≠ some q) :
    readClosing q (List.replicate n q ++ ([q, q, q] ++ rest)) =
      some (List.replicate n q, rest) := by
  have hne (r : List Char) : ¬ q :: r <+: rest := by
    rintro ⟨r', rfl⟩
    exact hrest rfl
  match n, hn with
  | 0, _ => simp [readClosing, hne]
  | 1, _ => simp [readClosing, hne]
  | 2, _ => simp [readClosing]

theorem readClosing_eq_none (h : ¬ [q, q, q] <+: s) : readClosing q s = none := by
  rw [readClosing, if_neg fun hp => h (List.isPrefixOf_iff_prefix.mp hp)]

-- Text over lines.

theorem readMultiBasic_close {closed : List Char × List Char}
    (h : readClosing '"' ('"' :: s) = some closed) : readMultiBasic ('"' :: s) = some closed := by
  rw [readMultiBasic.eq_def]
  simp only [if_true, h]

theorem readMultiBasic_quote (h : readClosing '"' ('"' :: s) = none) :
    readMultiBasic ('"' :: s) = prepend '"' (readMultiBasic s) := by
  rw [readMultiBasic.eq_def]
  simp only [if_true, h]

theorem readMultiBasic_escape {r : List Char} (hfold : readFold? s = none)
    (h : readEscape s = some (c, r)) :
    readMultiBasic ('\\' :: s) = prepend c (readMultiBasic r) := by
  rw [readMultiBasic.eq_def]
  dsimp only
  rw [if_neg (by decide), if_pos rfl]
  split
  · next hsome => rw [hfold] at hsome; cases hsome
  · split
    · next hnone => rw [h] at hnone; cases hnone
    · next hsome =>
      rw [h] at hsome
      obtain ⟨rfl, rfl⟩ := Prod.mk.inj (Option.some.inj hsome)
      rfl

theorem readMultiBasic_plain (hquote : c ≠ '"') (hslash : c ≠ '\\') (hreturn : c ≠ '\r')
    (hquiet : isControl c = false) : readMultiBasic (c :: s) = prepend c (readMultiBasic s) := by
  rw [readMultiBasic.eq_def]
  dsimp only
  rw [if_neg hquote, if_neg hslash]
  by_cases hn : c = '\n'
  · rw [if_pos hn]
  · rw [if_neg hn, if_neg hreturn, if_pos (isPlain_of_quiet hquiet hn)]

theorem readMultiBasic_replicate {n : Nat} (hn : n ≤ 2) (hs : s.head? ≠ some '"') :
    readMultiBasic (List.replicate n '"' ++ s) =
      (readMultiBasic s).map fun (t, r) => (List.replicate n '"' ++ t, r) := by
  have hne (r : List Char) : ¬ '"' :: r <+: s := by
    rintro ⟨r', rfl⟩
    exact hs rfl
  have hone : readMultiBasic ('"' :: s) = prepend '"' (readMultiBasic s) :=
    readMultiBasic_quote (readClosing_eq_none (by simp [hne]))
  match n, hn with
  | 0, _ => simp
  | 1, _ => exact hone
  | 2, _ =>
    refine (readMultiBasic_quote (readClosing_eq_none (by simp [hne]))).trans ?_
    show prepend '"' (readMultiBasic ('"' :: s)) = _
    rw [hone]
    simp only [prepend, Option.map_map]
    rfl

/-- The quotes that were written last are read together with what comes after them. -/
theorem readMultiBasic_escaped (hrest : rest.head? ≠ some '"') {row : Nat} (hrow : row ≤ 2) :
    readMultiBasic (List.replicate row '"' ++ (escaped 2 row s ++ (['"', '"', '"'] ++ rest))) =
      some (List.replicate row '"' ++ s, rest) := by
  induction s generalizing row with
  | nil =>
    have hclosing := readClosing_replicate (q := '"') hrow hrest
    rw [escaped, List.nil_append, List.append_nil]
    match row with
    | 0 => exact readMultiBasic_close hclosing
    | 1 => exact readMultiBasic_close hclosing
    | 2 => exact readMultiBasic_close hclosing
  | cons c s ih =>
    have hnext : readMultiBasic (escaped 2 0 s ++ (['"', '"', '"'] ++ rest)) = some (s, rest) :=
      ih (Nat.zero_le 2)
    generalize ['"', '"', '"'] ++ rest = tail at ih hnext ⊢
    rw [escaped]
    by_cases hquote : c = '"'
    · subst hquote
      rw [if_pos rfl]
      by_cases hlt : row < 2
      · have hlonger := ih (Nat.succ_le_of_lt hlt)
        rw [List.replicate_succ', List.append_assoc, List.append_assoc] at hlonger
        rw [if_pos hlt]
        exact hlonger
      · rw [if_neg hlt, readMultiBasic_replicate hrow (by simp), List.cons_append,
          readMultiBasic_escape (c := '"') rfl rfl]
        show Option.map _ (prepend '"' (readMultiBasic (escaped 2 0 s ++ _))) = _
        rw [hnext]
        rfl
    · rw [if_neg hquote]
      cases he : escapeOf? c with
      | some e =>
        simp only [List.cons_append, List.append_assoc]
        rw [readMultiBasic_replicate hrow (by simp),
          readMultiBasic_escape (readFold?_append he) (readEscape_append he)]
        show Option.map _ (prepend c (readMultiBasic (escaped 2 0 s ++ _))) = _
        rw [hnext]
        rfl
      | none =>
        obtain ⟨hslash, hreturn, hquiet⟩ := escapeOf?_eq_none he
        simp only [List.cons_append]
        rw [readMultiBasic_replicate hrow (by simpa using hquote),
          readMultiBasic_plain hquote hslash hreturn hquiet]
        show Option.map _ (prepend c (readMultiBasic (escaped 2 0 s ++ _))) = _
        rw [hnext]
        rfl

theorem readMultiLiteral_close {closed : List Char × List Char}
    (h : readClosing '\x27' ('\x27' :: s) = some closed) :
    readMultiLiteral ('\x27' :: s) = some closed := by
  rw [readMultiLiteral.eq_def]
  simp only [if_true, h]

theorem readMultiLiteral_quote (h : readClosing '\x27' ('\x27' :: s) = none) :
    readMultiLiteral ('\x27' :: s) = prepend '\x27' (readMultiLiteral s) := by
  rw [readMultiLiteral.eq_def]
  simp only [if_true, h]

theorem readMultiLiteral_open {t : List Char}
    (h : ¬ ['\x27', '\x27', '\x27'] <+: '\x27' :: (s ++ t))
    (hs : readMultiLiteral (s ++ t) = some (s, rest)) :
    readMultiLiteral ('\x27' :: (s ++ t)) = some ('\x27' :: s, rest) := by
  rw [readMultiLiteral_quote (readClosing_eq_none h), hs]
  rfl

theorem readMultiLiteral_plain (hquote : c ≠ '\x27') (hquiet : isControl c = false) :
    readMultiLiteral (c :: s) = prepend c (readMultiLiteral s) := by
  have hreturn : c ≠ '\r' := by
    rintro rfl
    cases hquiet
  rw [readMultiLiteral.eq_def]
  dsimp only
  rw [if_neg hquote]
  by_cases hn : c = '\n'
  · rw [if_pos hn]
  · rw [if_neg hn, if_neg hreturn, if_pos (isPlain_of_quiet hquiet hn)]

/-- Text without three quotes in a row is read up to the first three. -/
theorem readMultiLiteral_append (hquiet : ∀ c ∈ s, isControl c = false)
    (htriple : hasTriple '\x27' s = false) (hrest : rest.head? ≠ some '\x27') :
    readMultiLiteral (s ++ (['\x27', '\x27', '\x27'] ++ rest)) = some (s, rest) := by
  induction s with
  | nil => exact readMultiLiteral_close (readClosing_replicate (Nat.zero_le 2) hrest)
  | cons c s ih =>
    obtain ⟨hc, hquiet⟩ := List.forall_mem_cons.mp hquiet
    rw [hasTriple, Bool.or_eq_false_iff] at htriple
    have hnext := ih hquiet htriple.2
    by_cases hquote : c = '\x27'
    · subst hquote
      have hfew : ¬ ['\x27', '\x27', '\x27'] <+: '\x27' :: s := by
        rw [← List.isPrefixOf_iff_prefix, htriple.1]
        exact Bool.false_ne_true
      -- The text goes on unless no more than two quotes are left of it.
      match s with
      | [] => exact readMultiLiteral_close (readClosing_replicate (n := 1) (by decide) hrest)
      | [d] =>
        by_cases hd : d = '\x27'
        · subst hd
          exact readMultiLiteral_close (readClosing_replicate (n := 2) (by decide) hrest)
        · exact readMultiLiteral_open (by simp [Ne.symm hd]) hnext
      | d :: d' :: s =>
        exact readMultiLiteral_open (by simpa [List.cons_prefix_cons] using hfew) hnext
    · rw [List.cons_append, readMultiLiteral_plain hquote hc, hnext]
      rfl

-- The four forms.

theorem skipFirstLineEnd_append {t : List Char}
    (h : '\n' ∉ s → ∀ c ∈ t.head?, c ≠ '\n' ∧ c ≠ '\r') :
    skipFirstLineEnd (firstLineEnd s ++ t) = t := by
  rw [firstLineEnd]
  split
  · rfl
  · next hs =>
    have hhead := h fun hn => hs (List.contains_iff_mem.mpr hn)
    have hskip : skipLineEnd? t = none := by
      unfold skipLineEnd?
      split
      · exact absurd rfl (hhead '\n' rfl).1
      · exact absurd rfl (hhead '\r' rfl).2
      · rfl
    rw [List.nil_append, skipFirstLineEnd, hskip]
    rfl

/-- Written text starts with a quote that stands for itself, a backslash, or a character that needs
no escape. -/
theorem head?_escaped {allowed row : Nat} (hs : c ∈ (escaped allowed row s).head?) :
    (c = '"' ∧ row < allowed) ∨ c = '\\' ∨ (c ≠ '"' ∧ c ∈ s ∧ escapeOf? c = none) := by
  cases s with
  | nil => cases hs
  | cons d s =>
    rw [escaped] at hs
    split at hs
    · split at hs
      · next hrow => exact .inl ⟨(Option.some.inj hs).symm, hrow⟩
      · exact .inr (.inl (Option.some.inj hs).symm)
    · next hquote =>
      split at hs
      · exact .inr (.inl (Option.some.inj hs).symm)
      · next he =>
        obtain rfl := Option.some.inj hs
        exact .inr (.inr ⟨hquote, List.mem_cons_self, he⟩)

theorem readQuoted_one (h : ¬ ['"', '"'] <+: s) : readQuoted ('"' :: s) = readBasic s := by
  unfold readQuoted
  split
  · next r heq =>
    obtain ⟨-, rfl⟩ := List.cons.inj heq
    exact absurd ⟨r, rfl⟩ h
  · next heq =>
    obtain ⟨-, rfl⟩ := List.cons.inj heq
    rfl
  · next heq => exact absurd (List.cons.inj heq).1 (by decide)
  · next heq => exact absurd (List.cons.inj heq).1 (by decide)
  · next h _ _ => exact absurd rfl (h _)

theorem readQuoted_one' (h : ¬ ['\x27', '\x27'] <+: s) :
    readQuoted ('\x27' :: s) = readLiteral s := by
  unfold readQuoted
  split
  · next heq => exact absurd (List.cons.inj heq).1 (by decide)
  · next heq => exact absurd (List.cons.inj heq).1 (by decide)
  · next r heq =>
    obtain ⟨-, rfl⟩ := List.cons.inj heq
    exact absurd ⟨r, rfl⟩ h
  · next heq =>
    obtain ⟨-, rfl⟩ := List.cons.inj heq
    rfl
  · next h => exact absurd rfl (h _)

/-- No quote stands behind a string. -/
structure Ends (rest : List Char) : Prop where
  basic : rest.head? ≠ some '"'
  literal : rest.head? ≠ some '\x27'

theorem readQuoted_basic (hs : '\n' ∉ s) (hrest : Ends rest) :
    readQuoted (Form.basic.write s ++ rest) = some (s, rest) := by
  have hopen : ¬ ['"', '"'] <+: escaped 0 0 s ++ '"' :: rest := by
    cases hhead : (escaped 0 0 s).head? with
    | none =>
      rw [List.head?_eq_none_iff.mp hhead]
      rintro ⟨r, hr⟩
      rw [← (List.cons.inj hr).2] at hrest
      exact hrest.basic rfl
    | some c =>
      rintro ⟨r, hr⟩
      have hfirst := congrArg List.head? hr
      simp only [List.cons_append, List.head?_cons, List.head?_append, hhead, Option.some_or]
        at hfirst
      rcases head?_escaped hhead with ⟨-, hlt⟩ | rfl | ⟨hc, -⟩
      · exact Nat.not_lt_zero 0 hlt
      · cases hfirst
      · exact hc (Option.some.inj hfirst).symm
  rw [Form.write, List.append_assoc, List.cons_append]
  exact (readQuoted_one hopen).trans (readBasic_escaped hs)

theorem readQuoted_literal (hne : s ≠ []) (hs : '\n' ∉ s) (hquiet : ∀ c ∈ s, isControl c = false)
    (hquote : '\x27' ∉ s) : readQuoted (Form.literal.write s ++ rest) = some (s, rest) := by
  have hopen : ¬ ['\x27', '\x27'] <+: s ++ '\x27' :: rest := by
    obtain ⟨c, s, rfl⟩ := List.exists_cons_of_ne_nil hne
    rintro ⟨r, hr⟩
    exact hquote (by rw [(List.cons.inj hr).1]; exact List.mem_cons_self)
  rw [Form.write, List.append_assoc, List.cons_append]
  exact (readQuoted_one' hopen).trans (readLiteral_append hs hquiet hquote)

theorem readQuoted_multiBasic (hrest : Ends rest) :
    readQuoted (Form.multiBasic.write s ++ rest) = some (s, rest) := by
  have hskip : skipFirstLineEnd (firstLineEnd s ++ (escaped 2 0 s ++ (['"', '"', '"'] ++ rest))) =
      escaped 2 0 s ++ (['"', '"', '"'] ++ rest) := by
    refine skipFirstLineEnd_append fun hn c hc => ?_
    rw [List.head?_append] at hc
    cases hhead : (escaped 2 0 s).head? with
    | none =>
      rw [hhead] at hc
      obtain rfl := Option.some.inj hc
      decide
    | some d =>
      rw [hhead] at hc
      obtain rfl := Option.some.inj hc
      rcases head?_escaped hhead with ⟨rfl, -⟩ | rfl | ⟨-, hmem, he⟩
      · decide
      · decide
      · exact ⟨fun h => hn (h ▸ hmem), (escapeOf?_eq_none he).2.1⟩
  rw [Form.write]
  simp only [List.append_assoc]
  show readMultiBasic (skipFirstLineEnd (firstLineEnd s ++ (escaped 2 0 s ++ _))) = _
  rw [hskip]
  exact readMultiBasic_escaped hrest.basic (Nat.zero_le 2)

theorem readQuoted_multiLiteral (hquiet : ∀ c ∈ s, isControl c = false)
    (htriple : hasTriple '\x27' s = false) (hrest : Ends rest) :
    readQuoted (Form.multiLiteral.write s ++ rest) = some (s, rest) := by
  have hskip : skipFirstLineEnd (firstLineEnd s ++ (s ++ (['\x27', '\x27', '\x27'] ++ rest))) =
      s ++ (['\x27', '\x27', '\x27'] ++ rest) := by
    refine skipFirstLineEnd_append fun hn c hc => ?_
    cases s with
    | nil =>
      obtain rfl := Option.some.inj hc
      decide
    | cons d s =>
      obtain rfl := Option.some.inj hc
      refine ⟨fun h => hn (h ▸ List.mem_cons_self), ?_⟩
      rintro rfl
      cases hquiet _ List.mem_cons_self
  rw [Form.write]
  simp only [List.append_assoc]
  show readMultiLiteral (skipFirstLineEnd (firstLineEnd s ++ (s ++ _))) = _
  rw [hskip]
  exact readMultiLiteral_append hquiet htriple hrest.literal

/-- **A string is read as it was written.** -/
theorem readQuoted_writeString (s : String) (hrest : Ends rest) :
    readQuoted (writeString s ++ rest) = some (s.toList, rest) := by
  rw [writeString]
  generalize s.toList = s
  have honeLine (h : (!s.contains '\n') = true) : '\n' ∉ s := by simpa using h
  have hquiet (h : (!s.any isControl) = true) : ∀ c ∈ s, isControl c = false := by simpa using h
  rw [Form.choose]
  simp only [Bool.and_eq_true]
  split
  · next h => exact readQuoted_basic (honeLine h.1.1.1) hrest
  split
  · next hbasic h =>
    have hne : s ≠ [] := by
      rintro rfl
      exact hbasic (by decide)
    exact readQuoted_literal hne (honeLine h.1.1) (hquiet h.1.2) (by simpa using h.2)
  split
  · exact readQuoted_multiBasic hrest
  split
  · next h => exact readQuoted_multiLiteral (hquiet h.1) (by simpa using h.2) hrest
  split
  · next h => exact readQuoted_basic (honeLine h) hrest
  · exact readQuoted_multiBasic hrest

end InlineRemote.Toml
