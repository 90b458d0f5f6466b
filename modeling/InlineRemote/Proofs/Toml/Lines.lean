import InlineRemote.Proofs.Toml.Strings
import InlineRemote.Toml.Document

/-! # Documents of assignments

A document that assigns strings and arrays of strings, each on its own line and to a key of its own,
is read as the entries that it assigns. -/
namespace InlineRemote.Toml

variable {c : Char} {s t rest : List Char} {value : Reader Value} {v : Value}

-- Strings.

theorem writeString_eq (s : String) :
    ∃ t, writeString s = '"' :: t ∨ writeString s = '\x27' :: t := by
  rw [writeString]
  cases Form.choose s.toList with
  | basic => exact ⟨_, .inl rfl⟩
  | literal => exact ⟨_, .inr rfl⟩
  | multiBasic => exact ⟨_, .inl rfl⟩
  | multiLiteral => exact ⟨_, .inr rfl⟩

theorem readValue_writeString (depth : Nat) (s : String) (hrest : Ends rest) :
    readValue depth (writeString s ++ rest) = some (.string s, rest) := by
  have hvalue : readValue depth (writeString s ++ rest) =
      (readQuoted (writeString s ++ rest)).map fun a => (.string (String.ofList a.1), a.2) := by
    obtain ⟨t, ht | ht⟩ := writeString_eq s <;> rw [ht] <;> cases depth <;> rfl
  rw [hvalue, readQuoted_writeString s hrest, Option.map_some, String.ofList_toList]

-- Arrays of strings.

theorem skipLines_start (h : c ∉ ['\n', '\r', ' ', '\t', '#']) :
    skipLines false (c :: s) = some (c :: s) := by
  simp only [List.mem_cons, List.not_mem_nil, or_false, not_or] at h
  rw [skipLines.eq_def]
  simp only [h, if_false, or_self, Bool.false_eq_true]

theorem skipLines_writeString (s : String) :
    skipLines false (writeString s ++ rest) = some (writeString s ++ rest) := by
  obtain ⟨t, ht | ht⟩ := writeString_eq s <;> rw [ht] <;> exact skipLines_start (by decide)

theorem skipLines_indent (s : List Char) :
    skipLines false ('\n' :: ([' ', ' ', ' ', ' '] ++ s)) = skipLines false s := by
  have hblank (s : List Char) : skipLines false (' ' :: s) = skipLines false s := by
    rw [skipLines.eq_def]
    rfl
  have hline (s : List Char) : skipLines false ('\n' :: s) = skipLines false s := by
    rw [skipLines.eq_def]
    rfl
  simp only [List.cons_append, List.nil_append, hline, hblank]

theorem readItems_close (hs : skipLines false s = some (']' :: rest)) :
    readItems value s = some ([], rest) := by
  rw [readItems.eq_def, hs]
  rfl

theorem readItems_string (depth : Nat) (item : String)
    (hs : skipLines false s = some (writeString item ++ rest)) (hrest : Ends rest) :
    readItems (readValue depth) s =
      match skipLines false rest with
      | some (',' :: r) =>
        if r.length < s.length then (readItems (readValue depth) r).map fun a =>
          (.string item :: a.1, a.2)
        else none
      | some (']' :: r) => some ([.string item], r)
      | _ => none := by
  have hvalue := readValue_writeString depth item hrest
  rw [readItems.eq_def, hs]
  split
  · next heq => cases heq
  · next heq =>
    obtain ⟨t, ht | ht⟩ := writeString_eq item <;> rw [ht] at heq <;> cases heq
  · next heq =>
    obtain rfl := Option.some.inj heq
    generalize readValue depth (writeString item ++ rest) = a at hvalue ⊢
    subst hvalue
    rfl

theorem readItems_one (depth : Nat) (item : String) :
    readItems (readValue depth) (writeString item ++ ']' :: rest) =
      some ([.string item], rest) := by
  have hclose : skipLines false (']' :: rest) = some (']' :: rest) := skipLines_start (by decide)
  rw [readItems_string depth item (skipLines_writeString item) ⟨by simp, by simp⟩, hclose]
  rfl

/-- An item on a line of its own. -/
def itemLine (item : String) : List Char :=
  [' ', ' ', ' ', ' '] ++ writeString item ++ [',', '\n']

/-- Items on a line each, the last one with a comma like the others. -/
theorem readItems_many (depth : Nat) (items : List String) :
    readItems (readValue depth) ('\n' :: (items.flatMap itemLine ++ ']' :: rest)) =
      some (items.map .string, rest) := by
  induction items with
  | nil =>
    refine readItems_close ?_
    rw [List.flatMap_nil, List.nil_append, skipLines.eq_def]
    exact skipLines_start (by decide)
  | cons item items ih =>
    generalize hmore : items.flatMap itemLine ++ ']' :: rest = more at ih
    have hitem : (item :: items).flatMap itemLine ++ ']' :: rest =
        [' ', ' ', ' ', ' '] ++ (writeString item ++ ',' :: '\n' :: more) := by
      rw [← hmore, List.flatMap_cons, itemLine]
      simp only [List.append_assoc, List.cons_append, List.nil_append]
    have hcomma : skipLines false (',' :: '\n' :: more) = some (',' :: '\n' :: more) :=
      skipLines_start (by decide)
    rw [hitem, readItems_string depth item
      ((skipLines_indent _).trans (skipLines_writeString item)) ⟨by simp, by simp⟩, hcomma]
    simp only
    rw [if_pos (by simp; omega), ih]
    rfl

theorem readValue_writeStrings (depth : Nat) (items : List String) :
    readValue (depth + 1) (writeStrings items ++ rest) =
      some (.array (items.map .string), rest) := by
  have harray (t : List Char) : readValue (depth + 1) ('[' :: t) =
      (readItems (readValue depth) t).map fun a => (.array a.1, a.2) := rfl
  match items with
  | [] =>
    exact (harray (']' :: rest)).trans
      (congrArg (Option.map _) (readItems_close (skipLines_start (by decide))))
  | [item] =>
    rw [writeStrings, List.append_assoc, List.cons_append, harray]
    exact congrArg (Option.map _) (readItems_one depth item)
  | item :: item' :: items =>
    have hlines : writeStrings (item :: item' :: items) ++ rest =
        '[' :: '\n' :: ((item :: item' :: items).flatMap itemLine ++ ']' :: rest) := by
      show '[' :: '\n' :: (item :: item' :: items).flatMap itemLine ++ [']'] ++ rest = _
      rw [List.append_assoc]
      rfl
    rw [hlines, harray, readItems_many]
    rfl

-- Lines.

/-- A key that needs no quotes. -/
def IsBareKey (key : String) : Prop :=
  key.toList ≠ [] ∧ ∀ c ∈ key.toList, isBare c = true

instance (key : String) : Decidable (IsBareKey key) :=
  decidable_of_iff (key.toList ≠ [] ∧ key.toList.all isBare = true) (by
    rw [IsBareKey, List.all_eq_true])

/-- A value that starts where it is read. -/
def IsFlush (text : List Char) : Prop :=
  ∀ c ∈ text.head?, c ≠ ' ' ∧ c ≠ '\t'

theorem skipBlanks_of_flush (h : IsFlush s) : skipBlanks s = s := by
  cases s with
  | nil => rfl
  | cons c s =>
    obtain ⟨hspace, htab⟩ := h c rfl
    rw [skipBlanks, List.dropWhile_cons_of_neg (by simp [hspace, htab])]

theorem ne_of_isBare {c d : Char} (hc : isBare c = true) (hd : isBare d = false) : c ≠ d := by
  rintro rfl
  rw [hc] at hd
  cases hd

theorem IsBareKey.exists_cons {key : String} (hkey : IsBareKey key) :
    ∃ c cs, key.toList = c :: cs ∧ isBare c = true := by
  obtain ⟨c, cs, hcs⟩ := List.exists_cons_of_ne_nil hkey.1
  exact ⟨c, cs, hcs, hkey.2 c (by rw [hcs]; exact List.mem_cons_self)⟩

theorem readPart_bare {key : String} (hkey : IsBareKey key) (hc : isBare c = false) :
    readPart (key.toList ++ c :: rest) = some (key, c :: rest) := by
  have htake : (key.toList ++ c :: rest).takeWhile isBare = key.toList := by
    rw [List.takeWhile_append_of_pos hkey.2, List.takeWhile_cons_of_neg (by simp [hc]),
      List.append_nil]
  have hdrop : (key.toList ++ c :: rest).dropWhile isBare = c :: rest := by
    rw [List.dropWhile_append_of_pos hkey.2, List.dropWhile_cons_of_neg (by simp [hc])]
  obtain ⟨d, ds, hds, hd⟩ := hkey.exists_cons
  have hquote (q : Char) (hq : isBare q = false) (r : List Char) :
      key.toList ++ c :: rest ≠ q :: r := by
    rw [hds]
    exact fun heq => ne_of_isBare hd hq (List.cons.inj heq).1
  unfold readPart
  split
  · next heq => exact absurd heq (hquote _ (by decide) _)
  · next heq => exact absurd heq (hquote _ (by decide) _)
  · rw [htake, hdrop]
    split
    · next h => exact absurd h hkey.1
    · rw [String.ofList_toList]

theorem readKey_bare {key : String} (hkey : IsBareKey key) :
    readKey (key.toList ++ ' ' :: '=' :: rest) = some (([], key), '=' :: rest) := by
  obtain ⟨c, cs, hcs, hc⟩ := hkey.exists_cons
  have hflush : IsFlush (key.toList ++ ' ' :: '=' :: rest) := by
    rw [hcs]
    rintro _ ⟨⟩
    exact ⟨ne_of_isBare hc (by decide), ne_of_isBare hc (by decide)⟩
  have hparts : readParts (key.toList ++ ' ' :: '=' :: rest) = some ([key], '=' :: rest) := by
    rw [readParts.eq_def, skipBlanks_of_flush hflush, readPart_bare hkey (by decide)]
    rfl
  rw [readKey, hparts]
  rfl

theorem readStatement_assign {text : List Char} (hs : ∀ r, text ≠ '[' :: r)
    {path : List String} {last : String}
    (h : readAssignment (readValue (nestingLimit - 1)) text = some ((path, last, v), rest)) :
    readStatement text = some (.assign path last v, rest) := by
  unfold readStatement
  split
  · exact absurd rfl (hs _)
  · exact absurd rfl (hs _)
  · rw [h]
    rfl

theorem readStatements_cons {st : Statement} (hc : isBare c = true)
    (h : readStatement (c :: s) = some (st, '\n' :: rest)) (hlength : rest.length < s.length) :
    readStatements (c :: s) = (readStatements rest).map (st :: ·) := by
  have hflush : IsFlush (c :: s) := by
    rintro _ ⟨⟩
    exact ⟨ne_of_isBare hc (by decide), ne_of_isBare hc (by decide)⟩
  have hspeaks : ¬ (c = '#' ∨ c = '\n' ∨ c = '\r') := by
    rintro (rfl | rfl | rfl) <;> cases hc
  have hend : endLine? ('\n' :: rest) = some rest := rfl
  rw [readStatements.eq_def, skipBlanks_of_flush hflush]
  simp only [hspeaks, if_false, h, hend]
  exact if_pos (Nat.lt_succ_of_lt hlength)

theorem readStatements_writeLine {key : String} {text : List Char} (hkey : IsBareKey key)
    (htext : IsFlush (text ++ '\n' :: rest))
    (hv : readValue (nestingLimit - 1) (text ++ '\n' :: rest) = some (v, '\n' :: rest)) :
    readStatements (writeLine key.toList text ++ rest) =
      (readStatements rest).map (.assign [] key v :: ·) := by
  have hline : writeLine key.toList text ++ rest =
      key.toList ++ ' ' :: '=' :: ' ' :: (text ++ '\n' :: rest) := by
    simp [writeLine]
  have hassign : readAssignment (readValue (nestingLimit - 1))
      (key.toList ++ ' ' :: '=' :: ' ' :: (text ++ '\n' :: rest)) =
      some (([], key, v), '\n' :: rest) := by
    have hskip : skipBlanks (' ' :: (text ++ '\n' :: rest)) = text ++ '\n' :: rest :=
      skipBlanks_of_flush htext
    rw [readAssignment, readKey_bare hkey]
    simp only [hskip, hv, Option.map_some]
  obtain ⟨c, cs, hcs, hc⟩ := hkey.exists_cons
  rw [hline]
  rw [hcs, List.cons_append] at hassign ⊢
  refine readStatements_cons hc (readStatement_assign (fun r heq => ?_) hassign) ?_
  · exact ne_of_isBare hc (by decide) (List.cons.inj heq).1
  · simp only [List.length_append, List.length_cons]
    omega

-- Carrying out assignments.

theorem get?_eq_none {es : Entries} {key : String} (h : key ∉ es.map Prod.fst) :
    es.get? key = none := by
  refine List.lookup_eq_none_iff.mpr fun e he => ?_
  rw [bne_iff_ne]
  rintro rfl
  exact h (List.mem_map.mpr ⟨e, he, rfl⟩)

theorem applyAll_assign {es fs : Entries} (h : ((es ++ fs).map Prod.fst).Nodup) :
    Statement.applyAll ([], es) (fs.map fun e => .assign [] e.1 e.2) = some ([], es ++ fs) := by
  induction fs generalizing es with
  | nil => rw [List.append_nil]; rfl
  | cons f fs ih =>
    rw [List.append_cons] at h ⊢
    have hnew : es.get? f.1 = none := by
      refine get?_eq_none fun hmem => ?_
      have hkeys := (List.map_append ▸ h : (((es ++ [f]).map Prod.fst) ++ fs.map Prod.fst).Nodup)
      rw [List.map_append] at hkeys
      exact (List.nodup_append.mp (List.nodup_append.mp hkeys).1).2.2 _ hmem _
        List.mem_cons_self rfl
    have hset : Statement.apply ([], es) (.assign [] f.1 f.2) = some ([], es ++ [f]) := by
      simp [Statement.apply, Entries.within, Entries.assign, Entries.set, hnew]
    rw [List.map_cons, Statement.applyAll, hset]
    exact ih h

-- Documents.

/-- A line of a document: the key, the text of the value, and the value. -/
structure Line where
  key : String
  text : List Char
  value : Value

/-- The line as it is written. -/
def Line.letters (l : Line) : List Char :=
  writeLine l.key.toList l.text

/-- The entry that a line makes. -/
def Line.entry (l : Line) : String × Value :=
  (l.key, l.value)

/-- The key of a line needs no quotes, and its value is read as it is written. -/
structure Line.Reads (l : Line) : Prop where
  key : IsBareKey l.key
  flush : ∀ rest, IsFlush (l.text ++ rest)
  value : ∀ rest,
    readValue (nestingLimit - 1) (l.text ++ '\n' :: rest) = some (l.value, '\n' :: rest)

theorem Line.Reads.string {key : String} (hkey : IsBareKey key) (s : String) :
    Line.Reads ⟨key, writeString s, .string s⟩ where
  key := hkey
  flush rest := by
    obtain ⟨t, ht | ht⟩ := writeString_eq s <;> rw [ht] <;> rintro _ ⟨⟩ <;> decide
  value rest := readValue_writeString _ s ⟨by simp, by simp⟩

theorem Line.Reads.strings {key : String} (hkey : IsBareKey key) (items : List String) :
    Line.Reads ⟨key, writeStrings items, .array (items.map .string)⟩ where
  key := hkey
  flush rest := by
    unfold writeStrings
    split <;> rintro _ ⟨⟩ <;> decide
  value rest := readValue_writeStrings _ items

theorem readStatements_lines {ls : List Line} (h : ∀ l ∈ ls, l.Reads) :
    readStatements (ls.flatMap Line.letters) =
      some ((ls.map Line.entry).map fun e => .assign [] e.1 e.2) := by
  induction ls with
  | nil => rw [List.flatMap_nil, readStatements.eq_def]; rfl
  | cons l ls ih =>
    obtain ⟨hl, hls⟩ := List.forall_mem_cons.mp h
    rw [List.flatMap_cons, Line.letters, readStatements_writeLine hl.key (hl.flush _) (hl.value _),
      ih hls]
    rfl

theorem read_lines {ls : List Line} (h : ∀ l ∈ ls, l.Reads)
    (hkeys : ((ls.map Line.entry).map Prod.fst).Nodup) :
    read (String.ofList (ls.flatMap Line.letters)) = some (ls.map Line.entry) := by
  have hmark : skipMark (ls.flatMap Line.letters) = ls.flatMap Line.letters := by
    cases ls with
    | nil => rfl
    | cons l ls =>
      obtain ⟨c, cs, hcs, hc⟩ := (h l List.mem_cons_self).key.exists_cons
      rw [List.flatMap_cons, Line.letters, writeLine, hcs]
      unfold skipMark
      split
      · next heq => exact absurd (List.cons.inj heq).1 (ne_of_isBare hc (by decide))
      · rfl
  rw [← List.nil_append (ls.map Line.entry)] at hkeys
  rw [read, String.toList_ofList, hmark, readStatements_lines h]
  exact congrArg (Option.map Prod.snd) (applyAll_assign hkeys)

end InlineRemote.Toml
