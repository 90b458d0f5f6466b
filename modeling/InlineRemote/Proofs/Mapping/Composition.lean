import InlineRemote.Proofs.Mapping.Keys

/-! # Key sequences one after the other

A token is known by its own letters: whatever is written after it, it is read in the same way.  So a
row of tokens can stand before any text.  The strokes of the two are those of the one and then those
of the other, and a fault of the text stays what it is.  Any text has a key sequence that types it
character by character. -/
namespace InlineRemote.Mapping

variable {a b : List Char} {ts us : List Token} {vs ws : List (List Char)} {rest : List Char}
  {ks : List Stroke} {fault : KeyFault}

theorem Cut.append (h : List.Forall₂ Token.Spelled ts ws) (hb : Cut b us vs rest) :
    Cut (ws.flatten ++ b) (ts ++ us) (ws ++ vs) rest where
  spelled := List.rel_append h hb.spelled
  text := by rw [hb.text, List.flatten_append, List.append_assoc]
  stuck := hb.stuck

theorem known_of_types (h : List.Forall₂ Token.Types ts ks) : ∀ t ∈ ts, t.Known := by
  induction h with
  | nil => simp
  | cons ht _ ih =>
    intro t hmem
    rcases List.mem_cons.mp hmem with rfl | hmem
    · exact ht.known
    · exact ih t hmem

/-- What is wrong with a text is still wrong with it after a row of tokens with known names, and it
is the first thing that is. -/
theorem KeysRefused.append (h : List.Forall₂ Token.Spelled ts ws) (hts : ∀ t ∈ ts, t.Known)
    (hb : KeysRefused b fault) : KeysRefused (ws.flatten ++ b) fault := by
  cases hb with
  | unreadable hcut hne => exact .unreadable (hcut.append h) hne
  | @unknownKey before after ms name vs hcut hbefore hname =>
    have hcut' := hcut.append h
    rw [← List.append_assoc] at hcut'
    refine .unknownKey hcut' ?_ hname
    intro t hmem
    rcases List.mem_append.mp hmem with hmem | hmem
    · exact hts t hmem
    · exact hbefore t hmem

theorem readKeys_append (ha : readKeys a = .ok ks) (b : List Char) :
    readKeys (a ++ b) = (readKeys b).map (ks ++ ·) := by
  obtain ⟨ts, ws, hspelled, rfl, htypes⟩ := readKeys_eq_ok_iff.mp ha
  rcases typed_or_refused b with ⟨us, vs, ls, hcut, hls⟩ | ⟨fault, hfault⟩
  · rw [readKeys_of_typed hcut hls,
      readKeys_of_typed (hcut.append hspelled) (List.rel_append htypes hls)]
    rfl
  · rw [readKeys_of_refused hfault,
      readKeys_of_refused (hfault.append hspelled (known_of_types htypes))]
    rfl

/-- The key sequence that types a text: `<` and the backslash have a backslash before them. -/
def typing (s : List Char) : List Char :=
  s.flatMap fun c => if c = '<' ∨ c = '\\' then ['\\', c] else [c]

theorem readKeys_typing_one (c : Char) :
    readKeys (typing [c]) = .ok [.plain (.char c)] := by
  by_cases hless : c = '<'
  · subst hless
    decide +kernel
  by_cases hbackslash : c = '\\'
  · subst hbackslash
    decide +kernel
  have htyping : typing [c] = [c] := by simp [typing, hless, hbackslash]
  rw [htyping]
  exact readKeys_eq_ok_iff.mpr
    ⟨_, _, .cons (.plain hless hbackslash) .nil, rfl, .cons (.char c) .nil⟩

theorem readKeys_typing (s : List Char) :
    readKeys (typing s) = .ok (s.map fun c => .plain (.char c)) := by
  induction s with
  | nil => exact readKeys_eq_ok_iff.mpr ⟨[], [], .nil, rfl, .nil⟩
  | cons c s ih =>
    have hsplit : typing (c :: s) = typing [c] ++ typing s := by simp [typing]
    rw [hsplit, readKeys_append (readKeys_typing_one c), ih]
    rfl

/-- **Key sequences compose, and any text can be typed.**  Where a text stands after a key sequence,
both together are read exactly if the text is, the strokes of the sequence first, and they have the
same fault as the text.  The key sequence that escapes a text types its characters in their
order. -/
theorem keys_compose :
    (∀ (a : List Char) (x : List Stroke), readKeys a = .ok x → ∀ b,
      (∀ y, readKeys (a ++ b) = .ok (x ++ y) ↔ readKeys b = .ok y) ∧
      ∀ fault, readKeys (a ++ b) = .error fault ↔ readKeys b = .error fault) ∧
    ∀ s, readKeys (typing s) = .ok (s.map fun c => .plain (.char c)) := by
  refine ⟨?_, readKeys_typing⟩
  intro a x ha b
  rw [readKeys_append ha b]
  cases readKeys b with
  | ok z => simp [Except.map]
  | error fault => simp [Except.map]

/-- A name that no key has is the fault, also after a text that is typed as it stands. -/
theorem keys_compose_after_typed :
    typing "a\\<C-b>".toList = "a\\\\\\<C-b>".toList ∧
      readKeys (typing "a\\<C-b>".toList ++ "<Up><Hyper>".toList) =
        .error (.unknownKey "Hyper") := by
  have hfault : readKeys "<Up><Hyper>".toList = .error (.unknownKey "Hyper") := by decide +kernel
  exact ⟨by decide +kernel,
    ((keys_compose.1 _ _ (keys_compose.2 "a\\<C-b>".toList) _).2 _).mpr hfault⟩

end InlineRemote.Mapping
