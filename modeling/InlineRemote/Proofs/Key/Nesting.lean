import InlineRemote.Dispatch
import InlineRemote.Key.Transition
import Mathlib.Data.List.Nodup

/-! # No key stays down

Keys that are held around a tap go down one after the other and come up in the opposite order, so
they nest as long as they are different.  The modifiers of a stroke are, and no other key has the
virtual key of a modifier.  So each stroke leaves all keys up, and so does a row of them, with the
strokes left out that have no virtual key. -/
namespace InlineRemote

namespace Transition

/-- The keys that are down after a transition, the last pressed first.  A key goes down only while
it is up, and of those that are down only the last pressed comes up. -/
def next? (down : List Nat) (t : Transition) : Option (List Nat) :=
  if t.released then
    if down.head? = some t.code then some down.tail else none
  else
    if t.code ∈ down then none else some (t.code :: down)

/-- The keys that are down after transitions, if each of them may happen. -/
def play? (down : List Nat) (ts : List Transition) : Option (List Nat) :=
  ts.foldlM next? down

/-- Keys are held around the tap of a key. -/
def around (held : List Nat) (code : Nat) : List Transition :=
  held.map (⟨·, false⟩) ++ [⟨code, false⟩, ⟨code, true⟩] ++ held.reverse.map (⟨·, true⟩)

theorem play?_append (down : List Nat) (ts us : List Transition) :
    play? down (ts ++ us) = (play? down ts).bind (play? · us) :=
  List.foldlM_append

theorem play?_presses {down held : List Nat} (h : (held.reverse ++ down).Nodup) :
    play? down (held.map (⟨·, false⟩)) = some (held.reverse ++ down) := by
  induction held generalizing down with
  | nil => rfl
  | cons code held ih =>
    rw [List.reverse_cons, List.append_assoc, List.singleton_append] at h ⊢
    have hup : code ∉ down := (List.nodup_cons.mp h.of_append_right).1
    have hnext : next? down ⟨code, false⟩ = some (code :: down) := by simp [next?, hup]
    rw [List.map_cons, play?, List.foldlM_cons, hnext]
    exact ih h

theorem play?_releases (held down : List Nat) :
    play? (held ++ down) (held.map (⟨·, true⟩)) = some down := by
  induction held with
  | nil => rfl
  | cons code held ih =>
    have hnext : next? (code :: held ++ down) ⟨code, true⟩ = some (held ++ down) := by
      simp [next?]
    rw [List.map_cons, play?, List.foldlM_cons, hnext]
    exact ih

theorem play?_tap {down : List Nat} {code : Nat} (h : code ∉ down) :
    play? down [⟨code, false⟩, ⟨code, true⟩] = some down := by
  simp [play?, next?, h]

theorem play?_around {held : List Nat} {code : Nat} (h : (code :: held).Nodup) :
    play? [] (around held code) = some [] := by
  obtain ⟨hcode, hheld⟩ := List.nodup_cons.mp h
  have hdown : play? [] (held.map (⟨·, false⟩)) = some (held.reverse ++ []) :=
    play?_presses (by simpa using hheld)
  have htap : play? (held.reverse ++ []) [⟨code, false⟩, ⟨code, true⟩] =
      some (held.reverse ++ []) := play?_tap (by simpa using hcode)
  rw [around, play?_append, play?_append, hdown, Option.bind_some, htap, Option.bind_some,
    play?_releases]

end Transition

-- Virtual keys.

namespace Modifiers

theorem mem_virtualCodes {m : Modifiers} {code : Nat} : code ∈ m.virtualCodes ↔
    m.control = true ∧ code = 0x11 ∨ m.alt = true ∧ code = 0x12 ∨ m.shift = true ∧ code = 0x10 ∨
      m.logo = true ∧ code = 0x5B := by
  have hflag (held : Bool) (c : Nat) : code ∈ (if held then [c] else []) ↔
      held = true ∧ code = c := by
    cases held <;> simp
  simp only [virtualCodes, List.mem_append, hflag, or_assoc]

theorem nodup_virtualCodes (m : Modifiers) : m.virtualCodes.Nodup := by
  obtain ⟨control, alt, shift, logo⟩ := m
  revert control alt shift logo
  decide

end Modifiers

/-- The virtual keys of letters and digits lie between those of `0` and `Z`. -/
theorem Key.toUpper_bounds {c : Char} (h : c.isAlphanum = true) :
    0x30 ≤ c.toUpper.toNat ∧ c.toUpper.toNat ≤ 0x5A := by
  -- Letters and digits are ASCII, of which all are tried.
  have hascii : ∀ n < 128, (Char.ofNat n).isAlphanum = true →
      0x30 ≤ (Char.ofNat n).toUpper.toNat ∧ (Char.ofNat n).toUpper.toNat ≤ 0x5A := by
    decide +kernel
  have hranges : (65 ≤ c.toNat ∧ c.toNat ≤ 90 ∨ 97 ≤ c.toNat ∧ c.toNat ≤ 122) ∨
      48 ≤ c.toNat ∧ c.toNat ≤ 57 := by
    rcases Bool.or_eq_true_iff.mp h with hletter | hdigit
    · rcases Bool.or_eq_true_iff.mp hletter with hcapital | hsmall
      · exact .inl (.inl (of_decide_eq_true hcapital))
      · obtain ⟨hfirst, hlast⟩ := Bool.and_eq_true_iff.mp hsmall
        exact .inl (.inr ⟨of_decide_eq_true hfirst, of_decide_eq_true hlast⟩)
    · obtain ⟨hfirst, hlast⟩ := Bool.and_eq_true_iff.mp hdigit
      exact .inr ⟨of_decide_eq_true hfirst, of_decide_eq_true hlast⟩
  have hless : c.toNat < 128 := by omega
  have hc := hascii c.toNat hless
  rw [Char.ofNat_toNat] at hc
  exact hc h

theorem Key.not_mem_virtualCodes {k : Key} {code : Nat} (h : k.virtualCode? = some code)
    (m : Modifiers) : code ∉ m.virtualCodes := by
  rw [Modifiers.mem_virtualCodes]
  cases k with
  | char c =>
    rw [virtualCode?] at h
    split at h
    · next hc =>
      have hbounds := Key.toUpper_bounds hc
      obtain rfl := Option.some.inj h
      omega
    · split at h
      · obtain rfl := Option.some.inj h
        omega
      · cases h
  | named n =>
    obtain rfl := Option.some.inj h
    cases n <;> simp only [NamedKey.virtualCode] <;> omega
  | media m =>
    rw [virtualCode?] at h
    cases m <;> simp only [MediaKey.virtualCode?, Option.some.injEq, reduceCtorEq] at h <;> omega
  | nothing => cases h

namespace Stroke

/-- The virtual keys to be held during a stroke: those of its modifiers, and that of Shift for a
capital ASCII letter. -/
def Holds (s : Stroke) (code : Nat) : Prop :=
  s.modifiers.control = true ∧ code = 0x11 ∨ s.modifiers.alt = true ∧ code = 0x12 ∨
    (s.modifiers.shift = true ∨ ∃ c, s.key = .char c ∧ 'A' ≤ c ∧ c ≤ 'Z') ∧ code = 0x10 ∨
    s.modifiers.logo = true ∧ code = 0x5B

theorem mem_heldModifiers {s : Stroke} {code : Nat} :
    code ∈ s.heldModifiers.virtualCodes ↔ s.Holds code := by
  rw [Modifiers.mem_virtualCodes, Holds]
  have hcapital (c : Char) : c.isUpper = true ↔ 'A' ≤ c ∧ c ≤ 'Z' := decide_eq_true_iff
  obtain ⟨k, m⟩ := s
  cases k with
  | char c =>
    by_cases hc : c.isUpper = true
    · simp [heldModifiers, hc, Modifiers.union, (hcapital c).mp hc]
    · have hnot := mt (hcapital c).mpr hc
      simp [heldModifiers, hc, hnot]
  | _ => simp [heldModifiers]

theorem transitions?_of_code {s : Stroke} {code : Nat} (h : s.key.virtualCode? = some code) :
    s.transitions? = some (Transition.around s.heldModifiers.virtualCodes code) := by
  have hkey : s.key ≠ .nothing := by
    intro hkey
    rw [hkey] at h
    cases h
  rw [transitions?, if_neg hkey, h]
  rfl

theorem transitions?_eq_none_iff {s : Stroke} :
    s.transitions? = none ↔ s.key ≠ .nothing ∧ s.key.virtualCode? = none := by
  rw [transitions?]
  split <;> simp_all

theorem transitions?_eq_nil_iff {s : Stroke} : s.transitions? = some [] ↔ s.key = .nothing := by
  constructor
  · intro h
    by_contra hkey
    cases hcode : s.key.virtualCode? with
    | none =>
      rw [transitions?_eq_none_iff.mpr ⟨hkey, hcode⟩] at h
      cases h
    | some code =>
      rw [transitions?_of_code hcode] at h
      simp [Transition.around] at h
  · intro h
    rw [transitions?, if_pos h]

theorem nodup_held {s : Stroke} {code : Nat} (h : s.key.virtualCode? = some code) :
    (code :: s.heldModifiers.virtualCodes).Nodup :=
  List.nodup_cons.mpr ⟨Key.not_mem_virtualCodes h _, s.heldModifiers.nodup_virtualCodes⟩

theorem play?_transitions {s : Stroke} {ts : List Transition} (h : s.transitions? = some ts) :
    Transition.play? [] ts = some [] := by
  by_cases hkey : s.key = .nothing
  · rw [transitions?_eq_nil_iff.mpr hkey] at h
    obtain rfl := Option.some.inj h
    rfl
  · cases hcode : s.key.virtualCode? with
    | none =>
      rw [transitions?_eq_none_iff.mpr ⟨hkey, hcode⟩] at h
      cases h
    | some code =>
      rw [transitions?_of_code hcode] at h
      obtain rfl := Option.some.inj h
      exact Transition.play?_around (nodup_held hcode)

/-- What is pressed and released for strokes, with those left out that have no virtual key. -/
def sent (ss : List Stroke) : List Transition :=
  (ss.filterMap transitions?).flatten

theorem sent_append (ss rest : List Stroke) : sent (ss ++ rest) = sent ss ++ sent rest := by
  rw [sent, List.filterMap_append, List.flatten_append, sent, sent]

theorem sent_cons (s : Stroke) (ss : List Stroke) :
    sent (s :: ss) = s.transitions?.getD [] ++ sent ss := by
  rw [sent, List.filterMap_cons]
  cases s.transitions? <;> rfl

theorem play?_sent (ss : List Stroke) : Transition.play? [] (sent ss) = some [] := by
  induction ss with
  | nil => rfl
  | cons s ss ih =>
    rw [sent_cons, Transition.play?_append]
    cases h : s.transitions? with
    | none => exact ih
    | some ts =>
      rw [Option.getD_some, play?_transitions h]
      exact ih

end Stroke

namespace Dispatcher

/-- A dispatcher that sends the transitions of a stroke, and fails for a stroke that has none. -/
def sending : Dispatcher (List Transition) where
  inject s sent :=
    match s.transitions? with
    | none => (some "no virtual-key code for this key", sent)
    | some ts => (none, sent ++ ts)
  run _ sent := (none, sent)
  warn _ sent := sent
  observers := []

theorem injectAll_sending (ss : List Stroke) (sent : List Transition) :
    (sending.injectAll ss sent).2 = sent ++ Stroke.sent ss := by
  induction ss generalizing sent with
  | nil => exact (List.append_nil sent).symm
  | cons s ss ih =>
    rw [Stroke.sent_cons]
    cases h : s.transitions? with
    | none =>
      have hinject : sending.inject s sent = (some "no virtual-key code for this key", sent) := by
        simp only [sending, h]
      rw [injectAll, hinject]
      exact ih sent
    | some ts =>
      have hinject : sending.inject s sent = (none, sent ++ ts) := by
        simp only [sending, h]
      rw [injectAll, hinject, Option.getD_some, ← List.append_assoc]
      exact ih (sent ++ ts)

end Dispatcher

namespace Stroke

/-- **No key stays down.**  A stroke that has a virtual key holds the keys of its modifiers, each
once, and Shift for a capital letter, around one tap; it has no transitions if it types nothing, and
cannot be sent otherwise.  Whatever strokes an action types, keys go down while they are up, the
last pressed comes up first, and none is down between two strokes or at the end. -/
theorem sent_nests :
    (∀ s : Stroke,
      (s.transitions? = none ↔ s.key ≠ .nothing ∧ s.key.virtualCode? = none) ∧
      (s.transitions? = some [] ↔ s.key = .nothing) ∧
      ∀ code, s.key.virtualCode? = some code →
        ∃ held, s.transitions? = some (Transition.around held code) ∧ (code :: held).Nodup ∧
          ∀ c, c ∈ held ↔ s.Holds c) ∧
    ∀ ss : List Stroke,
      (∀ modes w, (Dispatcher.sending.dispatch (.type ss) modes w).2.2 = w ++ sent ss) ∧
      Transition.play? [] (sent ss) = some [] ∧
      ∀ before after, ss = before ++ after →
        sent ss = sent before ++ sent after ∧ Transition.play? [] (sent before) = some [] := by
  refine ⟨fun s => ⟨transitions?_eq_none_iff, transitions?_eq_nil_iff, fun code hcode => ?_⟩,
    fun ss => ⟨fun modes w => Dispatcher.injectAll_sending ss w, play?_sent ss, ?_⟩⟩
  · exact ⟨_, transitions?_of_code hcode, nodup_held hcode, fun c => mem_heldModifiers⟩
  · rintro before after rfl
    exact ⟨sent_append before after, play?_sent before⟩

/-- A capital letter with Shift and Control, a letter that has no virtual key, and the key that
types nothing. -/
theorem sent_nests_capital :
    let capital : Stroke := ⟨.char 'K', { control := true, shift := true }⟩
    let ss : List Stroke := [capital, .plain (.char 'é'), .plain .nothing, .plain (.named .tab)]
    sent ss = [⟨0x11, false⟩, ⟨0x10, false⟩, ⟨0x4B, false⟩, ⟨0x4B, true⟩, ⟨0x10, true⟩,
        ⟨0x11, true⟩, ⟨0x09, false⟩, ⟨0x09, true⟩] ∧
      Transition.play? [] (sent ss) = some [] ∧
      Transition.play? [] (sent [capital, .plain (.char 'é')]) = some [] ∧
      ∃ held, capital.transitions? = some (Transition.around held 0x4B) ∧
        ∀ c, c ∈ held ↔ capital.Holds c := by
  intro capital ss
  obtain ⟨hone, hrow⟩ := sent_nests
  obtain ⟨-, hall, hbetween⟩ := hrow ss
  obtain ⟨held, hheld, -, hmem⟩ := (hone capital).2.2 0x4B (by decide)
  exact ⟨by decide, hall, (hbetween [capital, .plain (.char 'é')] _ rfl).2, held, hheld, hmem⟩

end Stroke

end InlineRemote
