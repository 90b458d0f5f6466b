import InlineRemote.Proofs.Engine.Run
import InlineRemote.Proofs.Table.Validation

/-! # The deadline of a pending sequence

The deadline is the first instant at which a pending sequence is stale: what is strictly more than
the timeout is at least one nanosecond more.  From that instant on, and not before, a tick drops the
sequence and a press is resolved without it.  The first press sets the deadline, and no later one
moves it. -/
namespace InlineRemote

theorem Table.exists_waits {s : Trigger} (hs : s ≠ []) :
    ∃ t : Table, ∀ modes, t.resolve modes s = .wait := by
  let longer : Entry := ⟨.global, s ++ [.play], .run ""⟩
  have hsound : longer.Sound [] := ⟨by simp [longer], by rintro m ⟨⟩, by rintro m ⟨⟩⟩
  have hvalid : (⟨[], [longer]⟩ : MappingSet).Valid := ⟨by simpa using hsound, by simp⟩
  obtain ⟨t, ht⟩ := build_of_valid hvalid
  refine ⟨t, fun modes => ?_⟩
  have hbegins : t.lookup modes.active s = .beginning := by
    refine ((represents_of_build ht).lookup_eq_beginning _ s).mpr ⟨hs, ?_, ?_⟩
    · rintro scope - ⟨a, ha⟩
      simp [longer] at ha
    · exact ⟨.global, [.play], .inl rfl, by simp, .run "", by simp [longer]⟩
  simp only [resolve, hbegins]

namespace Window

/-- There is a deadline, and it has come. -/
def Due (w : Window) (now : Nat) : Prop :=
  ∃ d, w.deadline? = some d ∧ d ≤ now

/-- A press is resolved alone: nothing that was pending before has a part in it. -/
def ResolvesAlone (w : Window) (p : Press) : Prop :=
  ∀ t modes, w.append p t modes =
    match t.resolve modes [p.button] with
    | .fire a => (w.clear, .matched [p.button] a)
    | .wait => ({ w with presses := [p] }, .pending [p.button])
    | .discard => (w.clear, .dropped)

/-- What can be done to a window. -/
inductive Call where
  | append (p : Press) (t : Table) (modes : ModeStack)
  | expire (now : Nat)
  | clear
  | withTimeout (timeout : Nat)

/-- Whether a call adds a press. -/
def Call.isAppend : Call → Bool
  | append .. => true
  | _ => false

def next (w : Window) : Call → Window
  | .append p t modes => (w.append p t modes).1
  | .expire now => (w.expire now).1
  | .clear => w.clear
  | .withTimeout timeout => w.withTimeout timeout

def run (w : Window) (cs : List Call) : Window :=
  cs.foldl next w

/-- The pending sequence goes on through calls: each leaves all that is pending where it is. -/
def Keeps (w : Window) : List Call → Prop
  | [] => True
  | c :: cs => w.presses <+: (w.next c).presses ∧ (w.next c).Keeps cs

variable {w : Window}

theorem isStale_iff_due (w : Window) (now : Nat) : w.isStale now = true ↔ w.Due now := by
  rw [isStale, Due, deadline?]
  cases w.started? with
  | none => simp
  | some first =>
    simp only [decide_eq_true_eq, Option.map_some, Option.some.injEq, exists_eq_left']
    omega

theorem isStale_of_empty (hw : w.presses = []) (now : Nat) : w.isStale now = false := by
  simp [isStale, started?, hw]

theorem Due.presses_ne_nil {now : Nat} (h : w.Due now) : w.presses ≠ [] := by
  intro hw
  rw [← isStale_iff_due, isStale_of_empty hw] at h
  cases h

theorem Due.resolvesAlone {p : Press} (h : w.Due p.time) : w.ResolvesAlone p := by
  have hfresh : w.fresh p.time = w.clear := by
    rw [fresh, if_pos ((w.isStale_iff_due _).mpr h)]
  intro t modes
  simp only [append, hfresh]
  rfl

/-- As long as a sequence is live, some table would keep it waiting with the press. -/
theorem not_resolvesAlone_of_live {p : Press} (h : ¬ w.Due p.time) (hw : w.presses ≠ []) :
    ¬ w.ResolvesAlone p := by
  have hfresh : w.fresh p.time = w := by
    rw [fresh, if_neg (by rwa [isStale_iff_due])]
  have hextended : w.extended p = w.sequence ++ [p.button] := by
    rw [extended, hfresh]
  obtain ⟨t, ht⟩ := Table.exists_waits (s := w.extended p) (by simp [hextended])
  have hwait : (w.append p t .empty).2 = .pending (w.extended p) := by
    have hresolve := ht .empty
    simp only [hextended, sequence] at hresolve
    simp [append, hfresh, sequence, hextended, hresolve]
  intro halone
  rw [halone t .empty] at hwait
  have hsequence : w.sequence ≠ [] := by simpa [sequence] using hw
  cases hone : t.resolve .empty [p.button] with
  | fire a => simp [hone] at hwait
  | wait => simp [hone, hextended, hsequence] at hwait
  | discard => simp [hone] at hwait

theorem discards_iff_due (w : Window) (p : Press) :
    w.presses ≠ [] ∧ w.ResolvesAlone p ↔ w.Due p.time := by
  constructor
  · rintro ⟨hw, halone⟩
    by_contra h
    exact not_resolvesAlone_of_live h hw halone
  · intro h
    exact ⟨h.presses_ne_nil, h.resolvesAlone⟩

@[simp] theorem timeout_append (w : Window) (p : Press) (t : Table) (modes : ModeStack) :
    (w.append p t modes).1.timeout = w.timeout := by
  rcases w.append_cases p t modes with ⟨a, -, h⟩ | ⟨-, h⟩ | ⟨-, h⟩ <;> rw [h] <;> rfl

theorem timeout_next {c : Call} (hc : (w.next c).presses ≠ []) :
    (w.next c).timeout = w.timeout := by
  cases c with
  | append p t modes => exact w.timeout_append p t modes
  | expire now => exact w.timeout_fresh now
  | clear => rfl
  | withTimeout timeout => exact absurd rfl hc

/-- The first press sets the deadline of a sequence for as long as the sequence goes on. -/
theorem deadline?_run {first : Press} {rest : List Press} (hw : w.presses = first :: rest)
    {cs : List Call} (h : w.Keeps cs) :
    (w.run cs).deadline? = some (first.time + w.timeout + 1) := by
  induction cs generalizing w rest with
  | nil => simp [run, deadline?, started?, hw]
  | cons c cs ih =>
    obtain ⟨hkept, hrest⟩ := h
    rw [hw] at hkept
    obtain ⟨more, hmore⟩ := hkept
    have hnext : (w.next c).presses = first :: (rest ++ more) := hmore.symm
    have htimeout : (w.next c).timeout = w.timeout := timeout_next (by simp [hnext])
    rw [← htimeout]
    exact ih hnext hrest

theorem presses_run_of_empty (hw : w.presses = []) {cs : List Call}
    (h : ∀ c ∈ cs, c.isAppend = false) : (w.run cs).presses = [] := by
  induction cs generalizing w with
  | nil => exact hw
  | cons c cs ih =>
    obtain ⟨hc, hrest⟩ := List.forall_mem_cons.mp h
    refine ih ?_ hrest
    cases c with
    | append p t modes => cases hc
    | expire now =>
      simp [next, expire, fresh, isStale_of_empty hw, hw]
    | clear => rfl
    | withTimeout timeout => rfl

theorem expire_of_due {now : Nat} (h : w.Due now) : w.expire now = (w.clear, true) := by
  have hstale := (w.isStale_iff_due now).mpr h
  rw [expire, fresh, if_pos hstale, hstale]

theorem expire_of_not_due {now : Nat} (h : ¬ w.Due now) : w.expire now = (w, false) := by
  rw [← isStale_iff_due, Bool.not_eq_true] at h
  rw [expire, fresh, if_neg (by simp [h]), h]

/-- **The deadline is the boundary of staleness.**  A window is stale, a tick drops its sequence, and
a press discards one that is pending and is resolved alone, each exactly when there is a deadline
and it has come.  The deadline is the timeout and a nanosecond after the first press, and stays
there as long as the sequence goes on.  A tick that drops the sequence leaves nothing pending, and
no tick drops anything until the next press.  So a tick at the deadline drops the sequence, and one
before it leaves the window as it is. -/
theorem deadline_bounds_stale (w : Window) :
    (∀ now, let due := ∃ d, w.deadline? = some d ∧ d ≤ now
      (w.isStale now = true ↔ due) ∧ ((w.expire now).2 = true ↔ due) ∧
        ∀ p, p.time = now → (w.presses ≠ [] ∧ w.ResolvesAlone p ↔ due)) ∧
    (∀ first rest cs, w.presses = first :: rest → w.Keeps cs →
      (w.run cs).deadline? = some (first.time + w.timeout + 1)) ∧
    (∀ now, (w.expire now).2 = true → (w.expire now).1.presses = [] ∧
      ∀ cs : List Call, (∀ c ∈ cs, c.isAppend = false) →
        ∀ later, (((w.expire now).1.run cs).expire later).2 = false) ∧
    ∀ d, w.deadline? = some d →
      w.expire d = (w.clear, true) ∧ ∀ now < d, w.expire now = (w, false) := by
  refine ⟨?_, ?_, ?_, ?_⟩
  · intro now
    refine ⟨w.isStale_iff_due now, w.isStale_iff_due now, ?_⟩
    rintro p rfl
    exact w.discards_iff_due p
  · intro first rest cs hw h
    exact deadline?_run hw h
  · intro now h
    have hcleared : (w.expire now).1.presses = [] := by
      rw [expire_of_due ((w.isStale_iff_due now).mp h)]
      rfl
    refine ⟨hcleared, ?_⟩
    intro cs hcs later
    exact isStale_of_empty (presses_run_of_empty hcleared hcs) later
  · intro d hd
    refine ⟨expire_of_due ⟨d, hd, Nat.le_refl d⟩, ?_⟩
    intro now hnow
    apply expire_of_not_due
    rintro ⟨d', hd', hle⟩
    obtain rfl : d = d' := by simpa [hd] using hd'
    omega

/-- A second press comes at the last instant of the window, after a tick.  Both are dropped a
nanosecond later, and a third press is then resolved alone. -/
theorem deadline_bounds_stale_second :
    let w : Window := ⟨[⟨.play, 7⟩], 500⟩
    let set : MappingSet := ⟨[], [⟨.global, [.play, .up, .down], .run "x"⟩]⟩
    ∃ t, Table.build set = .ok t ∧
      let cs : List Call := [.expire 507, .append ⟨.up, 507⟩ t .empty]
      w.Keeps cs ∧ (w.run cs).presses = [⟨.play, 7⟩, ⟨.up, 507⟩] ∧
        (w.run cs).deadline? = some 508 ∧ (w.run cs).expire 508 = ((w.run cs).clear, true) ∧
        (w.run cs).ResolvesAlone ⟨.down, 508⟩ ∧
        ((((w.run cs).expire 508).1.run [.expire 508]).expire 600).2 = false := by
  intro w set
  obtain ⟨t, ht⟩ : ∃ t, Table.build set = .ok t := ⟨_, rfl⟩
  have htable : t = (Table.build set).toOption.getD (.blank []) := by rw [ht]; rfl
  refine ⟨t, ht, ?_⟩
  intro cs
  have hkeeps : w.Keeps cs := by
    rw [show cs = [.expire 507, .append ⟨.up, 507⟩ t .empty] from rfl, htable]
    exact ⟨by decide +kernel, by decide +kernel, trivial⟩
  have hpresses : (w.run cs).presses = [⟨.play, 7⟩, ⟨.up, 507⟩] := by
    rw [show cs = [.expire 507, .append ⟨.up, 507⟩ t .empty] from rfl, htable]
    decide +kernel
  have hdeadline := (deadline_bounds_stale w).2.1 _ _ cs rfl hkeeps
  obtain ⟨hnow, -, hafter, htimer⟩ := deadline_bounds_stale (w.run cs)
  have hdue : ∃ d, (w.run cs).deadline? = some d ∧ d ≤ 508 := ⟨508, hdeadline, Nat.le_refl _⟩
  exact ⟨hkeeps, hpresses, hdeadline, (htimer 508 hdeadline).1,
    (((hnow 508).2.2 ⟨.down, 508⟩ rfl).mpr hdue).2,
    (hafter 508 ((hnow 508).2.1.mpr hdue)).2 [.expire 508] (by simp [Call.isAppend]) 600⟩

end Window

end InlineRemote
