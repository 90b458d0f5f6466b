import InlineRemote.Proofs.Engine.Run
import InlineRemote.Proofs.Engine.Worlds

/-! # Timer ticks go unnoticed

A tick drops a sequence that is stale, and the next press would have dropped it all the same, for
what is stale stays so.  Two runs that differ in ticks alone therefore differ in the pending presses
for a while, until the next press or reload makes the engines one again.  Nobody is called in the
meantime. -/
namespace InlineRemote

section Outputs

variable {σ ι ρ : Type}

/-- The outputs of a machine over a run, those of silent inputs left out. -/
def outputs (step : σ → ι → ρ × σ) (silent : ι → Bool) (a : σ) : List ι → List ρ
  | [] => []
  | i :: is =>
    if silent i then outputs step silent (step a i).2 is
    else (step a i).1 :: outputs step silent (step a i).2 is

/-- Silent inputs can be left out of a run in the order of time, if a relation between states that
depends on the time survives them on one side alone and all other inputs on both sides. -/
theorem outputs_filter {step : σ → ι → ρ × σ} {silent : ι → Bool} {time? : ι → Option Nat}
    {R : Nat → σ → σ → Prop}
    (hsilent : ∀ {now a b i}, R now a b → silent i = true →
      (∀ t ∈ time? i, now ≤ t) → R ((time? i).getD now) (step a i).2 b)
    (hloud : ∀ {now a b i}, R now a b → silent i = false → (∀ t ∈ time? i, now ≤ t) →
      (step a i).1 = (step b i).1 ∧ R ((time? i).getD now) (step a i).2 (step b i).2)
    {now : Nat} {a b : σ} (h : R now a b) (is : List ι) (hnow : ∀ t ∈ is.filterMap time?, now ≤ t)
    (horder : (is.filterMap time?).Pairwise (· ≤ ·)) :
    outputs step silent a is = outputs step silent b (is.filter (!silent ·)) := by
  induction is generalizing now a b with
  | nil => rfl
  | cons i is ih =>
    have hi : ∀ t ∈ time? i, now ≤ t := by
      intro t ht
      exact hnow t (List.mem_filterMap.mpr ⟨i, List.mem_cons_self, ht⟩)
    -- The rest of the run comes at the time of this input or later.
    have hrest : (∀ t ∈ is.filterMap time?, (time? i).getD now ≤ t) ∧
        (is.filterMap time?).Pairwise (· ≤ ·) := by
      cases ht : time? i with
      | none =>
        rw [List.filterMap_cons_none ht] at hnow horder
        exact ⟨hnow, horder⟩
      | some t =>
        rw [List.filterMap_cons_some ht] at horder
        exact List.pairwise_cons.mp horder
    cases hs : silent i with
    | true =>
      rw [outputs, if_pos hs, List.filter_cons_of_neg (by simp [hs])]
      exact ih (hsilent h hs hi) hrest.1 hrest.2
    | false =>
      obtain ⟨hout, hstep⟩ := hloud h hs hi
      rw [outputs, if_neg (by simp [hs]), List.filter_cons_of_pos (by simp [hs]), outputs,
        if_neg (by simp [hs]), hout, ih hstep hrest.1 hrest.2]

end Outputs

namespace Window

theorem isStale_mono {w : Window} {now later : Nat} (h : now ≤ later)
    (hs : w.isStale now = true) : w.isStale later = true := by
  rw [isStale] at hs ⊢
  split
  · next hnone => simp [hnone] at hs
  · next first hfirst =>
    have hpassed : w.timeout < now - first := by simpa [hfirst] using hs
    simp only [decide_eq_true_eq]
    omega

theorem fresh_fresh (w : Window) {now later : Nat} (h : now ≤ later) :
    (w.fresh now).fresh later = w.fresh later := by
  cases hs : w.isStale now with
  | false => rw [fresh.eq_def w now, if_neg (by simp [hs])]
  | true =>
    rw [fresh.eq_def w now, if_pos hs, fresh.eq_def w later, if_pos (isStale_mono h hs)]
    rfl

/-- Two windows hold the same from an instant on, once what is stale is dropped. -/
def AgreeFrom (now : Nat) (v w : Window) : Prop :=
  ∀ later, now ≤ later → v.fresh later = w.fresh later

namespace AgreeFrom

variable {now : Nat} {v w : Window}

theorem refl (now : Nat) (w : Window) : AgreeFrom now w w := fun _ _ => rfl

theorem timeout_eq (h : AgreeFrom now v w) : v.timeout = w.timeout := by
  have hfresh := congrArg Window.timeout (h now (Nat.le_refl now))
  rwa [timeout_fresh, timeout_fresh] at hfresh

theorem tick_left (h : AgreeFrom now v w) {later : Nat} (hlater : now ≤ later) :
    AgreeFrom later (v.fresh later) w := by
  intro after hafter
  rw [v.fresh_fresh hafter]
  exact h after (Nat.le_trans hlater hafter)

theorem append_eq (h : AgreeFrom now v w) {p : Press} (hp : now ≤ p.time) (t : Table)
    (modes : ModeStack) : v.append p t modes = w.append p t modes := by
  simp only [append, clear, h p.time hp, h.timeout_eq]

end AgreeFrom

end Window

/-- A summary but for whether a pending sequence was dropped. -/
def ReloadSummary.lasting (r : ReloadSummary) : ReloadSummary :=
  { r with discardedPending := false }

namespace Engine

variable {ω : Type}

/-- Two engines differ in stale presses at most, from an instant on. -/
structure AgreeFrom (now : Nat) (e e' : Engine) : Prop where
  table : e.table = e'.table
  modes : e.modes = e'.modes
  window : Window.AgreeFrom now e.window e'.window

namespace AgreeFrom

variable {now : Nat} {e e' : Engine}

theorem refl (now : Nat) (e : Engine) : AgreeFrom now e e :=
  ⟨rfl, rfl, .refl now e.window⟩

theorem tick_left (h : AgreeFrom now e e') {later : Nat} (hlater : now ≤ later) :
    AgreeFrom later (e.expire later).2 e' :=
  ⟨h.table, h.modes, h.window.tick_left hlater⟩

theorem press_eq (h : AgreeFrom now e e') {p : Press} (hp : now ≤ p.time) (d : Dispatcher ω)
    (w : ω) : e.press d p w = e'.press d p w := by
  simp only [press, h.table, h.modes, h.window.append_eq hp]

theorem adopt_eq (h : AgreeFrom now e e') (t : Table) (timeout : Nat) :
    e.adopt t timeout = e'.adopt t timeout := by
  simp only [adopt, Window.withTimeout, Window.clear, h.modes]

/-- A reload differs in whether it dropped a pending sequence at most, and makes the engines one if
it is accepted. -/
theorem reload (h : AgreeFrom now e e') (d : Dispatcher ω) (set : MappingSet) (timeout : Nat)
    (w : ω) :
    (∃ fault, e.reload d set timeout w = .error fault ∧ e'.reload d set timeout w = .error fault) ∨
    ∃ summary summary' e'' w', e.reload d set timeout w = .ok (summary, e'', w') ∧
      e'.reload d set timeout w = .ok (summary', e'', w') ∧ summary.lasting = summary'.lasting := by
  cases hb : Table.build set with
  | error fault => exact .inl ⟨fault, reload_eq_error hb .., reload_eq_error hb ..⟩
  | ok t =>
    rw [reload_eq_ok hb, reload_eq_ok hb, h.adopt_eq, h.modes]
    exact .inr ⟨_, _, _, _, rfl, rfl, rfl⟩

end AgreeFrom

/-- When an input comes; a reload may come at any time. -/
def Input.time? : Input → Option Nat
  | .press p => some p.time
  | .tick now => some now
  | .reload .. => none

/-- Whether an input is a timer tick. -/
def Input.isTick : Input → Bool
  | .tick _ => true
  | _ => false

/-- What came of an input, but for whether a reload dropped a pending sequence. -/
def Reply.lasting : Reply → Reply
  | .reloaded summary => .reloaded summary.lasting
  | reply => reply

theorem AgreeFrom.take {now : Nat} {e e' : Engine} (h : AgreeFrom now e e') {i : Input}
    (hi : i.isTick = false) (htime : ∀ t ∈ i.time?, now ≤ t) (d : Dispatcher ω) (w : ω) :
    (e.take d w i).1.lasting = (e'.take d w i).1.lasting ∧
      AgreeFrom (i.time?.getD now) (e.take d w i).2.1 (e'.take d w i).2.1 ∧
      (e.take d w i).2.2 = (e'.take d w i).2.2 := by
  cases i with
  | press p =>
    rw [Engine.take, Engine.take, h.press_eq (htime p.time rfl) d w]
    exact ⟨rfl, .refl _ _, rfl⟩
  | tick later => cases hi
  | reload set timeout =>
    rcases h.reload d set timeout w with
      ⟨fault, hr, hr'⟩ | ⟨summary, summary', e'', v, hr, hr', hl⟩
    · simp only [Engine.take, hr, hr']
      exact ⟨trivial, h, trivial⟩
    · simp only [Engine.take, hr, hr', Reply.lasting, hl]
      exact ⟨trivial, .refl _ _, trivial⟩

/-- What can be told of a run: what came of every input but the ticks, with the active modes and the
world after it. -/
def course (e : Engine) (d : Dispatcher ω) (w : ω) :
    List Input → List (Reply × ModeStack × ω) :=
  outputs (fun (a : Engine × ω) i =>
    let (reply, e', w') := a.1.take d a.2 i
    ((reply.lasting, e'.modes, w'), (e', w'))) Input.isTick (e, w)

/-- The ticks of a run in the order of time can be left out. -/
theorem course_filter (e : Engine) (d : Dispatcher ω) (w : ω) {is : List Input}
    (horder : (is.filterMap Input.time?).Pairwise (· ≤ ·)) :
    e.course d w is = e.course d w (is.filter (!·.isTick)) := by
  refine outputs_filter (R := fun now a b => AgreeFrom now a.1 b.1 ∧ a.2 = b.2) ?_ ?_
    ⟨.refl 0 e, rfl⟩ is (fun _ _ => Nat.zero_le _) horder
  · rintro now ⟨e, w⟩ ⟨e', w'⟩ i ⟨h, hw⟩ hs htime
    cases i with
    | tick later => exact ⟨h.tick_left (htime later rfl), hw⟩
    | press p => cases hs
    | reload set timeout => cases hs
  · rintro now ⟨e, w⟩ ⟨e', w'⟩ i ⟨h, hw⟩ hs htime
    obtain rfl : w = w' := hw
    obtain ⟨hreply, he, hw⟩ := h.take hs htime d w
    exact ⟨Prod.ext hreply (Prod.ext he.modes hw), he, hw⟩

end Engine

end InlineRemote
