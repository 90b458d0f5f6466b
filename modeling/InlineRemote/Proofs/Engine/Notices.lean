import InlineRemote.Proofs.Engine.Modes
import InlineRemote.Proofs.Engine.Worlds
import Mathlib.Data.List.Induction

/-! # What the observers are told

An input tells every observer, in their order, how it changed the stack of modes, one change after
the other, and always with the stack that it leaves.  So an observer that starts with no mode and
follows the changes that it hears has the modes of the engine after every input. -/
namespace InlineRemote

/-- One call of an observer, known by its number. -/
structure Notice where
  observer : Nat
  change : ModeChange
  modes : List ModeId
  deriving DecidableEq, Repr

namespace Notice

/-- The changes that one observer heard of. -/
def heard (k : Nat) (ns : List Notice) : List ModeChange :=
  (ns.filter (·.observer = k)).map (·.change)

theorem heard_append (k : Nat) (ns ns' : List Notice) :
    heard k (ns ++ ns') = heard k ns ++ heard k ns' := by
  rw [heard, List.filter_append, List.map_append]
  rfl

/-- Each of so many observers is told of a change. -/
def round (n : Nat) (modes : ModeStack) (c : ModeChange) : List Notice :=
  (List.range n).map (⟨·, c, modes.active⟩)

theorem heard_round {k n : Nat} (hk : k < n) (modes : ModeStack) (c : ModeChange) :
    heard k (round n modes c) = [c] := by
  rw [heard, round, List.filter_map, List.map_map]
  change ((List.range n).filter (· = k)).map (fun _ => c) = [c]
  rw [List.filter_eq, List.count_range, if_pos hk]
  rfl

theorem heard_rounds {k n : Nat} (hk : k < n) (modes : ModeStack) (cs : List ModeChange) :
    heard k (cs.flatMap (round n modes)) = cs := by
  induction cs with
  | nil => rfl
  | cons c cs ih => rw [List.flatMap_cons, heard_append, heard_round hk, ih, List.singleton_append]

end Notice

/-- The modes after a change; there are none if a mode was activated that was active, or one
deactivated that was not. -/
def ModeChange.replay? (ms : List ModeId) : ModeChange → Option (List ModeId)
  | activated m => if m ∈ ms then none else some (ms ++ [m])
  | deactivated m => if m ∈ ms then some (ms.erase m) else none

namespace ModeStack

/-- What changes from one stack to the next: the modes that leave, innermost first, and then those
that come. -/
def changesTo (s t : ModeStack) : List ModeChange :=
  (s.dropped t.contains).map .deactivated ++ (s.came t).map .activated

theorem dropped_eq_nil {s : ModeStack} {keep : ModeId → Bool} :
    s.dropped keep = [] ↔ ∀ m ∈ s.active, keep m = true := by
  simp [dropped]

@[simp] theorem changesTo_self (s : ModeStack) : s.changesTo s = [] := by
  have hleft : s.dropped s.contains = [] := dropped_eq_nil.mpr fun m hm => by simpa using hm
  rw [changesTo, hleft, came_eq_nil (List.Subset.refl _)]
  rfl

theorem changesTo_push {s : ModeStack} {m : ModeId} (h : m ∉ s.active) :
    s.changesTo ⟨s.active ++ [m]⟩ = [.activated m] := by
  have hleft : s.dropped (contains ⟨s.active ++ [m]⟩) = [] :=
    dropped_eq_nil.mpr fun n hn => by simp [hn]
  rw [changesTo, hleft, came_push h]
  rfl

theorem changesTo_retain (s : ModeStack) (keep : ModeId → Bool) :
    s.changesTo (s.retain keep) = (s.dropped keep).map .deactivated := by
  have hleft : s.dropped (s.retain keep).contains = s.dropped keep := by
    refine congrArg List.reverse (List.filter_congr fun m hm => ?_)
    rw [Bool.eq_iff_iff]
    simp [retain, hm]
  rw [changesTo, hleft, retain, came_filter, List.map_nil, List.append_nil]

theorem changesTo_pop {s : ModeStack} {m : ModeId} (hs : s.active.Nodup) (h : m ∈ s.active) :
    s.changesTo ⟨s.active.filter (· ≠ m)⟩ = [.deactivated m] := by
  have hleft : s.dropped (· ≠ m) = [m] := by
    simp only [dropped, decide_not, Bool.not_not]
    rw [List.filter_eq, List.count_eq_one_of_mem hs h]
    rfl
  change s.changesTo (s.retain (· ≠ m)) = _
  rw [changesTo_retain, hleft]
  rfl

theorem replay_deactivated {ms out : List ModeId} (hms : ms.Nodup) (hout : out.Nodup)
    (h : out ⊆ ms) :
    (out.map .deactivated).foldlM ModeChange.replay? ms = some (ms.filter (· ∉ out)) := by
  induction out generalizing ms with
  | nil => simp
  | cons m out ih =>
    obtain ⟨hm, hout⟩ := List.nodup_cons.mp hout
    have herase : ms.erase m = ms.filter (· != m) := hms.erase_eq_filter m
    have hrest : out ⊆ ms.filter (· != m) := fun n hn => by
      have hne : n ≠ m := ne_of_mem_of_not_mem hn hm
      simp [h (List.mem_cons_of_mem m hn), hne]
    rw [List.map_cons, List.foldlM_cons, ModeChange.replay?, if_pos (h List.mem_cons_self), herase]
    refine (ih (hms.filter _) hout hrest).trans ?_
    rw [List.filter_filter]
    refine congrArg some (List.filter_congr fun n _ => ?_)
    rw [Bool.eq_iff_iff]
    simp [and_comm]

theorem replay_activated {ms new : List ModeId} (h : (ms ++ new).Nodup) :
    (new.map .activated).foldlM ModeChange.replay? ms = some (ms ++ new) := by
  induction new generalizing ms with
  | nil => simp
  | cons m new ih =>
    have hm : m ∉ ms := fun hm => (List.disjoint_of_nodup_append h) hm List.mem_cons_self
    rw [List.append_cons] at h ⊢
    rw [List.map_cons, List.foldlM_cons, ModeChange.replay?, if_neg hm]
    exact ih h

namespace Shift

variable {s t : ModeStack}

/-- The changes of an input lead from the stack before it to the one after it. -/
theorem replay_changesTo (h : s.Shift t) (hs : s.active.Nodup) :
    (s.changesTo t).foldlM ModeChange.replay? s.active = some t.active := by
  have hkept : s.active.filter (· ∉ s.dropped t.contains) = s.active.filter t.contains := by
    refine List.filter_congr fun m hm => ?_
    rw [Bool.eq_iff_iff]
    simp [dropped, hm]
  have hdropped : (s.dropped t.contains).Nodup := List.nodup_reverse.mpr (hs.filter _)
  have hsub : s.dropped t.contains ⊆ s.active := fun m hm =>
    List.mem_of_mem_filter (List.mem_reverse.mp hm)
  have ht := h.nodup hs
  rw [changesTo, List.foldlM_append, replay_deactivated hs hdropped hsub, hkept]
  rw [h.active_eq] at ht ⊢
  exact replay_activated ht

theorem nodup_changesTo (h : s.Shift t) (hs : s.active.Nodup) : (s.changesTo t).Nodup := by
  have hleft : (s.dropped t.contains).Nodup := List.nodup_reverse.mpr (hs.filter _)
  have hcame : (s.came t).Nodup := (h.nodup hs).filter _
  refine List.Nodup.append (hleft.map fun _ _ => ModeChange.deactivated.inj)
    (hcame.map fun _ _ => ModeChange.activated.inj) fun c hc hc' => ?_
  obtain ⟨m, -, rfl⟩ := List.mem_map.mp hc
  obtain ⟨n, -, hn⟩ := List.mem_map.mp hc'
  cases hn

theorem changesTo_eq_nil_iff (h : s.Shift t) : s.changesTo t = [] ↔ t = s := by
  refine ⟨fun hnil => ?_, fun he => by rw [he, changesTo_self]⟩
  obtain ⟨hleft, hcame⟩ := List.append_eq_nil_iff.mp hnil
  have hstay : s.active.filter t.contains = s.active :=
    List.filter_eq_self.mpr (dropped_eq_nil.mp (List.map_eq_nil_iff.mp hleft))
  have hactive := h.active_eq
  rw [hstay, List.map_eq_nil_iff.mp hcame, List.append_nil] at hactive
  exact congrArg ModeStack.mk hactive

end Shift

/-- What so many observers are told when the stack changes. -/
def notices (n : Nat) (s t : ModeStack) : List Notice :=
  (s.changesTo t).flatMap (Notice.round n t)

@[simp] theorem notices_self (n : Nat) (s : ModeStack) : notices n s s = [] := by
  rw [notices, changesTo_self, List.flatMap_nil]

end ModeStack

variable {ω : Type}

namespace Dispatcher

/-- The dispatcher that also lists the calls of its observers. -/
def noting (d : Dispatcher ω) : Dispatcher (ω × List Notice) where
  inject stroke w := ((d.inject stroke w.1).1, (d.inject stroke w.1).2, w.2)
  run command w := ((d.run command w.1).1, (d.run command w.1).2, w.2)
  warn text w := (d.warn text w.1, w.2)
  observers := d.observers.mapIdx fun k observe c modes w =>
    (observe c modes w.1, w.2 ++ [⟨k, c, modes.active⟩])

variable (d : Dispatcher ω) (w : ω) (ns : List Notice)

theorem noting_notify (c : ModeChange) (modes : ModeStack) :
    d.noting.notify c modes (w, ns) =
      (d.notify c modes w, ns ++ Notice.round d.observers.length modes c) := by
  rw [notify, notify, noting, Notice.round]
  induction d.observers using List.reverseRecOn with
  | nil => simp
  | append_singleton os o ih =>
    simp only [List.mapIdx_concat, List.foldl_concat, ih, List.length_append, List.length_singleton,
      List.range_succ, List.map_append, List.map_singleton, List.append_assoc]

theorem noting_warnAll (texts : List String) :
    d.noting.warnAll texts (w, ns) = (d.warnAll texts w, ns) := by
  induction texts generalizing w with
  | nil => rfl
  | cons text texts ih => exact ih (d.warn text w)

theorem noting_settle (warning : String → String) (fault : Option String) :
    d.noting.settle warning (fault, w, ns) = (d.settle warning (fault, w), ns) := by
  cases fault <;> rfl

theorem noting_injectAll (strokes : List Stroke) :
    d.noting.injectAll strokes (w, ns) =
      ((d.injectAll strokes w).1, (d.injectAll strokes w).2, ns) := by
  induction strokes generalizing w with
  | nil => rfl
  | cons stroke strokes ih =>
    have hattempt : d.noting.attempt stroke (w, ns) = (d.attempt stroke w, ns) :=
      d.noting_settle _ ns stroke.injectionWarning _
    rw [injectAll_cons, injectAll_cons, hattempt, ih]
    rfl

theorem noting_dispatch (a : Action) {modes : ModeStack} (hmodes : modes.active.Nodup) :
    d.noting.dispatch a modes (w, ns) =
      ((d.dispatch a modes w).1, (d.dispatch a modes w).2.1, (d.dispatch a modes w).2.2,
        ns ++ ModeStack.notices d.observers.length modes (modes.after a)) := by
  cases a with
  | type strokes =>
    rw [dispatch, dispatch, noting_injectAll]
    simp [ModeStack.after]
  | run command =>
    have hafter : modes.after (.run command) = modes := rfl
    have hsettle := d.noting_settle (d.run command w).2 ns (commandWarning command)
      (d.run command w).1
    rw [dispatch_run, dispatch_run, hafter, ModeStack.notices_self, List.append_nil, ← hsettle]
    rfl
  | activate m =>
    rw [dispatch, dispatch, ModeStack.after]
    by_cases hm : m ∈ modes.active
    · have hpush : modes.push? m = none := by simp [ModeStack.push?, hm]
      simp [hpush]
    · have hpush : modes.push? m = some ⟨modes.active ++ [m]⟩ := by simp [ModeStack.push?, hm]
      simp [hpush, noting_notify, ModeStack.notices, ModeStack.changesTo_push hm]
  | deactivate m =>
    rw [dispatch, dispatch, ModeStack.after]
    by_cases hm : m ∈ modes.active
    · have hpop : modes.pop? m = some ⟨modes.active.filter (· ≠ m)⟩ := by
        simp only [ModeStack.pop?, ModeStack.contains_eq_true_iff, hm, if_true]
      have hchange := ModeStack.changesTo_pop hmodes hm
      simp only [hpop, Option.getD_some, noting_notify, ModeStack.notices, hchange,
        List.flatMap_singleton]
    · have hpop : modes.pop? m = none := by simp [ModeStack.pop?, hm]
      simp [hpop]

theorem noting_notifyDropped (dropped : List ModeId) (modes : ModeStack) :
    dropped.foldl (fun w m => d.noting.notify (.deactivated m) modes w) (w, ns) =
      (dropped.foldl (fun w m => d.notify (.deactivated m) modes w) w,
        ns ++ (dropped.map .deactivated).flatMap (Notice.round d.observers.length modes)) := by
  induction dropped generalizing w ns with
  | nil => simp
  | cons m dropped ih =>
    rw [List.foldl_cons, noting_notify, ih, List.foldl_cons, List.map_cons, List.flatMap_cons,
      List.append_assoc]

end Dispatcher

namespace Engine

variable {e : Engine}

/-- An input tells the observers how it changed the stack, and what they are told changes nothing
else. -/
theorem noting_take (he : e.modes.active.Nodup) (d : Dispatcher ω) (w : ω) (ns : List Notice)
    (i : Input) :
    e.take d.noting (w, ns) i = ((e.take d w i).1, (e.take d w i).2.1, (e.take d w i).2.2,
      ns ++ ModeStack.notices d.observers.length e.modes (e.next i).modes) := by
  cases i with
  | press p =>
    rw [take, take, next, press, press, afterPress]
    generalize e.window.append p e.table e.modes = a
    obtain ⟨window, outcome⟩ := a
    cases outcome with
    | matched trigger a => simp only [d.noting_dispatch w ns a he]
    | pending trigger => simp
    | dropped => simp
  | tick now => simp [take, next, expire]
  | reload set timeout =>
    rw [take, take, next]
    cases h : Table.build set with
    | error fault => simp [reload_eq_error h]
    | ok t =>
      simp only [reload_eq_ok h, d.noting_warnAll, d.noting_notifyDropped, adopt,
        ModeStack.notices, ModeStack.changesTo_retain]

/-- What so many observers are told in the course of inputs. -/
def notices (e : Engine) (n : Nat) : List Input → List Notice
  | [] => []
  | i :: is => ModeStack.notices n e.modes (e.next i).modes ++ (e.next i).notices n is

theorem notices_append (e : Engine) (n : Nat) (is js : List Input) :
    e.notices n (is ++ js) = e.notices n is ++ (is.foldl next e).notices n js := by
  induction is generalizing e with
  | nil => rfl
  | cons i is ih => rw [List.cons_append, notices, ih, notices, List.append_assoc, List.foldl_cons]

theorem noting_takeAll (he : e.ModesDeclared) (d : Dispatcher ω) (w : ω) (ns : List Notice)
    (is : List Input) :
    e.takeAll d.noting (w, ns) is = ((e.takeAll d w is).1, (e.takeAll d w is).2.1,
      (e.takeAll d w is).2.2, ns ++ e.notices d.observers.length is) := by
  induction is generalizing e w ns with
  | nil => simp [takeAll, notices]
  | cons i is ih =>
    rw [takeAll, takeAll, noting_take he.nodup]
    simp only [e.take_engine d w i, ih (he.next i), notices, List.append_assoc]

theorem replay_heard (he : e.ModesDeclared) {k n : Nat} (hk : k < n) (is : List Input) :
    (Notice.heard k (e.notices n is)).foldlM ModeChange.replay? e.modes.active =
      some (is.foldl next e).modes.active := by
  induction is generalizing e with
  | nil => rfl
  | cons i is ih =>
    rw [notices, Notice.heard_append, ModeStack.notices, Notice.heard_rounds hk,
      List.foldlM_append, (e.next_shift i).replay_changesTo he.nodup]
    exact ih (he.next i)

/-- **Observers can follow the modes.**  A run from the start with any dispatcher goes on as it
does when the calls of its observers are listed.  After every run an observer that starts with no
mode and follows what it heard has the modes of the engine, and it never hears that an active mode
was activated or an inactive one deactivated.  One more input tells each change that it made to all
observers in their order before the next, once, with the stack that it leaves; nothing is told if
the stack stays as it was. -/
theorem observers_follow {set : MappingSet} {t : Table} (h : Table.build set = .ok t)
    (timeout : Nat) (d : Dispatcher ω) (w : ω) (is : List Input) :
    let run (is : List Input) := (start t timeout).takeAll d.noting (w, []) is
    let modes (is : List Input) := (run is).2.1.modes
    let told (is : List Input) := (run is).2.2.2
    ((run is).1, (run is).2.1, (run is).2.2.1) = (start t timeout).takeAll d w is ∧
      (∀ k < d.observers.length,
        (Notice.heard k (told is)).foldlM ModeChange.replay? [] = some (modes is).active) ∧
      ∀ i, let changes := (modes is).changesTo (modes (is ++ [i]))
        told (is ++ [i]) = told is ++ changes.flatMap (fun c =>
          (List.range d.observers.length).map (⟨·, c, (modes (is ++ [i])).active⟩)) ∧
        changes.Nodup ∧ (changes = [] ↔ modes (is ++ [i]) = modes is) := by
  intro run modes told
  have hstart := ModesDeclared.start h timeout
  have hmodes (is : List Input) : modes is = (is.foldl next (start t timeout)).modes :=
    congrArg Engine.modes (takeAll_engine _ _ _ is)
  have htold (is : List Input) : told is = (start t timeout).notices d.observers.length is := by
    simp only [told, run, noting_takeAll hstart, List.nil_append]
  refine ⟨?_, fun k hk => ?_, fun i => ?_⟩
  · simp only [run, noting_takeAll hstart]
  · rw [htold, hmodes]
    exact replay_heard hstart hk is
  · have hnodup : (is.foldl next (start t timeout)).modes.active.Nodup :=
      (takeAll_engine _ d w is) ▸ (hstart.takeAll d w is).nodup
    have hshift := (is.foldl next (start t timeout)).next_shift i
    rw [hmodes, hmodes, htold, htold, notices_append, List.foldl_concat]
    exact ⟨congrArg (_ ++ ·) (List.append_nil _), hshift.nodup_changesTo hnodup,
      hshift.changesTo_eq_nil_iff⟩

/-- Two observers, of a run whose reload drops two modes. -/
theorem observers_follow_reload :
    let m : ModeId := ⟨"m"⟩
    let n : ModeId := ⟨"n"⟩
    let set : MappingSet := ⟨[m, n], [⟨.global, [.up], .activate m⟩,
      ⟨.global, [.down], .activate n⟩]⟩
    let d : Dispatcher Unit := ⟨fun _ w => (none, w), fun _ w => (none, w), fun _ w => w,
      [fun _ _ w => w, fun _ _ w => w]⟩
    let is : List Input :=
      [.press ⟨.up, 0⟩, .press ⟨.down, 1⟩, .press ⟨.up, 2⟩, .reload ⟨[], []⟩ 500]
    ∃ t, Table.build set = .ok t ∧
      let told := ((start t 500).takeAll d.noting ((), []) is).2.2.2
      told = [⟨0, .activated m, [m]⟩, ⟨1, .activated m, [m]⟩,
        ⟨0, .activated n, [m, n]⟩, ⟨1, .activated n, [m, n]⟩,
        ⟨0, .deactivated n, []⟩, ⟨1, .deactivated n, []⟩,
        ⟨0, .deactivated m, []⟩, ⟨1, .deactivated m, []⟩] ∧
      (Notice.heard 1 told).foldlM ModeChange.replay? [] = some [] := by
  intro m n set d is
  obtain ⟨t, h⟩ : ∃ t, Table.build set = .ok t := ⟨_, rfl⟩
  have ht : t = (Table.build set).toOption.getD (.blank []) := by rw [h]; rfl
  have hmodes : ((start t 500).takeAll d.noting ((), []) is).2.1.modes.active = [] := by
    rw [ht]
    decide +kernel
  have hfollow := (observers_follow h 500 d () is).2.1 1 Nat.one_lt_two
  beta_reduce at hfollow
  rw [hmodes] at hfollow
  refine ⟨t, h, ?_, ?_⟩
  · rw [ht]
    decide +kernel
  · exact hfollow

end Engine

end InlineRemote
