import InlineRemote.Engine
import Mathlib.Data.List.Forall2

/-! # Engines in related worlds

A relation between worlds that every collaborator respects is respected by all that an engine does:
the results are the same, and the worlds stay related.  For a reload it is enough that warnings and
observers keep the worlds related, and they may be those of two dispatchers. -/
namespace InlineRemote

variable {ω : Type}

/-- A table that is built is put in force: the engine adopts it, and tells of it what it tells in
any world. -/
theorem Engine.reload_eq_ok {set : MappingSet} {t : Table} (h : Table.build set = .ok t)
    (e : Engine) (d : Dispatcher ω) (timeout : Nat) (w : ω) :
    e.reload d set timeout w =
      .ok (⟨t.size, !e.window.isEmpty, (e.modes.dropped t.declares).length⟩, e.adopt t timeout,
        (e.modes.dropped t.declares).foldl
          (fun w m => d.notify (.deactivated m) (e.adopt t timeout).modes w)
          (d.warnAll t.warnings w)) := by
  rw [Engine.reload, h]

theorem Engine.reload_eq_error {set : MappingSet} {fault : TableError}
    (h : Table.build set = .error fault) (e : Engine) (d : Dispatcher ω) (timeout : Nat) (w : ω) :
    e.reload d set timeout w = .error fault := by
  rw [Engine.reload, h]

namespace Dispatcher

/-- The world after a call that may have failed: a failure is warned of. -/
def settle (d : Dispatcher ω) (warning : String → String) : Option String × ω → ω
  | (none, w) => w
  | (some reason, w) => d.warn (warning reason) w

/-- The world after one stroke was attempted. -/
def attempt (d : Dispatcher ω) (stroke : Stroke) (w : ω) : ω :=
  d.settle stroke.injectionWarning (d.inject stroke w)

theorem injectAll_cons (d : Dispatcher ω) (stroke : Stroke) (strokes : List Stroke) (w : ω) :
    d.injectAll (stroke :: strokes) w =
      ((d.injectAll strokes (d.attempt stroke w)).1 +
        if (d.inject stroke w).1.isSome then 1 else 0,
        (d.injectAll strokes (d.attempt stroke w)).2) := by
  rw [injectAll, attempt]
  generalize d.inject stroke w = a
  obtain ⟨fault, v⟩ := a
  cases fault <;> rfl

theorem dispatch_run (d : Dispatcher ω) (command : String) (modes : ModeStack) (w : ω) :
    d.dispatch (.run command) modes w =
      (if (d.run command w).1.isSome then .commandFailed else .commandStarted, modes,
        d.settle (commandWarning command) (d.run command w)) := by
  rw [dispatch]
  generalize d.run command w = a
  obtain ⟨fault, v⟩ := a
  cases fault <;> rfl

end Dispatcher

/-- Whatever two dispatchers warn of or tell their observers leaves their worlds related. -/
structure Dispatcher.TellAlike (d d' : Dispatcher ω) (R : ω → ω → Prop) : Prop where
  warn : ∀ text {w w'}, R w w' → R (d.warn text w) (d'.warn text w')
  observe : List.Forall₂
    (fun o o' => ∀ c modes {w w'}, R w w' → R (o c modes w) (o' c modes w'))
    d.observers d'.observers

namespace Dispatcher.TellAlike

variable {d d' : Dispatcher ω} {R : ω → ω → Prop} {w w' : ω}

theorem notify (hd : d.TellAlike d' R) (c : ModeChange) (modes : ModeStack) (h : R w w') :
    R (d.notify c modes w) (d'.notify c modes w') := by
  rw [Dispatcher.notify, Dispatcher.notify]
  have hobserve := hd.observe
  generalize d.observers = os at hobserve ⊢
  generalize d'.observers = os' at hobserve ⊢
  induction hobserve generalizing w w' with
  | nil => exact h
  | cons ho hos ih => exact ih (ho c modes h)

theorem warnAll (hd : d.TellAlike d' R) (texts : List String) (h : R w w') :
    R (d.warnAll texts w) (d'.warnAll texts w') := by
  induction texts generalizing w w' with
  | nil => exact h
  | cons text texts ih => exact ih (hd.warn text h)

theorem notifyDropped (hd : d.TellAlike d' R) (dropped : List ModeId) (modes : ModeStack)
    (h : R w w') :
    R (dropped.foldl (fun w m => d.notify (.deactivated m) modes w) w)
      (dropped.foldl (fun w m => d'.notify (.deactivated m) modes w) w') := by
  induction dropped generalizing w w' with
  | nil => exact h
  | cons m dropped ih => exact ih (hd.notify _ _ h)

theorem reload (hd : d.TellAlike d' R) (e : Engine) (set : MappingSet) (timeout : Nat)
    (h : R w w') :
    (∃ fault, e.reload d set timeout w = .error fault ∧
      e.reload d' set timeout w' = .error fault) ∨
    ∃ summary e' v v', e.reload d set timeout w = .ok (summary, e', v) ∧
      e.reload d' set timeout w' = .ok (summary, e', v') ∧ R v v' := by
  cases hb : Table.build set with
  | error fault => exact .inl ⟨fault, Engine.reload_eq_error hb .., Engine.reload_eq_error hb ..⟩
  | ok t =>
    exact .inr ⟨_, _, _, _, Engine.reload_eq_ok hb .., Engine.reload_eq_ok hb ..,
      hd.notifyDropped _ _ (hd.warnAll _ h)⟩

theorem of_kept {P : ω → Prop} (warn : ∀ text w, P w → P (d.warn text w))
    (observe : ∀ o ∈ d.observers, ∀ c modes w, P w → P (o c modes w)) :
    d.TellAlike d fun w w' => w = w' ∧ P w where
  warn text _ _ := by
    rintro ⟨rfl, h⟩
    exact ⟨rfl, warn text _ h⟩
  observe := by
    refine List.forall₂_same.mpr fun o ho c modes _ _ => ?_
    rintro ⟨rfl, h⟩
    exact ⟨rfl, observe o ho c modes _ h⟩

end Dispatcher.TellAlike

/-- Two outcomes have the same result, in related worlds. -/
structure SameResult {α : Type} (R : ω → ω → Prop) (a b : α × ω) : Prop where
  fst : a.1 = b.1
  snd : R a.2 b.2

/-- Whatever a collaborator does in related worlds, it does alike. -/
structure Dispatcher.Respects (d : Dispatcher ω) (R : ω → ω → Prop) : Prop where
  inject : ∀ stroke {w w'}, R w w' → SameResult R (d.inject stroke w) (d.inject stroke w')
  run : ∀ command {w w'}, R w w' → SameResult R (d.run command w) (d.run command w')
  warn : ∀ text {w w'}, R w w' → R (d.warn text w) (d.warn text w')
  observe : ∀ observe ∈ d.observers, ∀ c modes {w w'}, R w w' →
    R (observe c modes w) (observe c modes w')

namespace Dispatcher.Respects

variable {d : Dispatcher ω} {R : ω → ω → Prop} {w w' : ω}

theorem tellAlike (hd : d.Respects R) : d.TellAlike d R :=
  ⟨hd.warn, List.forall₂_same.mpr hd.observe⟩

theorem settle (hd : d.Respects R) (warning : String → String) {a b : Option String × ω}
    (h : SameResult R a b) : R (d.settle warning a) (d.settle warning b) := by
  obtain ⟨fault, v⟩ := a
  obtain ⟨fault', v'⟩ := b
  obtain ⟨rfl, hv⟩ := h
  cases fault with
  | none => exact hv
  | some reason => exact hd.warn _ hv

theorem injectAll (hd : d.Respects R) (strokes : List Stroke) (h : R w w') :
    SameResult R (d.injectAll strokes w) (d.injectAll strokes w') := by
  induction strokes generalizing w w' with
  | nil => exact ⟨rfl, h⟩
  | cons stroke strokes ih =>
    have hinject := hd.inject stroke h
    have hrest := ih (hd.settle stroke.injectionWarning hinject)
    rw [injectAll_cons, injectAll_cons, hinject.fst]
    exact ⟨congrArg (· + _) hrest.fst, hrest.snd⟩

theorem dispatch (hd : d.Respects R) (a : Action) (modes : ModeStack) (h : R w w') :
    (d.dispatch a modes w).1 = (d.dispatch a modes w').1 ∧
      SameResult R (d.dispatch a modes w).2 (d.dispatch a modes w').2 := by
  cases a with
  | type strokes =>
    have hs := hd.injectAll strokes h
    exact ⟨congrArg (DispatchResult.injected strokes.length) hs.fst, rfl, hs.snd⟩
  | run command =>
    have hrun := hd.run command h
    rw [dispatch_run, dispatch_run, hrun.fst]
    exact ⟨rfl, rfl, hd.settle _ hrun⟩
  | activate m =>
    rw [Dispatcher.dispatch, Dispatcher.dispatch]
    cases modes.push? m with
    | none => exact ⟨rfl, rfl, h⟩
    | some modes' => exact ⟨rfl, rfl, hd.tellAlike.notify _ _ h⟩
  | deactivate m =>
    rw [Dispatcher.dispatch, Dispatcher.dispatch]
    cases modes.pop? m with
    | none => exact ⟨rfl, rfl, h⟩
    | some modes' => exact ⟨rfl, rfl, hd.tellAlike.notify _ _ h⟩

theorem press (hd : d.Respects R) (e : Engine) (p : Press) (h : R w w') :
    (e.press d p w).1 = (e.press d p w').1 ∧
      SameResult R (e.press d p w).2 (e.press d p w').2 := by
  rw [Engine.press, Engine.press]
  split
  · next window trigger a happend =>
    have hs := hd.dispatch a e.modes h
    have hengine := congrArg (fun modes : ModeStack => ({ e with window, modes } : Engine)) hs.2.fst
    exact ⟨congrArg some hs.1, hengine, hs.2.snd⟩
  · exact ⟨rfl, rfl, h⟩

end Dispatcher.Respects

end InlineRemote
