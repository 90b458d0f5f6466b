import InlineRemote.Proofs.Engine.Run
import InlineRemote.Proofs.Engine.Worlds

/-! # Injections and commands that fail

Two dispatchers may fail differently in what they inject and run.  Their engines go on alike: a
failure is a warning, is counted in the result of the action, and changes nothing else. -/
namespace InlineRemote

/-- The result of an action, whatever failed in it. -/
def DispatchResult.anyhow : DispatchResult → DispatchResult
  | .injected strokes _ => .injected strokes 0
  | .commandFailed => .commandStarted
  | result => result

variable {ω : Type}

namespace Dispatcher

/-- Whether a stroke fails where it stands in a list that is injected: those before it have been
attempted then. -/
def failsAt (d : Dispatcher ω) (strokes : List Stroke) (w : ω) (n : Nat) : Bool :=
  match strokes[n]? with
  | none => false
  | some stroke => (d.inject stroke (d.injectAll (strokes.take n) w).2).1.isSome

theorem failsAt_succ (d : Dispatcher ω) (stroke : Stroke) (strokes : List Stroke) (w : ω)
    (n : Nat) :
    d.failsAt (stroke :: strokes) w (n + 1) = d.failsAt strokes (d.attempt stroke w) n := by
  rw [failsAt, failsAt, List.getElem?_cons_succ, List.take_succ_cons, injectAll_cons]

theorem injectAll_fst (d : Dispatcher ω) (strokes : List Stroke) (w : ω) :
    (d.injectAll strokes w).1 = (List.range strokes.length).countP (d.failsAt strokes w) := by
  induction strokes generalizing w with
  | nil => rfl
  | cons stroke strokes ih =>
    have hfirst : d.failsAt (stroke :: strokes) w 0 = (d.inject stroke w).1.isSome := rfl
    have hrest : d.failsAt (stroke :: strokes) w ∘ Nat.succ =
        d.failsAt strokes (d.attempt stroke w) := funext fun n => d.failsAt_succ stroke strokes w n
    rw [injectAll_cons, ih, List.length_cons, List.range_succ_eq_map, List.countP_cons, hfirst,
      List.countP_map, hrest]

/-- Whatever two dispatchers inject, run, warn of or tell leaves their worlds related. -/
structure Twins (d d' : Dispatcher ω) (R : ω → ω → Prop) : Prop where
  inject : ∀ stroke {w w'}, R w w' → R (d.inject stroke w).2 (d'.inject stroke w').2
  run : ∀ command {w w'}, R w w' → R (d.run command w).2 (d'.run command w').2
  /-- Either may warn alone. -/
  warn_left : ∀ text {w w'}, R w w' → R (d.warn text w) w'
  warn_right : ∀ text {w w'}, R w w' → R w (d'.warn text w')
  observe : List.Forall₂
    (fun o o' => ∀ c modes {w w'}, R w w' → R (o c modes w) (o' c modes w'))
    d.observers d'.observers

namespace Twins

variable {d d' : Dispatcher ω} {R : ω → ω → Prop} {w w' : ω}

theorem tellAlike (hd : d.Twins d' R) : d.TellAlike d' R :=
  ⟨fun text _ _ h => hd.warn_right text (hd.warn_left text h), hd.observe⟩

theorem settle (hd : d.Twins d' R) (warning warning' : String → String)
    {a b : Option String × ω} (h : R a.2 b.2) : R (d.settle warning a) (d'.settle warning' b) := by
  obtain ⟨fault, v⟩ := a
  obtain ⟨fault', v'⟩ := b
  have hleft : R (d.settle warning (fault, v)) v' := by
    cases fault with
    | none => exact h
    | some reason => exact hd.warn_left _ h
  cases fault' with
  | none => exact hleft
  | some reason => exact hd.warn_right _ hleft

theorem attempt (hd : d.Twins d' R) (stroke : Stroke) (h : R w w') :
    R (d.attempt stroke w) (d'.attempt stroke w') :=
  hd.settle _ _ (hd.inject stroke h)

theorem injectAll (hd : d.Twins d' R) (strokes : List Stroke) (h : R w w') :
    R (d.injectAll strokes w).2 (d'.injectAll strokes w').2 := by
  induction strokes generalizing w w' with
  | nil => exact h
  | cons stroke strokes ih =>
    rw [injectAll_cons, injectAll_cons]
    exact ih (hd.attempt stroke h)

/-- An action has the same result but for what failed, and leaves the worlds related. -/
theorem dispatch (hd : d.Twins d' R) (a : Action) (modes : ModeStack) (h : R w w') :
    (d.dispatch a modes w).1.anyhow = (d'.dispatch a modes w').1.anyhow ∧
      R (d.dispatch a modes w).2.2 (d'.dispatch a modes w').2.2 := by
  cases a with
  | type strokes => exact ⟨rfl, hd.injectAll strokes h⟩
  | run command =>
    rw [dispatch_run, dispatch_run]
    refine ⟨?_, hd.settle _ _ (hd.run command h)⟩
    simp only
    split <;> split <;> rfl
  | activate m =>
    rw [Dispatcher.dispatch, Dispatcher.dispatch]
    cases modes.push? m with
    | none => exact ⟨rfl, h⟩
    | some modes' => exact ⟨rfl, hd.tellAlike.notify _ _ h⟩
  | deactivate m =>
    rw [Dispatcher.dispatch, Dispatcher.dispatch]
    cases modes.pop? m with
    | none => exact ⟨rfl, h⟩
    | some modes' => exact ⟨rfl, hd.tellAlike.notify _ _ h⟩

theorem press (hd : d.Twins d' R) (e : Engine) (p : Press) (h : R w w') :
    (e.press d p w).1.map DispatchResult.anyhow = (e.press d' p w').1.map DispatchResult.anyhow ∧
      SameResult R (e.press d p w).2 (e.press d' p w').2 := by
  have hengine := (e.press_engine d p w).trans (e.press_engine d' p w').symm
  rw [Engine.press, Engine.press] at hengine ⊢
  generalize e.window.append p e.table e.modes = a at hengine ⊢
  obtain ⟨window, outcome⟩ := a
  cases outcome with
  | matched trigger a =>
    have hs := hd.dispatch a e.modes h
    exact ⟨congrArg some hs.1, hengine, hs.2⟩
  | pending trigger => exact ⟨rfl, rfl, h⟩
  | dropped => exact ⟨rfl, rfl, h⟩

end Twins

end Dispatcher

end InlineRemote
