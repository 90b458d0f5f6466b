import InlineRemote.Engine

/-! # Runs of the engine

An engine takes presses, timer ticks and reloads one after the other.  What becomes of the engine
itself does not depend on the world on which its dispatcher acts. -/
namespace InlineRemote

/-- The stack after an action was performed. -/
def ModeStack.after (s : ModeStack) : Action → ModeStack
  | .activate m => (s.push? m).getD s
  | .deactivate m => (s.pop? m).getD s
  | _ => s

variable {ω : Type}

theorem Dispatcher.dispatch_modes (d : Dispatcher ω) (a : Action) (modes : ModeStack) (w : ω) :
    (d.dispatch a modes w).2.1 = modes.after a := by
  cases a with
  | type strokes => rfl
  | run command =>
    rw [dispatch]
    split <;> rfl
  | activate m =>
    rw [dispatch, ModeStack.after]
    cases modes.push? m <;> rfl
  | deactivate m =>
    rw [dispatch, ModeStack.after]
    cases modes.pop? m <;> rfl

namespace Window

theorem isStale_eq_false_iff (w : Window) (now : Nat) :
    w.isStale now = false ↔ ∀ first, w.started? = some first → now - first ≤ w.timeout := by
  rw [isStale]
  cases w.started? with
  | none => simp
  | some first => simp only [decide_eq_false_iff_not, Nat.not_lt, Option.some.injEq, forall_eq']

theorem isStale_fresh (w : Window) (now : Nat) : (w.fresh now).isStale now = false := by
  rw [fresh]
  split
  · rfl
  · next h => simpa using h

@[simp] theorem timeout_fresh (w : Window) (now : Nat) : (w.fresh now).timeout = w.timeout := by
  rw [fresh]
  split <;> rfl

/-- The sequence that a press makes of what is still pending. -/
def extended (w : Window) (p : Press) : Trigger :=
  (w.fresh p.time).sequence ++ [p.button]

theorem append_cases (w : Window) (p : Press) (t : Table) (modes : ModeStack) :
    (∃ a, t.lookup modes.active (w.extended p) = .exact a ∧
      w.append p t modes = (w.clear, .matched (w.extended p) a)) ∨
    (t.lookup modes.active (w.extended p) = .beginning ∧
      w.append p t modes = ({ w with presses := (w.fresh p.time).presses ++ [p] },
        .pending (w.extended p))) ∨
    (t.lookup modes.active (w.extended p) = .noMatch ∧
      w.append p t modes = (w.clear, .dropped)) := by
  have hs : Window.sequence { w with presses := (w.fresh p.time).presses ++ [p] } =
      w.extended p := by
    simp [sequence, extended]
  cases h : t.lookup modes.active (w.extended p) with
  | exact a => exact .inl ⟨a, rfl, by simp only [append, hs, Table.resolve, h]⟩
  | beginning => exact .inr (.inl ⟨rfl, by simp only [append, hs, Table.resolve, h]⟩)
  | noMatch => exact .inr (.inr ⟨rfl, by simp only [append, hs, Table.resolve, h]⟩)

end Window

namespace Engine

/-- What reaches an engine. -/
inductive Input where
  | press (p : Press)
  | tick (now : Nat)
  | reload (set : MappingSet) (timeout : Nat)

/-- What came of an input. -/
inductive Reply where
  | pressed (result : Option DispatchResult)
  | ticked (dropped : Bool)
  | reloaded (summary : ReloadSummary)
  | refused (error : TableError)

/-- Takes one input.  A refused reload leaves the engine and the world as they were. -/
def take (e : Engine) (d : Dispatcher ω) (w : ω) : Input → Reply × Engine × ω
  | .press p =>
    let (result, e', w') := e.press d p w
    (.pressed result, e', w')
  | .tick now => (.ticked (e.expire now).1, (e.expire now).2, w)
  | .reload set timeout =>
    match e.reload d set timeout w with
    | .error fault => (.refused fault, e, w)
    | .ok (summary, e', w') => (.reloaded summary, e', w')

/-- Takes inputs one after the other. -/
def takeAll (e : Engine) (d : Dispatcher ω) (w : ω) : List Input → List Reply × Engine × ω
  | [] => ([], e, w)
  | i :: is =>
    let (reply, e', w') := e.take d w i
    let (replies, e'', w'') := e'.takeAll d w' is
    (reply :: replies, e'', w'')

/-- Takes presses one after the other. -/
def pressAll (e : Engine) (d : Dispatcher ω) (w : ω) :
    List Press → List (Option DispatchResult) × Engine × ω
  | [] => ([], e, w)
  | p :: ps =>
    let (result, e', w') := e.press d p w
    let (results, e'', w'') := e'.pressAll d w' ps
    (result :: results, e'', w'')

def afterPress (e : Engine) (p : Press) : Engine :=
  match e.window.append p e.table e.modes with
  | (window, .matched _ a) => { e with window, modes := e.modes.after a }
  | (window, _) => { e with window }

/-- The engine after an input. -/
def next (e : Engine) : Input → Engine
  | .press p => e.afterPress p
  | .tick now => (e.expire now).2
  | .reload set timeout =>
    match Table.build set with
    | .error _ => e
    | .ok t => e.adopt t timeout

/-- The three things that a press can do to an engine and its world. -/
theorem press_cases (e : Engine) (d : Dispatcher ω) (p : Press) (w : ω) :
    (∃ a, e.table.lookup e.modes.active (e.window.extended p) = .exact a ∧
      e.press d p w = (some (d.dispatch a e.modes w).1,
        { e with window := e.window.clear, modes := e.modes.after a },
        (d.dispatch a e.modes w).2.2)) ∨
    (e.table.lookup e.modes.active (e.window.extended p) = .beginning ∧
      e.press d p w = (none, { e with window := { e.window with
        presses := (e.window.fresh p.time).presses ++ [p] } }, w)) ∨
    (e.table.lookup e.modes.active (e.window.extended p) = .noMatch ∧
      e.press d p w = (none, { e with window := e.window.clear }, w)) := by
  rcases e.window.append_cases p e.table e.modes with ⟨a, hl, h⟩ | ⟨hl, h⟩ | ⟨hl, h⟩
  · refine .inl ⟨a, hl, ?_⟩
    simp only [press, h, ← d.dispatch_modes a e.modes w]
  · exact .inr (.inl ⟨hl, by simp only [press, h]⟩)
  · exact .inr (.inr ⟨hl, by simp only [press, h]⟩)

theorem press_engine (e : Engine) (d : Dispatcher ω) (p : Press) (w : ω) :
    (e.press d p w).2.1 = e.afterPress p := by
  rcases e.window.append_cases p e.table e.modes with ⟨a, -, h⟩ | ⟨-, h⟩ | ⟨-, h⟩
  · simp only [press, afterPress, h, ← d.dispatch_modes a e.modes w]
  · simp only [press, afterPress, h]
  · simp only [press, afterPress, h]

theorem take_engine (e : Engine) (d : Dispatcher ω) (w : ω) (i : Input) :
    (e.take d w i).2.1 = e.next i := by
  cases i with
  | press p => exact e.press_engine d p w
  | tick now => rfl
  | reload set timeout =>
    simp only [take, reload, next]
    cases Table.build set <;> rfl

theorem takeAll_engine (e : Engine) (d : Dispatcher ω) (w : ω) (is : List Input) :
    (e.takeAll d w is).2.1 = is.foldl next e := by
  induction is generalizing e w with
  | nil => rfl
  | cons i is ih =>
    rw [takeAll, List.foldl_cons, ← e.take_engine d w i]
    exact ih _ _

theorem takeAll_induction {motive : Engine → Prop} {e : Engine} (h : motive e)
    (step : ∀ e i, motive e → motive (e.next i)) (d : Dispatcher ω) (w : ω) (is : List Input) :
    motive (e.takeAll d w is).2.1 := by
  rw [takeAll_engine]
  induction is generalizing e with
  | nil => exact h
  | cons i is ih => exact ih (step e i h)

/-- The engine after a press is the old one with a press more pending, or one with none. -/
theorem afterPress_cases (e : Engine) (p : Press) :
    (∃ a, e.table.lookup e.modes.active (e.window.extended p) = .exact a ∧
      e.afterPress p = { e with window := e.window.clear, modes := e.modes.after a }) ∨
    (e.table.lookup e.modes.active (e.window.extended p) = .beginning ∧
      e.afterPress p = { e with window := { e.window with
        presses := (e.window.fresh p.time).presses ++ [p] } }) ∨
    (e.table.lookup e.modes.active (e.window.extended p) = .noMatch ∧
      e.afterPress p = { e with window := e.window.clear }) := by
  rcases e.window.append_cases p e.table e.modes with ⟨a, hl, h⟩ | ⟨hl, h⟩ | ⟨hl, h⟩
  · exact .inl ⟨a, hl, by simp only [afterPress, h]⟩
  · exact .inr (.inl ⟨hl, by simp only [afterPress, h]⟩)
  · exact .inr (.inr ⟨hl, by simp only [afterPress, h]⟩)

@[simp] theorem table_afterPress (e : Engine) (p : Press) : (e.afterPress p).table = e.table := by
  rcases e.afterPress_cases p with ⟨a, -, h⟩ | ⟨-, h⟩ | ⟨-, h⟩ <;> rw [h]

@[simp] theorem timeout_afterPress (e : Engine) (p : Press) :
    (e.afterPress p).window.timeout = e.window.timeout := by
  rcases e.afterPress_cases p with ⟨a, -, h⟩ | ⟨-, h⟩ | ⟨-, h⟩
  all_goals exact congrArg (fun e => e.window.timeout) h

end Engine

end InlineRemote
