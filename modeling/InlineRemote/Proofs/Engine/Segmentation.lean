import InlineRemote.Proofs.Engine.Run

/-! # Greedy segmentation of a stream of presses

A stream of presses is cut into blocks without keeping anything between them.  A block grows while
it begins a longer trigger and the next press is in time; it is then over, and the next press opens
another one.  The engine dispatches exactly the actions of the blocks that complete a trigger. -/
namespace InlineRemote

/-- How a block ended. -/
inductive Ending where
  /-- It completed a trigger. -/
  | fired (action : Action)
  /-- No trigger starts with it. -/
  | unmatched
  /-- The next press came too late. -/
  | late
  /-- The stream ended first. -/
  | unfinished
  deriving DecidableEq, Repr

/-- Consecutive presses that are looked up together. -/
structure Block where
  presses : List Press
  ending : Ending
  deriving DecidableEq, Repr

namespace Block

/-- Whether a press comes at most the timeout after the first of a block.  A clock that goes back
counts as standing still. -/
def admits (timeout : Nat) (block : List Press) (p : Press) : Bool :=
  match block.head? with
  | none => true
  | some first => p.time - first.time ≤ timeout

/-- The block that has begun with some presses, and the presses after it. -/
def grow (t : Table) (timeout : Nat) (modes : ModeStack) (block rest : List Press) :
    Block × List Press :=
  match t.lookup modes.active (block.map (·.button)) with
  | .exact a => (⟨block, .fired a⟩, rest)
  | .noMatch => (⟨block, .unmatched⟩, rest)
  | .beginning =>
    match rest with
    | [] => (⟨block, .unfinished⟩, [])
    | p :: ps =>
      if admits timeout block p then grow t timeout modes (block ++ [p]) ps
      else (⟨block, .late⟩, p :: ps)

/-- The active modes after a block. -/
def after (b : Block) (modes : ModeStack) : ModeStack :=
  match b.ending with
  | .fired a => modes.after a
  | _ => modes

theorem grow_split (t : Table) (timeout : Nat) (modes : ModeStack) (block rest : List Press) :
    ∃ taken, (grow t timeout modes block rest).1.presses = block ++ taken ∧
      rest = taken ++ (grow t timeout modes block rest).2 := by
  induction rest generalizing block with
  | nil =>
    rw [grow]
    split <;> exact ⟨[], by simp⟩
  | cons p ps ih =>
    rw [grow]
    split
    · exact ⟨[], by simp⟩
    · exact ⟨[], by simp⟩
    · split
      · obtain ⟨taken, h₁, h₂⟩ := ih (block ++ [p])
        exact ⟨p :: taken, by simpa using h₁, by simpa using h₂⟩
      · exact ⟨[], by simp⟩

theorem length_grow_le (t : Table) (timeout : Nat) (modes : ModeStack) (block rest : List Press) :
    (grow t timeout modes block rest).2.length ≤ rest.length := by
  obtain ⟨taken, -, h⟩ := grow_split t timeout modes block rest
  have := congrArg List.length h
  simp only [List.length_append] at this
  omega

/-- The blocks of a stream.  Each one is looked up under the modes that those before it left. -/
def ofStream (t : Table) (timeout : Nat) (modes : ModeStack) : List Press → List Block
  | [] => []
  | p :: ps =>
    (grow t timeout modes [p] ps).1 ::
      ofStream t timeout ((grow t timeout modes [p] ps).1.after modes)
        (grow t timeout modes [p] ps).2
termination_by ps => ps.length
decreasing_by
  have := length_grow_le t timeout modes [p] ps
  simp only [List.length_cons]
  omega

/-- The presses that wait at the end of the stream: those of a last block that is unfinished. -/
def waiting (bs : List Block) : List Press :=
  match bs.getLast? with
  | some ⟨ps, .unfinished⟩ => ps
  | _ => []

variable {ω : Type}

/-- What a block dispatches: the action that it completes, once and at its last press. -/
def perform (d : Dispatcher ω) (b : Block) (modes : ModeStack) (w : ω) :
    List (Option DispatchResult) × ω :=
  match b.ending with
  | .fired a =>
    (List.replicate (b.presses.length - 1) none ++ [some (d.dispatch a modes w).1],
      (d.dispatch a modes w).2.2)
  | _ => (List.replicate b.presses.length none, w)

/-- What blocks dispatch one after the other: the result of every press, the modes and the world. -/
def performAll (d : Dispatcher ω) (modes : ModeStack) (w : ω) :
    List Block → List (Option DispatchResult) × ModeStack × ω
  | [] => ([], modes, w)
  | b :: bs =>
    let (results, w') := b.perform d modes w
    let (results', modes', w'') := performAll d (b.after modes) w' bs
    (results ++ results', modes', w'')

theorem isStale_eq (timeout : Nat) (block : List Press) (p : Press) :
    (⟨block, timeout⟩ : Window).isStale p.time = !admits timeout block p := by
  cases block with
  | nil => rfl
  | cons first block =>
    simp only [Window.isStale, Window.started?, admits, List.head?_cons, Option.map_some]
    rw [← decide_not, decide_eq_decide]
    omega

theorem fresh_of_admits {timeout : Nat} {block : List Press} {p : Press}
    (h : admits timeout block p = true) :
    (⟨block, timeout⟩ : Window).fresh p.time = ⟨block, timeout⟩ := by
  simp [Window.fresh, isStale_eq, h]

theorem fresh_of_late {timeout : Nat} {block : List Press} {p : Press}
    (h : admits timeout block p = false) :
    (⟨block, timeout⟩ : Window).fresh p.time = ⟨[], timeout⟩ := by
  simp [Window.fresh, isStale_eq, h, Window.clear]

theorem pressAll_late (d : Dispatcher ω) (t : Table) {timeout : Nat} (modes : ModeStack) (w : ω)
    {block : List Press} {p : Press} (ps : List Press) (h : admits timeout block p = false) :
    (Engine.mk t ⟨block, timeout⟩ modes).pressAll d w (p :: ps) =
      (Engine.mk t ⟨[], timeout⟩ modes).pressAll d w (p :: ps) := by
  have hp : (Engine.mk t ⟨block, timeout⟩ modes).press d p w =
      (Engine.mk t ⟨[], timeout⟩ modes).press d p w := by
    have hfresh : (⟨[], timeout⟩ : Window).fresh p.time = ⟨[], timeout⟩ := rfl
    simp only [Engine.press, Window.append, fresh_of_late h, hfresh, Window.clear]
  rw [Engine.pressAll, Engine.pressAll, hp]

/-- What a press in time does, by the sequence that it makes of the pending presses. -/
theorem press_pending (d : Dispatcher ω) (t : Table) {timeout : Nat} (modes : ModeStack) (w : ω)
    {pending : List Press} {p : Press} (h : admits timeout pending p = true) :
    (Engine.mk t ⟨pending, timeout⟩ modes).press d p w =
      match t.lookup modes.active ((pending ++ [p]).map (·.button)) with
      | .exact a => (some (d.dispatch a modes w).1, ⟨t, ⟨[], timeout⟩, modes.after a⟩,
          (d.dispatch a modes w).2.2)
      | .beginning => (none, ⟨t, ⟨pending ++ [p], timeout⟩, modes⟩, w)
      | .noMatch => (none, ⟨t, ⟨[], timeout⟩, modes⟩, w) := by
  have hfresh := fresh_of_admits h
  have hseq : (⟨pending, timeout⟩ : Window).extended p = (pending ++ [p]).map (·.button) := by
    simp [Window.extended, Window.sequence, hfresh]
  have hpress := (Engine.mk t ⟨pending, timeout⟩ modes).press_cases d p w
  simp only [hseq, hfresh] at hpress
  rcases hpress with ⟨a, hl, hp⟩ | ⟨hl, hp⟩ | ⟨hl, hp⟩ <;> rw [hp, hl] <;> rfl

/-- The engine with some presses pending does what the block does that goes on with them, and then
takes the presses after the block. -/
theorem pressAll_grow (d : Dispatcher ω) (t : Table) (timeout : Nat) (modes : ModeStack) (w : ω)
    (pending rest : List Press) (p : Press) (h : admits timeout pending p = true) :
    let b := (grow t timeout modes (pending ++ [p]) rest).1
    let run := (Engine.mk t ⟨pending, timeout⟩ modes).pressAll d w (p :: rest)
    let tail := (Engine.mk t ⟨waiting [b], timeout⟩ (b.after modes)).pressAll d
      (b.perform d modes w).2 (grow t timeout modes (pending ++ [p]) rest).2
    List.replicate pending.length none ++ run.1 = (b.perform d modes w).1 ++ tail.1 ∧
      run.2 = tail.2 := by
  have hp := press_pending d t modes w h
  generalize hb : pending ++ [p] = block at hp ⊢
  have hlen : block.length = pending.length + 1 := by simp [← hb]
  -- The block is what is pending together with the press that comes next.
  fun_induction grow t timeout modes block rest generalizing pending p with
  | case1 block rest a hl =>
    rw [hl] at hp
    simp [Engine.pressAll, hp, perform, after, waiting, hlen]
  | case2 block rest hl =>
    rw [hl] at hp
    simp [Engine.pressAll, hp, perform, after, waiting, hlen, List.replicate_succ']
  | case3 block hl =>
    rw [hl] at hp
    simp [Engine.pressAll, hp, perform, after, waiting, hlen, List.replicate_succ']
  | case4 block hl q ps hq ih =>
    rw [hl] at hp
    obtain ⟨hresults, hrest⟩ := ih block q hq rfl (press_pending d t modes w hq) (by simp)
    rw [Engine.pressAll, hp]
    refine ⟨?_, hrest⟩
    rw [← hresults, hlen, List.replicate_succ', List.append_assoc]
    rfl
  | case5 block hl q ps hq =>
    rw [hl] at hp
    have hlate := pressAll_late d t modes w ps (Bool.eq_false_iff.mpr hq)
    rw [Engine.pressAll, hp]
    simp [hlate, perform, after, waiting, hlen, List.replicate_succ']

theorem waiting_eq_nil {b : Block} (h : b.ending ≠ .unfinished) : waiting [b] = [] := by
  obtain ⟨ps, ending⟩ := b
  cases ending <;> simp_all [waiting]

theorem waiting_cons (b : Block) {bs : List Block} (h : bs ≠ []) :
    waiting (b :: bs) = waiting bs := by
  obtain ⟨c, cs, rfl⟩ := List.exists_cons_of_ne_nil h
  simp [waiting]

theorem grow_unfinished (t : Table) (timeout : Nat) (modes : ModeStack) (block rest : List Press)
    (h : (grow t timeout modes block rest).2 ≠ []) :
    (grow t timeout modes block rest).1.ending ≠ .unfinished := by
  fun_induction grow t timeout modes block rest with
  | case1 => simp
  | case2 => simp
  | case3 => simp at h
  | case4 block hl q ps hq ih => exact ih h
  | case5 => simp

theorem flatMap_ofStream (t : Table) (timeout : Nat) (modes : ModeStack) (ps : List Press) :
    (ofStream t timeout modes ps).flatMap (·.presses) = ps := by
  fun_induction ofStream t timeout modes ps with
  | case1 => rfl
  | case2 modes p ps ih =>
    obtain ⟨taken, hb, hrest⟩ := grow_split t timeout modes [p] ps
    rw [List.flatMap_cons, ih, hb, List.append_assoc, ← hrest]
    rfl

theorem ending_of_mem_dropLast (t : Table) (timeout : Nat) (modes : ModeStack) (ps : List Press) :
    ∀ b ∈ (ofStream t timeout modes ps).dropLast, b.ending ≠ .unfinished := by
  fun_induction ofStream t timeout modes ps with
  | case1 => simp
  | case2 modes p ps ih =>
    intro b hb
    by_cases hrest : (grow t timeout modes [p] ps).2 = []
    · simp [hrest, ofStream] at hb
    · have hne : ofStream t timeout ((grow t timeout modes [p] ps).1.after modes)
          (grow t timeout modes [p] ps).2 ≠ [] := by
        obtain ⟨q, qs, hq⟩ := List.exists_cons_of_ne_nil hrest
        rw [hq, ofStream]
        exact List.cons_ne_nil _ _
      rw [List.dropLast_cons_of_ne_nil hne] at hb
      rcases List.mem_cons.mp hb with rfl | hb
      · exact grow_unfinished t timeout modes [p] ps hrest
      · exact ih b hb

/-- The engine takes a stream of presses as the blocks of the stream tell. -/
theorem pressAll_ofStream (d : Dispatcher ω) (t : Table) (timeout : Nat) (modes : ModeStack)
    (w : ω) (ps : List Press) :
    (Engine.mk t ⟨[], timeout⟩ modes).pressAll d w ps =
      let bs := ofStream t timeout modes ps
      let (results, modes', w') := performAll d modes w bs
      (results, ⟨t, ⟨waiting bs, timeout⟩, modes'⟩, w') := by
  fun_induction ofStream t timeout modes ps generalizing w with
  | case1 => rfl
  | case2 modes p ps ih =>
    obtain ⟨hresults, hrest⟩ := pressAll_grow d t timeout modes w [] ps p rfl
    simp only [List.length_nil, List.replicate_zero, List.nil_append] at hresults hrest
    have hrun : _ = (_, _) := Prod.ext hresults hrest
    rw [hrun]
    have hunfinished := grow_unfinished t timeout modes [p] ps
    generalize grow t timeout modes [p] ps = g at ih hunfinished ⊢
    obtain ⟨b, rest⟩ := g
    cases rest with
    | nil => simp [ofStream, performAll, Engine.pressAll]
    | cons q qs =>
      have hwaiting := waiting_eq_nil (hunfinished (by simp))
      have hne : ofStream t timeout (b.after modes) (q :: qs) ≠ [] := by simp [ofStream]
      simp only [hwaiting, ih, performAll, waiting_cons b hne]

end Block

/-- **Greedy segmentation.**  An engine with nothing pending takes a stream of presses as its blocks
tell: each press has the result that its block gives it, and the world and the modes are those that
the blocks leave.  The blocks together are the stream, and what is pending at the end is the last
block if it is unfinished. -/
theorem Engine.pressAll_eq_blocks {ω : Type} (d : Dispatcher ω) (t : Table) (timeout : Nat)
    (modes : ModeStack) (w : ω) (ps : List Press) :
    let bs := Block.ofStream t timeout modes ps
    let (results, modes', w') := Block.performAll d modes w bs
    (Engine.mk t ⟨[], timeout⟩ modes).pressAll d w ps =
        (results, ⟨t, ⟨Block.waiting bs, timeout⟩, modes'⟩, w') ∧
      bs.flatMap (·.presses) = ps ∧ ∀ b ∈ bs.dropLast, b.ending ≠ .unfinished :=
  ⟨Block.pressAll_ofStream d t timeout modes w ps, Block.flatMap_ofStream t timeout modes ps,
    Block.ending_of_mem_dropLast t timeout modes ps⟩

end InlineRemote
