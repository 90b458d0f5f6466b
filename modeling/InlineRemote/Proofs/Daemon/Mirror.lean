import InlineRemote.Proofs.Daemon.Sight
import InlineRemote.Proofs.Engine.Notices
import InlineRemote.Proofs.Files.Writing
import InlineRemote.Proofs.Status.Reading

/-! # The status file mirrors the daemon

The status is set at three places: at the start, by the observer that is told of a change of modes,
and after a reload.  Each of them saves it, so that the status file always holds the status as it
was last set.  An action that changes the stack tells the observers of the new stack; a reload that
drops modes tells them of the stack that remains, with the old error still in the status, and then
sets the error.  So after every event the file tells the modes of the engine and the outcome of the
last reload. -/
namespace InlineRemote

open FileTree

namespace ModeStack

variable {s t : ModeStack} {m : ModeId}

theorem ne_of_push? (h : s.push? m = some t) : t ≠ s := by
  rw [push?] at h
  split at h
  · cases h
  · obtain rfl := Option.some.inj h
    intro heq
    simpa using congrArg (fun s => s.active.length) heq

theorem ne_of_pop? (h : s.pop? m = some t) : t ≠ s := by
  rw [pop?] at h
  split at h
  · next hm =>
    obtain rfl := Option.some.inj h
    intro heq
    rw [contains_eq_true_iff, ← heq] at hm
    simp at hm
  · cases h

theorem retain_eq_self_iff (s : ModeStack) (keep : ModeId → Bool) :
    s.retain keep = s ↔ s.dropped keep = [] := by
  rw [dropped_eq_nil, ← List.filter_eq_self, retain]
  exact ⟨congrArg active, congrArg ModeStack.mk⟩

end ModeStack

namespace Dispatcher

variable {ω : Type} {P : ω → Prop}

/-- An action leaves the stack, and whatever the injector, the runner and warnings keep.  Or it
changes the stack, and tells the observers. -/
theorem dispatch_cases (d : Dispatcher ω) (hinject : ∀ stroke w, P w → P (d.inject stroke w).2)
    (hrun : ∀ command w, P w → P (d.run command w).2) (hwarn : ∀ text w, P w → P (d.warn text w))
    (a : Action) (modes : ModeStack) {w : ω} (h : P w) :
    (modes.after a = modes ∧ P (d.dispatch a modes w).2.2) ∨
      modes.after a ≠ modes ∧ ∃ c, (d.dispatch a modes w).2.2 = d.notify c (modes.after a) w := by
  have hsettle (warning : String → String) {a : Option String × ω} (ha : P a.2) :
      P (d.settle warning a) := by
    obtain ⟨fault, v⟩ := a
    cases fault with
    | none => exact ha
    | some reason => exact hwarn _ v ha
  cases a with
  | type strokes =>
    refine .inl ⟨rfl, ?_⟩
    show P (d.injectAll strokes w).2
    induction strokes generalizing w with
    | nil => exact h
    | cons stroke strokes ih =>
      rw [injectAll_cons]
      exact ih (hsettle _ (hinject stroke w h))
  | run command =>
    refine .inl ⟨rfl, ?_⟩
    rw [dispatch_run]
    exact hsettle _ (hrun command w h)
  | activate m =>
    rw [dispatch, ModeStack.after]
    cases hpush : modes.push? m with
    | none => exact .inl ⟨rfl, h⟩
    | some modes' => exact .inr ⟨ModeStack.ne_of_push? hpush, _, rfl⟩
  | deactivate m =>
    rw [dispatch, ModeStack.after]
    cases hpop : modes.pop? m with
    | none => exact .inl ⟨rfl, h⟩
    | some modes' => exact .inr ⟨ModeStack.ne_of_pop? hpop, _, rfl⟩

end Dispatcher

/-- A status tells which modes are active, whether the modes ever changed, and what went wrong
last. -/
structure Status.Tells (status : Status) (modes : ModeStack) (changed : Prop)
    (error : Option String) : Prop where
  activeModes : status.activeModes = modes.active.map (·.name)
  state : status.state = if modes.active = [] then .idle else .mode
  lastModeChange : status.lastModeChange.isSome ↔ changed
  error : status.error = error

/-- The status file can be written: whatever is to be saved is saved. -/
def Setup.CanSave (s : Setup) (files : FileTree) : Prop :=
  ∀ (status : Status) (n : Nat), (status.save s.locations.status files (s.statusFault n)).2 = none

/-- Nobody but the daemon writes the status file: an edit leaves what is read there, and that it can
be written. -/
def Setup.Spares (s : Setup) (files : FileTree) : Event → Prop
  | .edit path node =>
    (files.lay path node).read s.locations.status = files.read s.locations.status ∧
      s.CanSave (files.lay path node)
  | _ => True

/-- The status file can be written, and holds the status as it was last set. -/
structure World.Mirrored (s : Setup) (modes : ModeStack) (changed : Prop) (error : Option String)
    (w : World) : Prop where
  canSave : s.CanSave w.files
  read : w.files.read s.locations.status = .ok w.status.text
  tells : w.status.Tells modes changed error

/-- The error of the status after a response: a reload sets it or clears it, and nothing else
touches it. -/
def Response.error? : Response → Option (Option String)
  | .reloaded _ => some none
  | .notReloaded e => some (some ("Reload failed: " ++ e.message))
  | _ => none

theorem Response.error?_cons (r : Response) (rs : List Response) (error : Option String) :
    ((r :: rs).filterMap error?).getLast?.getD error =
      (rs.filterMap error?).getLast?.getD (r.error?.getD error) := by
  rw [List.filterMap_cons]
  cases r.error? with
  | none => rfl
  | some error' => rw [List.getLast?_cons]; rfl

namespace Setup

variable {s : Setup} {files : FileTree}

theorem canSave_of_save (hfault : ∀ n, s.statusFault n = none) {status : Status}
    (h : (status.save s.locations.status files).2 = none) : s.CanSave files := by
  intro status' n
  rw [hfault]
  exact Status.save_any h status'

theorem CanSave.save {upper : List String} {name : String} (h : s.CanSave files)
    (hf : IsFile s.locations.status upper name) (status : Status) (n : Nat) :
    s.CanSave (status.save s.locations.status files (s.statusFault n)).1 := by
  have hfault (m : Nat) : s.statusFault m = none := (Status.save_eq_none (h status m)).1
  exact canSave_of_save hfault ((Status.save_saved hf (h status n)).2 status)

end Setup

namespace World

variable {s : Setup} {upper : List String} {name : String} {w : World} {modes : ModeStack}
  {changed : Prop} {error : Option String}

theorem mirrored_saveStatus (hf : IsFile s.locations.status upper name)
    (hsave : s.CanSave w.files) (h : w.status.Tells modes changed error) :
    (w.saveStatus s).Mirrored s modes changed error := by
  obtain ⟨texts, hw⟩ := w.saveStatus_eq s
  rw [hw]
  exact ⟨hsave.save hf w.status w.saves,
    (Status.save_saved hf (hsave w.status w.saves)).1, h⟩

namespace Mirrored

theorem note (h : w.Mirrored s modes changed error) (entries : Log) :
    (w.note entries).Mirrored s modes changed error :=
  ⟨h.canSave, h.read, h.tells⟩

theorem warnAudio (h : w.Mirrored s modes changed error) :
    w.warnAudio.Mirrored s modes changed error := by
  rw [World.warnAudio]
  split
  · exact h.note _
  · exact h

theorem report (hf : IsFile s.locations.status upper name)
    (h : w.Mirrored s modes changed error) (error' : Option String) :
    (w.report s error').Mirrored s modes changed error' :=
  mirrored_saveStatus hf h.canSave
    ⟨h.tells.activeModes, h.tells.state, h.tells.lastModeChange, rfl⟩

/-- The observers are told of a stack, and the file tells of it; the error stays. -/
theorem notify (hf : IsFile s.locations.status upper name)
    (h : w.Mirrored s modes changed error) (c : ModeChange) (modes' : ModeStack) :
    (s.dispatcher.notify c modes' w).Mirrored s modes' True error := by
  rw [Dispatcher.notify, Setup.dispatcher, List.foldl_append, List.foldl_cons, List.foldl_cons,
    List.foldl_nil]
  have hrecorded : (((List.range s.recorders).map fun n => Setup.lift (recorder n)).foldl
      (fun w observe => observe c modes' w) w).Mirrored s modes changed error := by
    refine List.foldlRecOn (motive := World.Mirrored s modes changed error) _ _ h
      fun w hw o ho => ?_
    obtain ⟨n, -, rfl⟩ := List.mem_map.mp ho
    exact hw.note [.observed n c modes'.active]
  generalize ((List.range s.recorders).map fun n => Setup.lift (recorder n)).foldl
    (fun w observe => observe c modes' w) w = v at hrecorded ⊢
  have hsaved : (s.observeStatus c modes' v).Mirrored s modes' True error :=
    mirrored_saveStatus hf hrecorded.canSave
      ⟨rfl, rfl, iff_of_true rfl trivial, hrecorded.tells.error⟩
  rw [Setup.observeAudio]
  split
  · exact hsaved.note _
  · exact hsaved

theorem stay {modes' : ModeStack} (h : w.Mirrored s modes changed error) (heq : modes' = modes) :
    w.Mirrored s modes' (changed ∨ modes' ≠ modes) error := by
  simpa [heq] using h

theorem change {modes' : ModeStack} (h : w.Mirrored s modes' True error) (hne : modes' ≠ modes) :
    w.Mirrored s modes' (changed ∨ modes' ≠ modes) error := by
  simpa [hne] using h

theorem warnAll (h : w.Mirrored s modes changed error) (texts : List String) :
    (s.dispatcher.warnAll texts w).Mirrored s modes changed error :=
  List.foldlRecOn (motive := World.Mirrored s modes changed error) texts _ h
    fun _ hw text _ => hw.note [.warn text]

/-- The modes that a reload drops are told one after the other, all with the stack that remains. -/
theorem notifyDropped (hf : IsFile s.locations.status upper name)
    (h : w.Mirrored s modes changed error) (keep : ModeId → Bool) :
    ((modes.dropped keep).foldl
      (fun w m => s.dispatcher.notify (.deactivated m) (modes.retain keep) w) w).Mirrored s
        (modes.retain keep) (changed ∨ modes.retain keep ≠ modes) error := by
  have hiff := modes.retain_eq_self_iff keep
  generalize modes.dropped keep = dropped at hiff ⊢
  cases dropped with
  | nil => exact h.stay (hiff.mpr rfl)
  | cons m dropped =>
    have hrest : ((m :: dropped).foldl
        (fun w m => s.dispatcher.notify (.deactivated m) (modes.retain keep) w) w).Mirrored s
          (modes.retain keep) True error :=
      List.foldlRecOn (motive := World.Mirrored s (modes.retain keep) True error) dropped _
        (h.notify hf _ _) fun _ hw _ _ => hw.notify hf _ _
    exact hrest.change fun heq => List.cons_ne_nil m dropped (hiff.mp heq)

end Mirrored

end World

namespace Daemon

variable {d : Daemon} {s : Setup} {upper : List String} {name : String} {changed : Prop}
  {error : Option String}

/-- Some event of a run changes the modes. -/
def ChangesModes (d : Daemon) (s : Setup) : List Event → Prop
  | [] => False
  | e :: es =>
    (d.step s e).2.engine.modes ≠ d.engine.modes ∨ (d.step s e).2.ChangesModes s es

/-- Nobody but the daemon writes the status file during a run. -/
def Undisturbed (d : Daemon) (s : Setup) : List Event → Prop
  | [] => True
  | e :: es => s.Spares d.world.files e ∧ (d.step s e).2.Undisturbed s es

/-- The status file mirrors a daemon in whose run the modes changed or not, and the error was last
set so. -/
abbrev Mirrored (d : Daemon) (s : Setup) (changed : Prop) (error : Option String) : Prop :=
  d.world.Mirrored s d.engine.modes changed error

namespace Mirrored

theorem press (hf : IsFile s.locations.status upper name) (h : d.Mirrored s changed error)
    (p : Press) :
    (d.step s (.press p)).2.Mirrored s
      (changed ∨ (d.step s (.press p)).2.engine.modes ≠ d.engine.modes) error := by
  rcases d.engine.press_cases s.dispatcher p d.world with
    ⟨a, -, hp⟩ | ⟨-, hp⟩ | ⟨-, hp⟩ <;> rw [Mirrored, step, hp] <;> refine World.Mirrored.note ?_ _
  · rcases s.dispatcher.dispatch_cases
      (P := World.Mirrored s d.engine.modes changed error)
      (fun _ _ h => ⟨h.canSave, h.read, h.tells⟩) (fun _ _ h => ⟨h.canSave, h.read, h.tells⟩)
      (fun text _ h => h.note [.warn text]) a d.engine.modes h with ⟨hstay, hw⟩ | ⟨hne, c, hw⟩
    · exact hw.stay hstay
    · simp only [hw]
      exact (h.notify hf c (d.engine.modes.after a)).change hne
  · exact h.stay rfl
  · exact h.stay rfl

theorem reload (hf : IsFile s.locations.status upper name) (h : d.Mirrored s changed error) :
    (d.step s .reload).2.Mirrored s
      (changed ∨ (d.step s .reload).2.engine.modes ≠ d.engine.modes)
      ((d.step s .reload).1.error?.getD error) := by
  have hloaded := h.note (s.locations.load s.describe d.world.files).1
  cases ha : s.locations.accept s.describe d.world.files with
  | error e =>
    rw [step_reload_of_error ha]
    exact ((hloaded.note _).report hf _).stay rfl
  | ok a =>
    obtain ⟨settings, t⟩ := a
    rw [step_reload_of_ok ha]
    have htold : (d.toldWorld s t).Mirrored s (d.engine.modes.retain t.declares)
        (changed ∨ d.engine.modes.retain t.declares ≠ d.engine.modes) error :=
      (hloaded.warnAll t.warnings).notifyDropped hf t.declares
    have haudio : World.Mirrored s _ _ _ { d.toldWorld s t with audio := settings.audio } :=
      ⟨htold.canSave, htold.read, htold.tells⟩
    exact haudio.warnAudio.report hf none

/-- **One step.**  Whatever happens, the status file mirrors the daemon after it. -/
theorem step (hf : IsFile s.locations.status upper name) (h : d.Mirrored s changed error)
    {e : Event} (he : s.Spares d.world.files e) :
    (d.step s e).2.Mirrored s (changed ∨ (d.step s e).2.engine.modes ≠ d.engine.modes)
      ((d.step s e).1.error?.getD error) := by
  cases e with
  | press p => exact h.press hf p
  | expire now => exact World.Mirrored.stay h rfl
  | reload => exact h.reload hf
  | edit path node =>
    obtain ⟨hread, hsave⟩ := he
    exact World.Mirrored.stay ⟨hsave, hread.trans h.read, h.tells⟩ rfl

theorem run (hf : IsFile s.locations.status upper name) (h : d.Mirrored s changed error)
    {es : List Event} (hes : d.Undisturbed s es) :
    (d.run s es).2.Mirrored s (changed ∨ d.ChangesModes s es)
      (((d.run s es).1.filterMap Response.error?).getLast?.getD error) := by
  induction es generalizing d changed error with
  | nil => simpa [Daemon.run, ChangesModes] using h
  | cons e es ih =>
    obtain ⟨he, hes⟩ := hes
    have hrest := ih (h.step hf he) hes
    rw [or_assoc, ← Response.error?_cons] at hrest
    exact hrest

theorem start (hf : IsFile s.locations.status upper name) {files : FileTree}
    (hsave : s.CanSave files) :
    (start s files).2.Mirrored s False (start s files).1.summary := by
  have htells : Status.Tells { error := (Startup.load s.locations s.describe files).summary }
      .empty False (Startup.load s.locations s.describe files).summary :=
    ⟨rfl, rfl, iff_of_false Bool.false_ne_true id, rfl⟩
  exact (World.mirrored_saveStatus hf hsave htells).warnAudio

end Mirrored

/-- **The status file mirrors the daemon.**  The files of the daemon stand in one directory, the
status file can be written at the start, and nobody else writes it.  Then after every run it is read
as a status with the modes of the engine in their order.  The state in it is that a mode is active
unless none is; a time of the last change is there exactly when the modes have changed; and the
error is that of the last reload, or of the start if there was no reload. -/
theorem status_mirrors {dir : String} {s : Setup} (hs : s.locations = .within dir)
    {files : FileTree} (hsave : s.CanSave files) {es : List Event}
    (hes : (Daemon.start s files).2.Undisturbed s es) :
    let d := (Daemon.start s files).2
    let d' := (d.run s es).2
    ∃ text status, d'.world.files.read s.locations.status = .ok text ∧
      Status.read text = some status ∧
      status.Tells d'.engine.modes (d.ChangesModes s es)
        (((d.run s es).1.filterMap Response.error?).getLast?.getD
          (Daemon.start s files).1.summary) := by
  obtain ⟨upper, hl⟩ := Locations.exists_together dir
  rw [← hs] at hl
  have hrun := (Mirrored.start hl.status hsave).run hl.status hes
  rw [false_or] at hrun
  exact ⟨_, _, hrun.read, Status.read_text _, hrun.tells⟩

/-- A mode is activated, and then a reload fails. -/
theorem status_mirrors_reload :
    let files : FileTree := (⟨[]⟩ : FileTree).lay "c/mappings.ekmap"
      (some (.text "mode <Up> \x7b\nmap <Play> x\n\x7d"))
    let es : List Event :=
      [.press ⟨.up, 0⟩, .edit "c/config.toml" (some (.text badSettings)), .reload]
    let error := "Reload failed: Failed to parse config file: c/config.toml: " ++ badSettingsCause
    quiet.CanSave files ∧ (Daemon.start quiet files).2.Undisturbed quiet es ∧
      ∃ text status,
        ((Daemon.start quiet files).2.run quiet es).2.world.files.read "c/status.toml" = .ok text ∧
        Status.read text = some status ∧ status.activeModes = ["<Up>"] ∧ status.state = .mode ∧
        status.lastModeChange.isSome ∧ status.error = some error := by
  intro files es error
  have hsave : quiet.CanSave files :=
    Setup.canSave_of_save (fun _ => rfl) (by decide +kernel : (({} : Status).save _ files).2 = none)
  have hes : (Daemon.start quiet files).2.Undisturbed quiet es := by
    refine ⟨trivial, ⟨by decide +kernel, ?_⟩, trivial, trivial⟩
    exact Setup.canSave_of_save (fun _ => rfl)
      (by decide +kernel : (({} : Status).save _ _).2 = none)
  obtain ⟨text, status, hread, hstatus, htells⟩ := status_mirrors rfl hsave hes
  have hmodes : ((Daemon.start quiet files).2.run quiet es).2.engine.modes = ⟨[⟨"<Up>"⟩]⟩ := by
    decide +kernel
  have hchanged : (Daemon.start quiet files).2.ChangesModes quiet es := .inl (by decide +kernel)
  have herror : ((((Daemon.start quiet files).2.run quiet es).1.filterMap
      Response.error?).getLast?.getD (Daemon.start quiet files).1.summary) = some error := by
    decide +kernel
  obtain ⟨hactive, hstate, htime, hlast⟩ := htells
  rw [hmodes] at hactive hstate
  exact ⟨hsave, hes, text, status, hread, hstatus, hactive, hstate, htime.mpr hchanged,
    hlast.trans herror⟩

end Daemon

end InlineRemote
