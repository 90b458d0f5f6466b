import InlineRemote.Proofs.Daemon.Accepted
import InlineRemote.Proofs.Daemon.Alike

/-! # Reloads that fail

A reload that fails is not noticed by the engine or by any collaborator, neither at once nor later.
What it leaves behind are lines of the log and the error in the status file: a run goes on as it
would have without the reload, unless the status file is itself taken for the mapping file. -/
namespace InlineRemote

/-- What can be told of a daemon, the lines of the log, the error of the status and the files left
out. -/
structure View where
  engine : Engine
  audio : Bool
  calls : Log
  status : Status

namespace Daemon

def view (d : Daemon) : View :=
  ⟨d.engine, d.world.audio, d.world.log.calls, d.world.status.withoutError⟩

theorem Alike.view_eq {s : Setup} {upper : List String} {d d' : Daemon}
    (h : Alike s upper d d') : d.view = d'.view := by
  rw [view, view, h.engine, h.world.audio, World.Alike.calls_eq h.world,
    World.Alike.withoutError_eq h.world]

/-- A run with reloads put in: `none` stands for such a reload, and the rest is the run itself. -/
abbrev Script := List (Option Event)

/-- The events of the run itself. -/
def Script.own (script : Script) : List Event :=
  script.filterMap id

/-- The responses to the run itself, with the view of the daemon after each. -/
def trace (d : Daemon) (s : Setup) : Script → List (Response × View)
  | [] => []
  | none :: es => (d.step s .reload).2.trace s es
  | some e :: es => ((d.step s e).1, (d.step s e).2.view) :: (d.step s e).2.trace s es

/-- Every reload that was put in fails. -/
def PutInFail (d : Daemon) (s : Setup) : Script → Prop
  | [] => True
  | none :: es =>
    (∃ e, (d.step s .reload).1 = .notReloaded e) ∧ (d.step s .reload).2.PutInFail s es
  | some e :: es => (d.step s e).2.PutInFail s es

theorem notReloaded_iff {d : Daemon} {s : Setup} {e : ReloadError} :
    (d.step s .reload).1 = .notReloaded e ↔
      s.locations.accept s.describe d.world.files = .error e := by
  cases ha : s.locations.accept s.describe d.world.files with
  | error e' =>
    rw [step_reload_of_error ha]
    simp only [Response.notReloaded.injEq, Except.error.injEq]
  | ok a =>
    simp only [step_reload_of_ok ha, reduceCtorEq]

/-- Two daemons alike go on alike, reloads that fail being put into one run. -/
theorem Alike.trace_eq {s : Setup} {upper : List String} {d d' : Daemon}
    (hl : s.locations.Together upper) (h : Alike s upper d d') (script : Script)
    (hfail : d.PutInFail s script) (hspare : d'.SparesStatus s script.own) :
    d.trace s script = d'.trace s (script.own.map some) := by
  induction script generalizing d d' with
  | nil => rfl
  | cons e es ih =>
    cases e with
    | none =>
      -- Only one of the two daemons takes the reload that was put in.
      obtain ⟨⟨e, he⟩, hfail⟩ := hfail
      exact ih (h.failed_left hl (notReloaded_iff.mp he)) hfail hspare
    | some e =>
      obtain ⟨hspare, hrest⟩ := hspare
      have hstep := h.step hl e hspare
      have hrest' := ih hstep.2 hfail hrest
      change d.trace s (some e :: es) = d'.trace s (some e :: (Script.own es).map some)
      rw [trace, trace, hstep.1, hstep.2.view_eq, hrest']

/-- **A failed reload is invisible but for its error.**  A reload fails exactly when its load is not
accepted.  What it then leaves is the daemon of before, with the failure told in the log between
warnings, the error in the status, and that status written to its file: the engine and the audio
switch are as they were, and nobody was called.  Put into a run anywhere, such reloads change nothing
that comes after them, as long as no reload of the run takes the status file for the mapping file.
And the table, the timeout and the audio switch are always those of the load that was accepted
last. -/
theorem failed_reload_invisible (s : Setup) :
    (∀ (d : Daemon) (e : ReloadError), (d.step s .reload).1 = .notReloaded e ↔
      s.locations.accept s.describe d.world.files = .error e) ∧
    (∀ (d : Daemon) (e : ReloadError), (d.step s .reload).1 = .notReloaded e →
      let status := { d.world.status with error := some ("Reload failed: " ++ e.message) }
      ∃ texts texts' : List String, (d.step s .reload).2 = { d with
        world := { d.world with
          log := d.world.log ++ texts.map .warn ++
            .error ("Reload failed, keeping previous mappings: " ++ e.message) ::
              texts'.map .warn
          files := (status.save s.locations.status d.world.files (s.statusFault d.world.saves)).1
          status, saves := d.world.saves + 1 } }) ∧
    (∀ (dir : String), s.locations = .within dir →
      ∀ (d : Daemon) (script : Script), d.PutInFail s script → d.SparesStatus s script.own →
        d.trace s script = d.trace s (script.own.map some)) ∧
    ∀ (files : FileTree) (es : List Event),
      let (startup, d) := start s files
      let (settings, t) := d.accepted s (startup.settings, startup.table) es
      let d' := (d.run s es).2
      d'.engine.table = t ∧
        d'.engine.window.timeout = min (max settings.timeoutMs 50) 5000 * 1000000 ∧
        d'.world.audio = settings.audio := by
  refine ⟨fun d e => notReloaded_iff, fun d e he => ?_,
    fun dir hdir d script hfail hspare => ?_, fun files es => ?_⟩
  · obtain ⟨texts, texts', hworld⟩ := d.failedWorld_eq s e
    rw [step_reload_of_error (notReloaded_iff.mp he), hworld]
    exact ⟨texts, texts', rfl⟩
  · obtain ⟨upper, hl⟩ := Locations.exists_together dir
    rw [← hdir] at hl
    exact Alike.trace_eq hl ⟨rfl, .refl s upper d.world⟩ script hfail hspare
  · have hforce := (inForce_start s files).run es (s := s)
    exact ⟨hforce.table, hforce.timeout, hforce.audio⟩

/-- The quiet daemon, with one mapping. -/
def mapped : Daemon :=
  (start quiet ((⟨[]⟩ : FileTree).lay "c/mappings.ekmap" (some (.text "cmd <Up> x")))).2

/-- The settings are bad while a reload is put in, and then name a mapping file. -/
def putIn (mappingsFile : String) : Script :=
  [some (.edit "c/config.toml" (some (.text badSettings))),
    some (.edit "c/status.toml" none),
    none,
    some (.edit "c/config.toml" (some (.text ("mappings_file='" ++ mappingsFile ++ "'")))),
    some .reload,
    some (.press ⟨.up, 0⟩)]

theorem putIn_fail (mappingsFile : String) : mapped.PutInFail quiet (putIn mappingsFile) :=
  ⟨⟨.load (.malformedSettings "c/config.toml" badSettingsCause), by decide +kernel⟩, trivial⟩

theorem failed_reload_invisible_mapped : mapped.PutInFail quiet (putIn "mappings.ekmap") ∧
    mapped.SparesStatus quiet (putIn "mappings.ekmap").own ∧
    mapped.trace quiet (putIn "mappings.ekmap") =
      mapped.trace quiet ((putIn "mappings.ekmap").own.map some) := by
  have hspare : mapped.SparesStatus quiet (putIn "mappings.ekmap").own := by
    refine ⟨nofun, nofun, nofun, fun _ settings h => ?_, nofun, trivial⟩
    have hload : (Settings.load quiet.describe
        (mapped.run quiet ((putIn "mappings.ekmap").own.take 3)).2.world.files
        "c/config.toml").toOption = some { mappingsFile := some "mappings.ekmap" } := by
      decide +kernel
    obtain rfl := Option.some.inj (hload.symm.trans (congrArg Except.toOption h))
    decide +kernel
  exact ⟨putIn_fail _, hspare,
    (failed_reload_invisible quiet).2.2.1 "c" rfl mapped _ (putIn_fail _) hspare⟩

/-- A reload that fails writes the status file, and the next may find its mappings there. -/
theorem failed_reload_visible_in_status : mapped.PutInFail quiet (putIn "status.toml") ∧
    mapped.trace quiet (putIn "status.toml") ≠
      mapped.trace quiet ((putIn "status.toml").own.map some) := by
  refine ⟨putIn_fail _, fun h => ?_⟩
  have hlast : ((mapped.trace quiet (putIn "status.toml")).map Prod.fst).getLast? ≠
      ((mapped.trace quiet ((putIn "status.toml").own.map some)).map Prod.fst).getLast? := by
    decide +kernel
  exact hlast (by rw [h])

end Daemon

end InlineRemote
