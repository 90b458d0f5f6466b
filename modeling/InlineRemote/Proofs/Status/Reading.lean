import InlineRemote.Proofs.Toml.Lines
import InlineRemote.Status

/-! # The status file is read back

Every status is written as a document of at most five lines with different keys.  What is left out
stands for what is absent. -/
namespace InlineRemote.Status

open Toml

/-- The line of a text that may be absent. -/
def optionalLine (key : String) (text : Option String) : List Line :=
  (text.map fun t => (⟨key, writeString t, .string t⟩ : Line)).toList

/-- The lines of the status file. -/
def lines (s : Status) : List Line :=
  [⟨"version", writeString s.version, .string s.version⟩,
      ⟨"state", writeString s.state.word, .string s.state.word⟩] ++
    (if s.activeModes = [] then []
      else [⟨"active_modes", writeStrings s.activeModes, .array (s.activeModes.map .string)⟩]) ++
    optionalLine "last_mode_change" s.lastModeChange ++ optionalLine "error" s.error

theorem writeOptional_eq (key : String) (text : Option String) :
    writeOptional key.toList text =
      (optionalLine key text).flatMap Line.letters := by
  cases text with
  | none => rfl
  | some text => exact (List.append_nil _).symm

theorem letters_eq (s : Status) : s.letters = s.lines.flatMap Line.letters := by
  rw [letters, lines, List.flatMap_append, List.flatMap_append, List.flatMap_append,
    ← writeOptional_eq, ← writeOptional_eq]
  split <;> simp only [List.flatMap_cons, List.flatMap_nil, List.append_nil, Line.letters]

theorem reads_of_mem_lines {s : Status} : ∀ l ∈ s.lines, l.Reads := by
  have hoptional {key : String} (hkey : IsBareKey key) (text : Option String) :
      ∀ l ∈ optionalLine key text, l.Reads := by
    intro l hl
    obtain ⟨t, -, rfl⟩ := Option.map_eq_some_iff.mp (Option.mem_toList.mp hl)
    exact .string hkey t
  intro l hl
  rw [lines, List.mem_append, List.mem_append, List.mem_append] at hl
  rcases hl with ((hl | hl) | hl) | hl
  · simp only [List.mem_cons, List.not_mem_nil, or_false] at hl
    rcases hl with rfl | rfl
    · exact .string (by decide) _
    · exact .string (by decide) _
  · split at hl
    · cases hl
    · obtain rfl := List.mem_singleton.mp hl
      exact .strings (by decide) _
  · exact hoptional (by decide) _ l hl
  · exact hoptional (by decide) _ l hl

theorem nodup_keys (s : Status) : ((s.lines.map Line.entry).map Prod.fst).Nodup := by
  obtain ⟨version, state, modes, last, error⟩ := s
  rw [lines]
  split <;> cases last <;> cases error <;> exact of_decide_eq_true rfl

@[simp] theorem stateOfWord?_word (state : DaemonState) : stateOfWord? state.word = some state := by
  cases state <;> rfl

theorem readStrings_map (items : List String) : readStrings (items.map .string) = some items := by
  induction items with
  | nil => rfl
  | cons item items ih => rw [List.map_cons, readStrings, ih]; rfl

theorem ofEntries_lines (s : Status) :
    ofEntries (s.lines.map Line.entry) = some s := by
  obtain ⟨version, state, modes, last, error⟩ := s
  have hstate : readState (.string state.word) = some state := stateOfWord?_word state
  have hmodes (m : String) (ms : List String) :
      readStrings (.string m :: ms.map .string) = some (m :: ms) := readStrings_map (m :: ms)
  cases modes <;> cases last <;> cases error <;>
    simp [ofEntries, lines, optionalLine, Line.entry, readOptional, readModes, Entries.get?,
      List.lookup_cons, hstate, hmodes]

/-- **The status file is read as it was written.** -/
theorem read_text (s : Status) : read s.text = some s := by
  rw [read, text, letters_eq, read_lines reads_of_mem_lines s.nodup_keys]
  exact ofEntries_lines s

end InlineRemote.Status
