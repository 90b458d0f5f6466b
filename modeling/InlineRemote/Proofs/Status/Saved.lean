import InlineRemote.Proofs.Files.Writing
import InlineRemote.Proofs.Status.Reading

/-! # The status file after a save

A path that can be written leads to a file: something stands after its last slash, and that is the
name of a file in the directory before it.  So whatever status is saved at whatever path, the file
there holds its text; and the text is a document with an entry for each part of the status that is
there, which is read as the status. -/
namespace InlineRemote

theorem Path.exists_joinText (path : String) :
    ∃ dir name, '/' ∉ name.toList ∧ joinText dir name = path := by
  by_cases hslash : '/' ∈ path.toList
  · obtain ⟨name, dir, hpath, hname⟩ :=
      List.eq_append_cons_of_mem (List.mem_reverse.mpr hslash)
    have hname' : '/' ∉ name.reverse := by simpa using hname
    have hsplit : path.toList = dir.reverse ++ '/' :: name.reverse := by
      simpa using congrArg List.reverse hpath
    refine ⟨.ofList (dir.reverse ++ ['/']), .ofList name.reverse, by simpa using hname, ?_⟩
    rw [joinText, String.toList_ofList, String.toList_ofList,
      join_eq_stem _ (isAbsolute_eq_false hname'), stem, if_pos (.inr (by simp)),
      List.append_assoc, List.singleton_append, ← hsplit, String.ofList_toList]
  · refine ⟨"", path, hslash, ?_⟩
    rw [joinText, join_eq_stem _ (isAbsolute_eq_false hslash)]
    exact String.ofList_toList

namespace FileTree

variable {t u : FileTree} {path name content : String} {upper : List String} {p : Place}

theorem ordinary_of_target (h : t.target path = .ok p) (hnames : names path = upper ++ [name]) :
    name ≠ "" ∧ name ≠ "." ∧ name ≠ ".." := by
  have hrev : (names path).reverse = name :: upper.reverse := by simp [hnames]
  rw [target, hrev] at h
  split at h
  · cases h
  · next heq => cases heq
  · cases h
  · split at h <;> cases h
  · next hone hmore heq =>
    obtain ⟨rfl, rfl⟩ := List.cons.inj heq
    split at h
    · cases h
    · rw [filePlace] at h
      grind

theorem exists_isFile_of_target (h : t.target path = .ok p) :
    ∃ upper name, IsFile path upper name := by
  obtain ⟨dir, name, hslash, rfl⟩ := Path.exists_joinText path
  obtain ⟨above, -, hnames⟩ := names_stem dir.toList
  have hpath : names (Path.joinText dir name) = above ++ [name] := by
    rw [Path.joinText, Path.join_eq_stem _ (Path.isAbsolute_eq_false hslash), hnames name hslash]
  obtain ⟨upper, hfile⟩ := exists_isFile dir
  exact ⟨upper, name, hfile name ⟨hslash, ordinary_of_target h hpath⟩⟩

end FileTree

namespace Status

/-- The entry for a text that may be absent. -/
def optionalEntry (key : String) (text : Option String) : Toml.Entries :=
  (text.map fun t => (key, .string t)).toList

/-- The entries of the status file: one for each part that is there. -/
def entries (s : Status) : Toml.Entries :=
  [("version", .string s.version), ("state", .string s.state.word)] ++
    (if s.activeModes = [] then [] else [("active_modes", .array (s.activeModes.map .string))]) ++
    optionalEntry "last_mode_change" s.lastModeChange ++ optionalEntry "error" s.error

theorem entry_lines (s : Status) : s.lines.map Toml.Line.entry = s.entries := by
  obtain ⟨version, state, modes, last, error⟩ := s
  rw [lines, entries]
  split <;> cases last <;> cases error <;> rfl

/-- **What is saved is read back.**  The text of any status is read as the status.  It is a document
with an entry for each part that is there: no modes, no time of a change and no error are left out,
and read back so.  Where the status is saved without a warning, the file holds this text. -/
theorem saved_reads_back (s : Status) :
    read s.text = some s ∧ Toml.read s.text = some s.entries ∧
      ∀ path files refusal?, (s.save path files refusal?).2 = none →
        (s.save path files refusal?).1.read path = .ok s.text := by
  refine ⟨s.read_text, ?_, fun path files refusal? h => ?_⟩
  · rw [text, letters_eq, Toml.read_lines reads_of_mem_lines s.nodup_keys, entry_lines]
  · obtain ⟨-, -, hw⟩ := save_eq_none h
    obtain ⟨p, ht, -⟩ := FileTree.write_eq_ok hw
    obtain ⟨upper, name, hf⟩ := FileTree.exists_isFile_of_target ht
    exact (save_saved hf h).1

/-- Texts that need each of the forms of a string, saved where there is no directory yet. -/
theorem saved_reads_back_forms :
    let s : Status := {
      version := "'''\"\"\"\n\"\"", state := .mode
      activeModes := ["\"", "\\", "\n\r\x01'", ""], error := some "\n'\"\"\"\\\"" }
    let saved := s.save "c/d/status.toml" ⟨[]⟩
    saved.2 = none ∧ saved.1.read "c/d/status.toml" = .ok s.text ∧ read s.text = some s := by
  intro s saved
  have hsaved : saved.2 = none := by decide +kernel
  obtain ⟨hread, -, hfile⟩ := saved_reads_back s
  exact ⟨hsaved, hfile _ _ _ hsaved, hread⟩

end Status

end InlineRemote
