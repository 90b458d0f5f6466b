import InlineRemote.Loading

/-! # Loading at startup and strict loading

A file decides what is put in force for its path: what it holds, or what stands in for it, without
a problem where the file is missing and with one where it is bad.  A load at startup puts in force
what both files decide.  A strict load fails at the first bad file, so it succeeds where there is no
problem, and then it has loaded the same. -/
namespace InlineRemote

/-- The settings for a path: those of the file, or the default ones.  There is a problem when the
file is there and gives none. -/
inductive Settings.FromFile (describe : String → String) (files : FileTree) (path : String) :
    Settings → Option String → Prop where
  | absent : files.isThere path = false → FromFile describe files path {} none
  | accepted (text : String) (s : Settings) :
      files.isThere path = true → files.read path = .ok text → read text = some s →
      FromFile describe files path s none
  | unreadable (fault : Fault) :
      files.isThere path = true → files.read path = .error fault →
      FromFile describe files path {} (some (LoadError.unreadableSettings path fault).message)
  | malformed (text : String) :
      files.isThere path = true → files.read path = .ok text → read text = none →
      FromFile describe files path {}
        (some (LoadError.malformedSettings path (describe text)).message)

/-- The table for a path: that of the mapping file, or the built-in one.  There is a problem when
the file is there and makes no table. -/
inductive Table.FromFile (files : FileTree) (path : String) : Table → Option String → Prop where
  | absent : files.isThere path = false → FromFile files path .builtin none
  | accepted (text : String) (set : MappingSet) (t : Table) :
      files.isThere path = true → files.read path = .ok text →
      Mapping.read text.toList = .ok set → build set = .ok t →
      FromFile files path t none
  | unreadable (fault : Fault) :
      files.isThere path = true → files.read path = .error fault →
      FromFile files path .builtin (some (LoadError.unreadableMappings path fault).message)
  | malformed (text : String) (e : Mapping.Error) :
      files.isThere path = true → files.read path = .ok text →
      Mapping.read text.toList = .error e →
      FromFile files path .builtin (some (LoadError.malformedMappings path e).message)
  | refused (text : String) (set : MappingSet) (e : TableError) :
      files.isThere path = true → files.read path = .ok text →
      Mapping.read text.toList = .ok set → build set = .error e →
      FromFile files path .builtin (some (Startup.tableProblem e))

variable {describe : String → String} {files : FileTree} {path : String}

namespace Startup

section

variable {set : MappingSet} {t : Table}

end

theorem load_eq (l : Locations) (describe : String → String) (files : FileTree) :
    (load l describe files).settings = (loadSettings describe files l.settings).1 ∧
      (load l describe files).table =
        (loadTable files (l.mappingsOf (load l describe files).settings)).1 ∧
      (load l describe files).problems = (loadSettings describe files l.settings).2.1 ++
        (loadTable files (l.mappingsOf (load l describe files).settings)).2.1 := by
  rw [load]
  obtain ⟨settings, problems, log⟩ := loadSettings describe files l.settings
  dsimp only
  generalize loadTable files (l.mappingsOf settings) = a
  exact ⟨rfl, rfl, rfl⟩

end Startup

end InlineRemote
