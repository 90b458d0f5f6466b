import InlineRemote.Files.Path

/-! # Where the files are

Everything lies in one directory below the user's configuration directory.  That one is named by an
absolute path in the environment, and otherwise stands in the home directory. -/
namespace InlineRemote

/-- The directory of the daemon and the files in it. -/
structure Locations where
  directory : String
  settings : String
  mappings : String
  status : String
  deriving DecidableEq, Repr

namespace Locations

def within (directory : String) : Locations :=
  ⟨directory, Path.joinText directory "config.toml", Path.joinText directory "mappings.ekmap",
    Path.joinText directory "status.toml"⟩

def userDirectory (config : Option String) (home : String) : String :=
  match config.filter fun c => Path.isAbsolute c.toList with
  | some dir => dir
  | none => Path.joinText home ".config"

def ofUser (config : Option String) (home : String) : Locations :=
  within (Path.joinText (userDirectory config home) "earkey")

end Locations

end InlineRemote
