import InlineRemote.Shell.Session

/-! # Paths that fit a pattern

A pattern for paths is cut at its slashes; each part fits names in one directory.  A name that starts
with a point only fits a part that starts with one. -/
namespace InlineRemote.Shell

namespace Glob

def isPattern (style : PatternStyle) : List Letter → Bool
  | [] => false
  | (c, quoted) :: f =>
    let grouped : Bool := style.groups && ['+', '@', '!'].contains c && f.head? = some ('(', false)
    (!quoted && (['*', '?', '['].contains c || grouped)) || isPattern style f

def text (f : List Letter) : String :=
  String.ofList (f.map Prod.fst)

def names (s : Session) (p : Place) (part : List Letter) : List String :=
  let pointed : Bool := part.head?.map Prod.fst = some '.'
  let style := { s.style with foldCase := s.extended && s.feature? "nocaseglob" }
  let there := (if s.extended then [] else [".", ".."]) ++ s.disk.list p
  there.filter fun n =>
    fits style part n.toList &&
      (n.toList.head? ≠ some '.' || pointed || (s.extended && s.feature? "dotglob"))

def below (s : Session) (path : String) (p : Place) : Nat → List (String × Place)
  | 0 => [(path, p)]
  | n + 1 =>
    let inner := (s.disk.list p).filter fun x =>
      x.toList.head? ≠ some '.' && s.disk.isDirectory (p ++ [x])
    (path, p) :: inner.flatMap fun x => below s (path ++ x ++ "/") (p ++ [x]) n

/-- The paths that fit the parts of a pattern, below the text of a path. -/
def paths (s : Session) : String → List (List Letter) → List String
  | path, [] => [path]
  | path, part :: parts =>
    match s.disk.find true s.directory (if path = "" then "." else path) with
    | .error _ => []
    | .ok (p, _) =>
      let slash := if parts.isEmpty then "" else "/"
      let deep : Bool := s.feature? "globstar" && part = [('*', false), ('*', false)]
      if deep then
        let there := below s path p 20
        if parts.isEmpty then
          there.flatMap fun (path, p) => (names s p part).map (path ++ ·)
        else there.flatMap fun (path, _) => paths s path parts
      else if isPattern s.style part then
        (names s p part).flatMap fun n => paths s (path ++ n ++ slash) parts
      else
        let next := path ++ text part ++ slash
        match s.disk.site (!parts.isEmpty) s.directory next with
        | .ok ⟨_, some _⟩ => paths s next parts
        | _ => []
  termination_by _ parts => parts.length

/-- The texts of a field: the paths that fit if it is a pattern that some path fits.  What becomes of
another pattern is up to the options; `none` for a mistake. -/
def expand? (s : Session) (f : List Letter) : Option (List String) :=
  if !isPattern s.style f || s.has 'f' then some [text f]
  else
    match paths s "" (f.splitOnP (·.1 = '/')) with
    | [] =>
      if s.feature? "failglob" then none
      else if s.feature? "nullglob" then some []
      else some [text f]
    | found => some (found.mergeSort (· ≤ ·))

end Glob

end InlineRemote.Shell
