import InlineRemote.Shell.Utility.Files

/-! # Programs that copy and move files

A source goes to a target, or into a directory under its own name.  Directories are copied with all
that is in them; what is moved or linked stays the same node. -/
namespace InlineRemote.Shell

namespace Utility

/-- How files are copied. -/
structure Copying where
  deep : Bool
  keeps : Bool
  force : Bool
  spares : Bool
  newer : Bool
  verbose : Bool
  links : Bool

/-- Copies what a path leads to, to another path; directories nest at most so deep. -/
def copyTo (c : Call) (k : Copying) : Nat → Bool → String → String → Act Bool
  | 0, _, _, _ => return false
  | n + 1, follow, source, target => do
    let s ← get
    match s.disk.find follow s.directory source with
    | .error fault => cannot c "stat" source fault
    | .ok (p, i, node) =>
      let there := s.node? true target
      if k.spares && there.isSome then return true
      if k.newer && there.any fun e => node.time ≤ e.2.time then return true
      match node.matter with
      | .directory =>
        if !k.deep then
          c.complain ("-r not specified; omitting directory '" ++ source ++ "'")
          return false
        let q? := (s.disk.site true s.directory target).toOption.map Site.place
        if q?.any fun q => p.isPrefixOf q && p ≠ q then
          c.complain ("cannot copy a directory, '" ++ source ++ "', into itself, '" ++ target ++ "'")
          return false
        match there with
        | some (_, x) =>
          if x.matter ≠ .directory then
            c.complain ("cannot overwrite non-directory '" ++ target ++ "' with directory '" ++
              source ++ "'")
            return false
        | none =>
          match ← make target .directory (if k.keeps then node.mode else Act.rights node.mode s.mask) with
          | .ok () => pure ()
          | .error fault => return ← cannot c "create directory" target fault
        let mut fine := true
        for name in s.disk.list p do
          if !(← copyTo c k n false (inside source name) (inside target name)) then fine := false
        return fine
      | .link t =>
        onDisk fun d => match d.site false s.directory target with
          | .ok ⟨q, _⟩ => (d.unlink q)
          | .error _ => d
        match ← make target (.link t) 511 with
        | .ok () => return true
        | .error fault => cannot c "create symbolic link" target fault
      | matter =>
        match there with
        | some (j, x) =>
          if i = j then
            c.complain ("'" ++ source ++ "' and '" ++ target ++ "' are the same file")
            return false
          if x.matter = .directory then
            c.complain ("cannot overwrite directory '" ++ target ++ "' with non-directory")
            return false
        | none => pure ()
        if k.links then
          match s.disk.site false s.directory target with
          | .ok ⟨q, none⟩ => onDisk (·.link q i); return true
          | .ok ⟨_, some _⟩ => return ← cannot c "create hard link" target .alreadyExists
          | .error fault => return ← cannot c "create hard link" target fault
        let text ← match matter with
          | .device _ | .pipe _ =>
            match ← Act.readPath source with
            | .ok t => pure (String.ofList t)
            | .error _ => pure ""
          | _ => pure (s.content i)
        match ← Act.writePath (.output true) target text with
        | .error fault => cannot c "create regular file" target fault
        | .ok () =>
          let mode := if k.keeps then node.mode else Act.rights node.mode s.mask
          match (← get).node? true target with
          | some (j, _) =>
            let isFile : Bool := match matter with
              | .file _ | .program _ => true
              | _ => false
            let change (x : Node) : Node :=
              { x with
                mode := if there.isNone && isFile || k.keeps then mode else x.mode
                matter := match matter, x.matter with
                  | .program name, .file _ => .program name
                  | _, m => m
                time := if k.keeps then node.time else x.time }
            onDisk (·.change j change)
          | none => pure ()
          if k.verbose then Act.print ("'" ++ source ++ "' -> '" ++ target ++ "'\n")
          return true

/-- The sources and the targets of copies, each source to its own target. -/
def targets (c : Call) (os : List Given) (ws : List String) :
    Act (Option (List (String × String))) := do
  let within (directory : String) (ws : List String) : List (String × String) :=
    ws.map fun w => (w, inside directory (baseName w))
  match argumentOf? os 't', ws with
  | some directory, _ =>
    if !(← isDirectory directory) then
      c.complain ("target directory '" ++ directory ++ "': No such file or directory")
      return none
    return some (within directory ws)
  | none, [] =>
    c.complain "missing file operand"
    Act.complain ("Try '" ++ c.called ++ " --help' for more information.")
    return none
  | none, [w] =>
    c.complain ("missing destination file operand after '" ++ w ++ "'")
    Act.complain ("Try '" ++ c.called ++ " --help' for more information.")
    return none
  | none, ws =>
    let target := ws.getLast?.getD ""
    let sources := ws.dropLast
    if !hasOption os 'T' && (← isDirectory target) then return some (within target sources)
    else
      match sources with
      | [source] =>
        let slashed : Bool := target.toList.getLast? = some '/'
        let directory ← isDirectory source
        if slashed && !directory then
          let s ← get
          let there : Bool := (s.node? true (directoryName target)).isSome
          let fault : Fault := if there then .notDirectory else .notFound
          c.complain ("cannot create regular file '" ++ target ++ "': " ++ Fault.words fault)
          return none
        return some [(source, target)]
      | _ =>
        let there := ((← get).node? true target).isSome
        let fault : Fault := if there then .notDirectory else .notFound
        c.complain ("target '" ++ target ++ "': " ++ Fault.words fault)
        return none

def copyNames : List (String × Char × Bool) :=
  [("recursive", 'r', false), ("archive", 'a', false), ("force", 'f', false),
    ("no-clobber", 'n', false), ("update", 'u', false), ("verbose", 'v', false),
    ("target-directory", 't', true), ("no-target-directory", 'T', false),
    ("preserve", 'p', false), ("link", 'l', false), ("symbolic-link", 's', false),
    ("interactive", 'i', false), ("dereference", 'L', false), ("no-dereference", 'P', false)]

def copy (c : Call) : Act Nat := do
  c.withOptions { letters := "rRafinupvt:TlsLPdH", names := copyNames } 1 fun os ws => do
    match ← targets c os ws with
    | none => return 1
    | some pairs =>
      let has (cs : List Char) : Bool := cs.any (hasOption os)
      let k : Copying :=
        { deep := has ['r', 'R', 'a'], keeps := has ['a', 'p'], force := has ['f']
          spares := has ['n'], newer := has ['u'], verbose := has ['v'], links := has ['l'] }
      let follow : Bool := !(has ['a', 'd', 'P']) && !(k.deep && !has ['L'])
      let mut status := 0
      for (source, target) in pairs do
        if !(← copyTo c k 40 follow source target) then status := 1
      return status

/-- Moves files. -/
def move (c : Call) : Act Nat := do
  c.withOptions { letters := "finuvt:T", names := copyNames } 1 fun os ws => do
    match ← targets c os ws with
    | none => return 1
    | some pairs =>
      let one (source target : String) : Act Bool := do
        let s ← get
        match s.disk.find false s.directory source, s.disk.site false s.directory
            (String.ofList (target.toList.reverse.dropWhile (· = '/')).reverse) with
        | .error fault, _ => cannot c "stat" source fault
        | .ok (_, _, _), .error fault =>
          c.complain ("cannot move '" ++ source ++ "' to '" ++ target ++ "': " ++ Fault.words fault)
          return false
        | .ok (p, i, node), .ok ⟨q, j?⟩ =>
          let old? := j?.bind s.disk.node?
          if hasOption os 'n' && j?.isSome then return true
          if hasOption os 'u' && old?.any (node.time ≤ ·.time) then return true
          let directory : Bool := node.matter = .directory
          let wrong (text : String) : Act Bool := do c.complain text; return false
          if j? = some i then
            wrong ("'" ++ source ++ "' and '" ++ target ++ "' are the same file")
          else if directory && p.isPrefixOf q then
            wrong ("cannot move '" ++ source ++ "' to a subdirectory of itself, '" ++ target ++ "'")
          else if directory && old?.any (·.matter ≠ .directory) then
            wrong ("cannot overwrite non-directory '" ++ target ++ "' with directory '" ++ source ++
              "'")
          else if !directory && old?.any (·.matter = .directory) then
            wrong ("cannot overwrite directory '" ++ target ++ "' with non-directory '" ++ source ++
              "'")
          else if directory && old?.isSome && s.disk.list q ≠ [] then
            wrong ("cannot move '" ++ source ++ "' to '" ++ target ++ "': Directory not empty")
          else
            onDisk fun d => (d.unlink q).move p q
            if hasOption os 'v' then
              Act.print ("renamed '" ++ source ++ "' -> '" ++ target ++ "'\n")
            return true
      let mut status := 0
      for (source, target) in pairs do
        if !(← one source target) then status := 1
      return status

/-- Makes links. -/
def link (c : Call) : Act Nat := do
  let names := [("symbolic", 's', false), ("force", 'f', false), ("verbose", 'v', false),
    ("no-dereference", 'n', false), ("no-target-directory", 'T', false),
    ("target-directory", 't', true), ("relative", 'r', false)]
  c.withOptions { letters := "sfnvTt:rLPi", names } 1 fun os ws => do
    let symbolic := hasOption os 's'
    let pairs? : Option (List (String × String)) ← match ws, argumentOf? os 't' with
      | [w], none => pure (some [(w, inside "." (baseName w))])
      | [w, target], none => do
        let s ← get
        let isLink : Bool := matterOf? s false target ≠ some Matter.directory
        let within : Bool := !hasOption os 'T' && !(hasOption os 'n' && isLink)
        if within && (← isDirectory target) then pure (some [(w, inside target (baseName w))])
        else pure (some [(w, target)])
      | _, _ => targets c os ws
    match pairs? with
    | none => return 1
    | some pairs =>
      let one (source target : String) : Act Bool := do
        let s ← get
        let kind := if symbolic then "symbolic" else "hard"
        if !symbolic then
          match s.disk.find false s.directory source with
          | .error fault =>
            c.complain ("failed to access '" ++ source ++ "': " ++ Fault.words fault)
            return false
          | .ok (_, _, node) =>
            if node.matter = .directory then
              c.complain (source ++ ": hard link not allowed for directory")
              return false
        if hasOption os 'f' then
          match s.disk.find false s.directory target with
          | .ok (q, _, node) => if node.matter ≠ .directory then onDisk (·.unlink q)
          | .error _ => pure ()
        let failed (fault : Fault) : Act Bool := do
          c.complain ("failed to create " ++ kind ++ " link '" ++ target ++ "': " ++
            Fault.words fault)
          return false
        if symbolic then
          match ← make target (.link source) 511 with
          | .ok () => return true
          | .error fault => failed fault
        else
          match s.disk.find false s.directory source, (← get).disk.site false s.directory target with
          | .ok (_, i, _), .ok ⟨q, none⟩ => onDisk (·.link q i); return true
          | _, .ok ⟨_, some _⟩ => failed .alreadyExists
          | _, .error fault => failed fault
          | .error fault, _ => failed fault
      let mut status := 0
      for (source, target) in pairs do
        if !(← one source target) then status := 1
      return status

/-- Copies files to where they belong, or makes directories. -/
def install (c : Call) : Act Nat := do
  c.withOptions { letters := "dDm:o:g:t:Tvpsbc", names := [("directory", 'd', false),
    ("mode", 'm', true)] } 1 fun os ws => do
    let mode := ((argumentOf? os 'm').bind (Rights.read? false 0 0)).getD 493
    if hasOption os 'd' then
      forEach ws fun w => do
        for step in waysTo w do
          let _ ← make step .directory mode
        isDirectory w
    else
      if hasOption os 'D' then
        for step in (waysTo (ws.getLast?.getD "")).dropLast do
          let _ ← make step .directory 493
      match ← targets c os ws with
      | none => return 1
      | some pairs =>
        let k : Copying := ⟨false, false, true, false, false, false, false⟩
        let mut status := 0
        for (source, target) in pairs do
          if ← copyTo c k 2 true source target then
            match (← get).node? true target with
            | some (i, _) => onDisk (·.change i ({ · with mode }))
            | none => pure ()
          else status := 1
        return status

end Utility

end InlineRemote.Shell
