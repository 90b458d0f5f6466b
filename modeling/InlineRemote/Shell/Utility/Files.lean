import InlineRemote.Shell.Calendar
import InlineRemote.Shell.Rights
import InlineRemote.Shell.Test.Counted
import InlineRemote.Shell.Utility.Lines
import InlineRemote.Shell.Utility.Values

/-! # Programs that change the disk

Files, directories and links are made, copied, moved, removed and marked with rights and times. -/
namespace InlineRemote.Shell

namespace Utility

def forEach (ws : List String) (f : String → Act Bool) : Act Nat := do
  let mut status := 0
  for w in ws do
    if !(← f w) then status := 1
  return status

def cannot (c : Call) (what path : String) (fault : Fault) : Act Bool := do
  c.complain ("cannot " ++ what ++ " '" ++ path ++ "': " ++ Fault.words fault)
  return false

def matterOf? (s : Session) (follow : Bool) (path : String) : Option Matter :=
  (s.node? follow path).map fun e => e.2.matter

def onDisk (f : Disk → Disk) : Act Unit :=
  modify fun s => { s with disk := f s.disk }

def make (path : String) (matter : Matter) (mode : Nat) : Act (Except Fault Unit) := do
  let s ← get
  let path := match matter with
    | .directory => String.ofList (path.toList.reverse.dropWhile (· = '/')).reverse
    | _ => path
  match s.disk.site false s.directory (if path = "" then "/" else path) with
  | .error fault => return .error fault
  | .ok ⟨_, some _⟩ => return .error .alreadyExists
  | .ok ⟨p, none⟩ =>
    if path.toList.getLast? = some '/' then return .error .notFound
    onDisk fun d => (d.create p { matter, mode, time := s.time }).2
    return .ok ()

def waysTo (path : String) : List String :=
  let cs := path.toList
  let cuts := (List.range cs.length).filter fun k => 0 < k && cs[k]? = some '/' && cs[k - 1]? ≠ some '/'
  (cuts.map fun k => String.ofList (cs.take k)) ++ [path]

/-- Makes directories. -/
def makeDirectories (c : Call) : Act Nat := do
  let names := [("parents", 'p', false), ("mode", 'm', true), ("verbose", 'v', false)]
  c.withOptions { letters := "pm:v", names } 1 fun os ws => do
    if ws = [] then return ← c.lacksOperand 1
    let mask := (← get).mask
    let usual := Act.rights 511 mask
    let mode? := match argumentOf? os 'm' with
      | none => some usual
      | some text => Rights.read? true mask 511 text
    match mode? with
    | none => c.fail ("invalid mode '" ++ (argumentOf? os 'm').getD "" ++ "'") 1
    | some mode =>
      let said (w : String) : Act Unit := do
        if hasOption os 'v' then Act.print (c.called ++ ": created directory '" ++ w ++ "'\n")
      forEach ws fun w => do
        if hasOption os 'p' then
          let mut fine := true
          for step in waysTo w do
            if fine then
              match ← make step .directory (if step = w then mode else usual) with
              | .ok () => said step
              | .error .alreadyExists =>
                match matterOf? (← get) true step with
                | some .directory => pure ()
                | _ =>
                  fine ← cannot c "create directory" step
                    (if step = w then .alreadyExists else .notDirectory)
              | .error fault => fine ← cannot c "create directory" step fault
          return fine
        else
          match ← make w .directory mode with
          | .ok () => said w; return true
          | .error fault => cannot c "create directory" w fault

/-- Removes empty directories. -/
def removeDirectories (c : Call) : Act Nat := do
  let names := [("parents", 'p', false), ("verbose", 'v', false),
    ("ignore-fail-on-non-empty", 'i', false)]
  c.withOptions { letters := "pv", names } 1 fun os ws => do
    if ws = [] then return ← c.lacksOperand 1
    let one (w : String) : Act Bool := do
      let s ← get
      let failed (fault : Fault) : Act Bool := do
        c.complain ("failed to remove '" ++ w ++ "': " ++ Fault.words fault)
        return false
      match s.disk.find false s.directory w with
      | .error fault => failed fault
      | .ok (p, _, node) =>
        if node.matter ≠ .directory then failed .notDirectory
        else if s.disk.list p ≠ [] then if hasOption os 'i' then return true else failed .notEmpty
        else
          onDisk (·.unlink p)
          return true
    forEach ws fun w => do
      if !(← one w) then return false
      if !hasOption os 'p' then return true
      let mut fine := true
      for step in ((waysTo w).dropLast).reverse do
        if fine then fine ← one step
      return fine

/-- Removes files, and directories if wanted. -/
def remove (c : Call) : Act Nat := do
  let names := [("recursive", 'r', false), ("force", 'f', false), ("verbose", 'v', false),
    ("dir", 'd', false), ("interactive", 'I', false)]
  c.withOptions { letters := "rRfiIdv", names } 1 fun os ws => do
    let force := hasOption os 'f'
    if ws = [] then
      if force then return 0 else return ← c.lacksOperand 1
    let deep : Bool := hasOption os 'r' || hasOption os 'R'
    forEach ws fun w => do
      let s ← get
      match s.disk.find false s.directory w with
      | .error .notFound => if force then return true else cannot c "remove" w .notFound
      | .error .notDirectory => if force then return true else cannot c "remove" w .notDirectory
      | .error fault => cannot c "remove" w fault
      | .ok (p, _, node) =>
        let name := (FileTree.names w).filter (· ≠ "")
        let said : Act Unit := do
          if hasOption os 'v' then Act.print ("removed '" ++ w ++ "'\n")
        if node.matter = .directory then
          if deep || hasOption os 'd' then
            if p = [] then
              c.complain "it is dangerous to operate recursively on '/'"
              c.complain "use --no-preserve-root to override this failsafe"
              return false
            else if name.getLast? = some "." ∨ name.getLast? = some ".." then
              c.complain ("refusing to remove '.' or '..' directory: skipping '" ++ w ++ "'")
              return false
            else if !deep ∧ s.disk.list p ≠ [] then cannot c "remove" w .notEmpty
            else
              onDisk (·.prune p)
              said
              return true
          else cannot c "remove" w .isDirectory
        else
          onDisk (·.unlink p)
          said
          return true

def inside (directory name : String) : String :=
  Path.joinText directory name

def isDirectory (path : String) : Act Bool := do
  return matterOf? (← get) true path = some .directory

/-- Sets the times of files, which are made if they are not there. -/
def touch (c : Call) : Act Nat := do
  let names := [("no-create", 'c', false), ("date", 'd', true), ("reference", 'r', true),
    ("time", 'T', true), ("no-dereference", 'h', false)]
  c.withOptions { letters := "acmd:r:t:hf", names } 1 fun os ws => do
    if ws = [] then
      c.complain "missing file operand"
      return 1
    let s ← get
    let stamp? (w : String) : Option Int :=
      let ds := (w.toList.takeWhile (· ≠ '.'))
      let seconds := Text.ofDigits 10 ((w.toList.drop ds.length).drop 1)
      let two (k : Nat) : Nat := Text.ofDigits 10 ((ds.drop k).take 2)
      if !ds.all Char.isDigit then none
      else
        let year := (Moment.ofSeconds (s.time / 1000000 : Nat)).year
        let (y, r) : Int × Nat :=
          if ds.length = 12 then (Text.ofDigits 10 (ds.take 4), 4)
          else if ds.length = 10 then (2000 + two 0, 2) else (year, 0)
        if ds.length < 8 then none
        else
          some (Moment.days y (two r) (two (r + 2)) * 86400 + (two (r + 4) * 3600 + two (r + 6) * 60 +
            seconds : Nat))
    let time? : Except String Nat :=
      match argumentOf? os 't', argumentOf? os 'd', argumentOf? os 'r' with
      | some w, _, _ =>
        match stamp? w with
        | some n => .ok (1000000 * n).toNat
        | none => .error ("invalid date format '" ++ w ++ "'")
      | none, some w, _ =>
        match Date.read? (s.time / 1000000 : Nat) w with
        | some n => .ok (1000000 * n).toNat
        | none => .error ("invalid date format '" ++ w ++ "'")
      | none, none, some w =>
        match s.node? true w with
        | some (_, x) => .ok x.time
        | none => .error ("failed to get attributes of '" ++ w ++ "': No such file or directory")
      | none, none, none => .ok s.time
    match time? with
    | .error e => c.fail e 1
    | .ok time =>
      forEach ws fun w => do
        if w = "-" then return true
        let s ← get
        match s.disk.site true s.directory w with
        | .error fault =>
          c.complain ("cannot touch '" ++ w ++ "': " ++ Fault.words fault)
          return false
        | .ok ⟨_, some i⟩ => onDisk (·.change i ({ · with time })); return true
        | .ok ⟨p, none⟩ =>
          if hasOption os 'c' then return true
          if w.toList.getLast? = some '/' then return ← cannot c "touch" w .notFound
          onDisk fun d => (d.create p { matter := .file "", mode := Act.rights 438 s.mask, time }).2
          return true

def placesBelow (d : Disk) (p : Place) : List Place :=
  (d.names.map Prod.fst).filter p.isPrefixOf

/-- Changes the rights on files. -/
def changeRights (c : Call) : Act Nat := do
  -- A word such as `-x` takes rights away and is no option.
  let isMode (w : String) : Bool :=
    match w.toList with
    | '-' :: d :: ds => (d :: ds).all ['r', 'w', 'x', 'X', 's', 't', ',', '+', '-', '='].contains
    | _ => false
  let taken := c.words.find? isMode
  let names := [("recursive", 'R', false), ("verbose", 'v', false), ("quiet", 'f', false),
    ("reference", 'e', true), ("changes", 'c', false)]
  let c := { c with words := c.words.filter (!isMode ·) }
  c.withOptions { letters := "Rvfc", names } 1 fun os ws => do
    let ws := taken.toList ++ ws
    match argumentOf? os 'e', ws with
    | none, [] => c.lacksOperand 1
    | none, [w] =>
      c.complain ("missing operand after '" ++ w ++ "'")
      return 1
    | reference, _ =>
      let s ← get
      let text := match reference.bind (s.node? true) with
        | some (_, x) => octalText 4 x.mode
        | none => ws.head?.getD ""
      let files := if reference.isSome then ws else ws.drop 1
      if (Rights.read? false 0 0 text).isNone then
        return ← c.fail ("invalid mode: '" ++ text ++ "'") 1
      forEach files fun w => do
        let s ← get
        match s.disk.find true s.directory w with
        | .error fault =>
          if !hasOption os 'f' then
            let _ ← cannot c "access" w fault
          return false
        | .ok (p, i, _) =>
          let nodes :=
            if hasOption os 'R' then (placesBelow s.disk p).filterMap s.disk.at? else [i]
          for j in nodes do
            onDisk fun d => d.change j fun x =>
              let directory : Bool := x.matter = .directory
              { x with mode := (Rights.read? directory s.mask x.mode text).getD x.mode }
          return true

/-- Changes the owners of files; here all files stay with their owner. -/
def changeOwner (c : Call) : Act Nat := do
  c.withOptions { letters := "RvfcHLPh", names := [("recursive", 'R', false)] } 1 fun _ ws => do
    match ws with
    | [] => c.lacksOperand 1
    | [w] => c.fail ("missing operand after '" ++ w ++ "'") 1
    | owner :: files =>
      let names := (owner.toList.splitOnP fun x => x = ':' || x = '.').map String.ofList
      let known (x : String) : Bool :=
        x = "" || (Expr.integer? x).isSome ||
          ["root", "daemon", "bin", "sys", "nobody", "nogroup", "tty", "adm"].contains x
      match names.find? (!known ·) with
      | some x =>
        let kind := if c.name = "chgrp" then "group" else "user"
        c.fail ("invalid " ++ kind ++ ": '" ++ x ++ "'") 1
      | none =>
        forEach files fun w => do
          let s ← get
          match s.disk.find true s.directory w with
          | .error fault => cannot c "access" w fault
          | .ok _ => return true

/-- Makes a file or a directory with a name that is not used yet. -/
def makeTemporary (c : Call) : Act Nat := do
  let names := [("directory", 'd', false), ("dry-run", 'u', false), ("quiet", 'q', false),
    ("tmpdir", 'p', true), ("suffix", 's', true)]
  c.withOptions { letters := "duqp:t", names } 1 fun os ws => do
    let s ← get
    if ws[1]?.isSome then return ← c.fail "too many templates" 1
    let template := (ws.head?.getD "tmp.XXXXXXXXXX") ++ (argumentOf? os 's').getD ""
    let ending := (template.toList.reverse.dropWhile (· ≠ 'X'))
    let after := template.length - ending.length
    let marks := (ending.takeWhile (· = 'X')).length
    if marks < 3 then
      return ← c.fail ("too few X's in template '" ++ template ++ "'") 1
    let letters := "abcdefghijklmnopqrstuvwxyzABCDEFGHIJKLMNOPQRSTUVWXYZ0123456789".toList
    let random := (List.range marks).map fun k =>
      letters[((s.disk.free + 7919 * (k + 1)) * (s.time / 1000 + 104729 + k * k) / (k + 3)) % 62]?.getD 'a'
    let chosen := (ending.dropWhile (· = 'X')).reverse ++ random ++
      template.toList.drop (template.length - after)
    let name := String.ofList chosen
    let temporary := ((s.value? "TMPDIR").filter (· ≠ "")).getD "/tmp"
    let path :=
      match argumentOf? os 'p' with
      | some d => inside (if d = "" then temporary else d) name
      | none => if ws = [] ∨ hasOption os 't' then inside temporary name else name
    let directory := hasOption os 'd'
    let done ←
      if hasOption os 'u' then pure (.ok ())
      else make path (if directory then .directory else .file "") (if directory then 448 else 384)
    match done with
    | .ok () => c.print (path ++ "\n") 0
    | .error fault =>
      if hasOption os 'q' then return 1
      let kind := if directory then "directory" else "file"
      c.fail ("failed to create " ++ kind ++ " via template '" ++
        (if (argumentOf? os 'p').isSome || ws = [] then inside (directoryName path) template
          else template) ++ "': " ++ Fault.words fault) 1

/-- The place that a path leads to; the names at its end may be missing as far as allowed. -/
def canonical? (s : Session) (missing : Nat) (path : String) : Except Fault Place :=
  match s.disk.site true s.directory path with
  | .ok ⟨p, some _⟩ => .ok p
  | .ok ⟨p, none⟩ => if missing = 0 then .error .notFound else .ok p
  | .error fault =>
    if missing < 2 then .error fault
    else
      let cs := FileTree.names path
      let start : Place := if path.toList.head? = some '/' then [] else s.directory
      .ok (cs.foldl (fun p n =>
        if n = "" ∨ n = "." then p else if n = ".." then p.dropLast else p ++ [n]) start)

def readLink (c : Call) : Act Nat := do
  let names := [("canonicalize", 'f', false), ("canonicalize-existing", 'e', false),
    ("canonicalize-missing", 'm', false), ("no-newline", 'n', false), ("zero", 'z', false)]
  c.withOptions { letters := "femnqsvz", names } 1 fun os ws => do
    if ws = [] then return ← c.lacksOperand 1
    let s ← get
    let full : Bool := ['f', 'e', 'm'].any (hasOption os)
    let finish := if hasOption os 'n' && ws.length = 1 then "" else "\n"
    let missing := if hasOption os 'm' then 2 else if hasOption os 'e' then 0 else 1
    forEach ws fun w => do
      if full then
        match canonical? s missing w with
        | .ok p => Act.print (pathOf p ++ finish); return true
        | .error _ => return false
      else
        match matterOf? s false w with
        | some (.link t) => Act.print (t ++ finish); return true
        | _ => return false

/-- Shows the full paths of files. -/
def realPath (c : Call) : Act Nat := do
  let names := [("canonicalize-existing", 'e', false), ("canonicalize-missing", 'm', false),
    ("relative-to", 'r', true), ("no-symlinks", 's', false), ("strip", 's', false),
    ("zero", 'z', false), ("quiet", 'q', false), ("relative-base", 'B', true)]
  c.withOptions { letters := "emsqzLP", names } 1 fun os ws => do
    if ws = [] then return ← c.lacksOperand 1
    let s ← get
    let missing := if hasOption os 'm' then 2 else if hasOption os 'e' then 0 else 1
    let base? := (argumentOf? os 'r').bind fun b => (canonical? s 2 b).toOption
    forEach ws fun w => do
      match canonical? s missing w with
      | .error fault =>
        if !hasOption os 'q' then c.complain (w ++ ": " ++ Fault.words fault)
        return false
      | .ok p =>
        let text := match base? with
          | none => pathOf p
          | some b =>
            let same := ((p.zip b).takeWhile fun (x, y) => x = y).length
            let up := List.replicate (b.length - same) ".."
            let way := up ++ p.drop same
            if way = [] then "." else "/".intercalate way
        Act.print (text ++ "\n")
        return true

/-- Sets the sizes of files. -/
def truncate (c : Call) : Act Nat := do
  let names := [("size", 's', true), ("no-create", 'c', false), ("reference", 'r', true)]
  c.withOptions { letters := "s:cr:o", names } 1 fun os ws => do
    match argumentOf? os 's' with
    | none => c.fail "you must specify either '--size' or '--reference'" 1
    | some w =>
      let (sign, digits) : Char × String := match w.toList with
        | '+' :: ds => ('+', String.ofList ds)
        | '-' :: ds => ('-', String.ofList ds)
        | _ => ('=', w)
      match sized? digits with
      | none => c.fail ("Invalid number: '" ++ w ++ "'") 1
      | some n =>
        if ws = [] then return ← c.lacksOperand 1
        forEach ws fun file => do
          if hasOption os 'c' && ((← get).node? true file).isNone then return true
          match ← Act.openPath .append file with
          | .error fault =>
            c.complain ("cannot open '" ++ file ++ "' for writing: " ++ Fault.words fault)
            return false
          | .ok _ =>
            let s ← get
            match s.node? true file with
            | none => return false
            | some (i, _) =>
              let t := (s.content i).toList
              let size := if sign = '+' then t.length + n else if sign = '-' then t.length - n else n
              let new := t.take size ++ List.replicate (size - t.length) '\x00'
              onDisk (·.change i fun x => { x with matter := .file (String.ofList new) })
              return true

/-- Copies a part of a file. -/
def copyPart (c : Call) : Act Nat := do
  let pairs := c.words.map fun w =>
    (String.ofList (w.toList.takeWhile (· ≠ '=')),
      String.ofList ((w.toList.dropWhile (· ≠ '=')).drop 1))
  let known := ["if", "of", "bs", "ibs", "obs", "count", "skip", "seek", "conv", "status", "iflag",
    "oflag", "cbs"]
  match c.words.zip pairs |>.find? fun e => !known.contains e.2.1 || !e.1.toList.contains '=' with
  | some (w, _) => c.fail ("unrecognized operand '" ++ w ++ "'") 1
  | none =>
    let numbers := ["bs", "ibs", "obs", "count", "skip", "seek"]
    let isWrong (e : String × String) : Bool :=
      numbers.contains e.1 && ((sized? e.2).isNone || (e.1.endsWith "bs" && sized? e.2 = some 0))
    if let some (_, v) := pairs.find? isWrong then
      return ← c.fail ("invalid number: '" ++ v ++ "'") 1
    let number (key : String) (usual : Nat) : Nat := ((pairs.lookup key).bind sized?).getD usual
    let size := number "bs" (number "ibs" 512)
    let flags := ((pairs.lookup "conv").getD "").splitOn ","
    let text? ← Call.input ((pairs.lookup "if").getD "-")
    match text? with
    | .error fault =>
      c.fail ("failed to open '" ++ (pairs.lookup "if").getD "" ++ "': " ++ Fault.words fault) 1
    | .ok t =>
      let t := t.drop (number "skip" 0 * size)
      let wanted? := (pairs.lookup "count").bind sized?
      let t := match wanted? with
        | some n =>
          let endless : Bool := (pairs.lookup "if") = some "/dev/zero"
          t.take (n * size) ++ if endless then List.replicate (n * size - t.length) '\x00' else []
        | none => t
      let t := if flags.contains "ucase" then t.map Char.toUpper
        else if flags.contains "lcase" then t.map Char.toLower else t
      let text := String.ofList t
      let done : Except Fault Unit ← match pairs.lookup "of" with
        | none => do
          let fine ← Act.writeTo 1 text
          pure (if fine then .ok () else .error .notFound)
        | some file => do
          let start := number "seek" 0 * number "bs" (number "obs" 512)
          let s ← get
          let old := match s.node? true file with
            | some (i, _) => s.content i
            | none => ""
          if flags.contains "notrunc" || start ≠ 0 then
            let base := if flags.contains "notrunc" then old
              else String.ofList (old.toList.take start)
            Act.writePath (.output true) file (Act.overlaid base start text)
          else Act.writePath (.output true) file text
      if (pairs.lookup "status") ≠ some "none" then
        let full := toString (t.length / size) ++ "+" ++ if t.length % size = 0 then "0" else "1"
        Act.complain (full ++ " records in\n" ++ full ++ " records out")
      match done with
      | .ok () => return 0
      | .error fault =>
        c.fail ("failed to open '" ++ (pairs.lookup "of").getD "" ++ "': " ++ Fault.words fault) 1

def makePipes (c : Call) : Act Nat := do
  c.withOptions { letters := "m:Z", names := [("mode", 'm', true)] } 1 fun os ws => do
    if ws = [] then return ← c.lacksOperand 1
    let mask := (← get).mask
    let mode := ((argumentOf? os 'm').bind (Rights.read? false mask 438)).getD (Act.rights 438 mask)
    forEach ws fun w => do
      match ← make w (.pipe "") mode with
      | .ok () => return true
      | .error fault =>
        c.complain ("cannot create fifo '" ++ w ++ "': " ++ Fault.words fault)
        return false

def unlinkOne (c : Call) : Act Nat := do
  match c.words with
  | [] => c.lacksOperand 1
  | w :: _ =>
    let s ← get
    match s.disk.find false s.directory w with
    | .error fault => c.fail ("cannot unlink '" ++ w ++ "': " ++ Fault.words fault) 1
    | .ok (p, _, x) =>
      if x.matter = .directory then
        c.fail ("cannot unlink '" ++ w ++ "': Is a directory") 1
      else
        onDisk (·.unlink p)
        return 0

end Utility

end InlineRemote.Shell
