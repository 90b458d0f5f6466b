import InlineRemote.Shell.Digest
import InlineRemote.Shell.Utility.Call
import InlineRemote.Text.Strip

/-! # Programs that sum data up

The digests of files are shown line by line, and such lines are checked against the files. -/
namespace InlineRemote.Shell

namespace Utility

def bytesOf (s : List Char) : List Nat :=
  s.map Char.toNat

def digests : List (String × String × (List Nat → List Nat)) :=
  [("md5", "MD5", Digest.md5), ("sha1", "SHA1", Digest.sha1), ("sha224", "SHA224", Digest.sha224),
    ("sha256", "SHA256", Digest.sha256), ("sha384", "SHA384", Digest.sha384),
    ("sha512", "SHA512", Digest.sha512)]

/-- A line of digests: the digest, and the file that it belongs to. -/
def digestLine? (name : String) (length : Nat) (line : String) : Option (String × String) :=
  let cs := line.toList
  match Text.strip? (name ++ " (").toList cs with
  | some r =>
    let digest := (r.reverse.takeWhile (· ≠ ' ')).reverse
    let file := r.take (r.length - digest.length)
    if digest.length = length && file.drop (file.length - 4) = ") = ".toList then
      some (String.ofList digest, String.ofList (file.take (file.length - 4)))
    else none
  | none =>
    let digest := cs.takeWhile Text.isHexDigit
    match cs.drop digest.length with
    | ' ' :: mark :: file =>
      if digest.length = length && (mark = ' ' || mark = '*') then
        some (String.ofList (digest.map Char.toLower), String.ofList file)
      else none
    | _ => none

/-- How lines of digests are checked. -/
structure Checking where
  silent : Bool
  quiet : Bool
  strict : Bool
  sparing : Bool

/-- Checks the lines of files with digests. -/
def checkDigests (c : Call) (k : Checking) (name : String) (digest : List Nat → List Nat)
    (files : List String) : Act Nat := do
  let (texts, fine) ← c.inputs files
  let mut status := if fine then 0 else 1
  let length := 2 * (digest []).length
  for (title, t) in texts do
    let shownTitle := if title = "-" then "'standard input'" else title
    let ls := (t.splitOn '\n').filter fun l => l ≠ [] && l.head? ≠ some '#'
    let entries := ls.map fun l => digestLine? name length (String.ofList l)
    let known := entries.filterMap id
    if known = [] then
      c.complain (shownTitle ++ ": no properly formatted checksum lines found")
      status := 1
    else
      let mut wrong := 0
      let mut missing := 0
      let mut verified := 0
      for (sum, file) in known do
        match ← Call.input file with
        | .error fault =>
          if !(k.sparing && fault = .notFound) then
            c.complain (file ++ ": " ++ Fault.words fault)
            if !k.silent then Act.print (file ++ ": FAILED open or read\n")
            missing := missing + 1
        | .ok t =>
          verified := verified + 1
          if Digest.text (digest (bytesOf t)) = sum then
            if !k.silent && !k.quiet then Act.print (file ++ ": OK\n")
          else
            if !k.silent then Act.print (file ++ ": FAILED\n")
            wrong := wrong + 1
      if !k.silent then
        if wrong ≠ 0 then
          c.complain ("WARNING: " ++ toString wrong ++ " computed checksum did NOT match")
        if missing ≠ 0 then
          c.complain ("WARNING: " ++ toString missing ++ " listed file could not be read")
      if k.sparing && verified = 0 && wrong = 0 && missing = 0 then
        c.complain (shownTitle ++ ": no file was verified")
        status := 1
      if wrong ≠ 0 || missing ≠ 0 || (k.strict && known.length < entries.length) then status := 1
  return status

def digestNames : List (String × Char × Bool) :=
  [("check", 'c', false), ("binary", 'b', false), ("text", 't', false), ("tag", 'T', false),
    ("zero", 'z', false), ("status", 's', false), ("quiet", 'q', false), ("strict", 'S', false),
    ("warn", 'w', false), ("ignore-missing", 'm', false), ("untagged", 'u', false),
    ("algorithm", 'a', true)]

def showDigests (c : Call) (os : List Given) (files : List String) (tagged : Bool)
    (name : String) (digest : List Nat → List Nat) : Act Nat := do
  let has (o : Char) : Bool := hasOption os o
  if has 'c' then
    checkDigests c ⟨has 's', has 'q', has 'S', has 'm'⟩ name digest files
  else
    let (texts, fine) ← c.inputs files
    let line (e : String × List Char) : String :=
      let sum := Digest.text (digest (bytesOf e.2))
      let shown :=
        if tagged then name ++ " (" ++ e.1 ++ ") = " ++ sum
        else sum ++ (if has 'b' then " *" else "  ") ++ e.1
      shown ++ if has 'z' then "\x00" else "\n"
    c.print ("".intercalate (texts.map line)) (if fine then 0 else 1)

def digestSum (c : Call) : Act Nat :=
  c.withOptions { letters := "cbtzw", names := digestNames.dropLast } 1 fun os files =>
    match digests.find? fun e => e.1 ++ "sum" = c.name with
    | some (_, name, digest) => showDigests c os files (hasOption os 'T') name digest
    | none => return 1

def showSums (c : Call) (files : List String) (sum : List Char → String) : Act Nat := do
  let (texts, fine) ← c.inputs files
  let line (e : String × List Char) : String :=
    sum e.2 ++ (if files = [] then "" else " " ++ e.1) ++ "\n"
  c.print ("".intercalate (texts.map line)) (if fine then 0 else 1)

def remainderSum (c : Call) : Act Nat :=
  c.withOptions { letters := "cbtzwa:", names := digestNames } 1 fun os files => do
    match argumentOf? os 'a' with
    | none | some "crc" =>
      showSums c files fun t =>
        toString (Digest.remainder (bytesOf t)) ++ " " ++ toString t.length
    | some kind =>
      match digests.find? (·.1 = kind) with
      | some (_, name, digest) => showDigests c os files (!hasOption os 'u') name digest
      | none => c.fail ("invalid argument '" ++ kind ++ "' for '--algorithm'") 1

def oldSum (c : Call) : Act Nat :=
  c.withOptions { letters := "rs", names := [("sysv", 's', false)] } 1 fun os files =>
    showSums c files fun t =>
      if hasOption os 's' then
        toString (Digest.foldedSum (bytesOf t)) ++ " " ++ toString ((t.length + 511) / 512)
      else
        let sum := toString (Digest.turnedSum (bytesOf t))
        String.ofList (List.replicate (5 - sum.length) '0') ++ sum ++ " " ++
          atRight 5 (toString ((t.length + 1023) / 1024))

end Utility

end InlineRemote.Shell
