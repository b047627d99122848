import ApiTypes.Tool.Count
import ApiTypes.Tool.Transliterate
/-!
# Programs

A program is called by a name.  A name with a slash is a path; any other name is looked for in the
program directories.  The tools and the shell are the only programs there are, so whatever else a
path leads to may not be started.
-/
namespace ApiTypes

inductive Program where
  | shell
  | copy
  | count
  | transliterate
  | quiet (status : Nat)
deriving DecidableEq

namespace Program

def directories : List Place := [["usr", "bin"], ["bin"]]

def all : List (Text × Program) :=
  [("sh", .shell), ("cat", .copy), ("tr", .transliterate), ("wc", .count), ("true", .quiet 0),
    ("false", .quiet 1)]

/-- The files that are no files of their own. -/
def devices : List (Place × Entry) :=
  [(["dev", "null"], .sink), (["dev", "stdin"], .stream 0), (["dev", "stdout"], .stream 1),
    (["dev", "stderr"], .stream 2), (["dev", "fd", "0"], .stream 0),
    (["dev", "fd", "1"], .stream 1), (["dev", "fd", "2"], .stream 2)]

def systemDirectories : List Text :=
  ["boot", "etc", "home", "lib", "media", "mnt", "opt", "proc", "root", "run", "sbin", "srv", "sys",
    "tmp", "var"]

def users : Place × Entry :=
  (["etc", "passwd"], .file (Text.utf8 "root:x:0:0:root:/root:/bin/bash\n"))

def disk (home : Place) : Disk :=
  let programs := directories.flatMap (fun dir => all.map (fun p => dir ++ [p.1]))
  let files := devices ++ programs.map (fun place => (place, .file [])) ++ [users]
  let d := files.foldl (fun d f => d.lay f.1 f.2) (Disk.blank home)
  systemDirectories.foldl
    (fun d name => if (d.entry? [name]).isSome then d else d.put [name] .directory) d

def ofPlace (place : Place) : Option Program :=
  if directories.contains place.dropLast then
    (place.getLast?.bind (fun name => all.find? (fun p => p.1 = name))).map (·.2)
  else none

def ofPath (d : Disk) (path : Text) : Except FileFault Program := do
  let p := Path.ofText path
  match ← d.entryAt p with
  | .directory => throw .denied
  | _ =>
    match ofPlace (← d.walk (d.start p) p.names) with
    | some program => return program
    | none => throw .denied

/-- The first of several searches that finds a program.  If none does, the reason is that of the
first one that met with something. -/
def firstFound : List (Except FileFault Program) → Except FileFault Program
  | [] => .error .notFound
  | .ok program :: _ => .ok program
  | .error fault :: rest =>
    match firstFound rest with
    | .ok program => .ok program
    | .error later => .error (if fault = .notFound then later else fault)

def find (d : Disk) (name : Text) : Except FileFault Program :=
  if name.isEmpty then .error .notFound
  else if name.contains '/' then ofPath d name
  else firstFound (directories.map fun dir => ofPath d ('/' :: Text.join ['/'] (dir ++ [name])))

/-- A program that is no shell as a tool; `name` is how it was called. -/
def tool (d : Disk) (name : Octets) : Program → Option Tool
  | .shell => none
  | .copy => some (Tool.copy d name)
  | .count => some (Tool.count d name)
  | .transliterate => some (Tool.transliterate name)
  | .quiet status => some (Tool.quiet status)

end Program
end ApiTypes
