import ApiTypes.Failure
/-!
# Directories and files

A disk is the list of everything below its root, each entry under the names that lead to it.  Paths
are texts: they are cut at slashes and walked name by name, so `.` and `..` mean what they mean to a
file system, and a name behind a file is an error even if `..` follows.
-/
namespace ApiTypes

/-- The names that lead from the root to an entry. -/
abbrev Place := List Text

inductive Entry where
  | directory
  | file (contents : Bytes)
  /-- The file that is always empty and swallows what is written to it. -/
  | sink
  /-- The name of a stream of the program that asks for it. -/
  | stream (n : Nat)
deriving DecidableEq

/-- All entries below the root, and the place that relative paths start from. -/
structure Disk where
  entries : List (Place × Entry)
  home : Place

structure Path where
  absolute : Bool
  /-- The names between the slashes, without the empty ones. -/
  names : List Text
  endsInSlash : Bool
  /-- The number of bytes of its spelling. -/
  length : Nat
deriving DecidableEq

namespace Path

def isSlash (c : Char) : Bool := c = '/'

def ofText (t : Text) : Path :=
  ⟨t.head? = some '/', Text.tokens isSlash t, t.getLast? = some '/', Text.byteLength t⟩

/-- One path behind another; an absolute one stands alone. -/
def join (root name : Text) : Text :=
  if name.head? = some '/' ∨ root.isEmpty then name
  else if root.getLast? = some '/' then root ++ name
  else root ++ ['/'] ++ name

def here : Text := ['.']

def above : Text := ['.', '.']

/-- The path up to a name, unless the name leads nowhere; at the very start such a name counts.
The names before it, and its letters, are given last first. -/
def upTo (absolute : Bool) (names : List Text) (letters : Text) (length : Nat) : List Path :=
  if letters.isEmpty ∨ (letters = here ∧ (absolute ∨ !names.isEmpty)) then []
  else [⟨absolute, (letters.reverse :: names).reverse, false, length⟩]

/-- The paths that a path leads along, from the shortest on. -/
def stages (absolute : Bool) :
    (names : List Text) → (letters : Text) → (length : Nat) → Text → List Path
  | names, letters, length, [] => upTo absolute names letters length
  | names, letters, length, c :: rest =>
    if isSlash c then
      upTo absolute names letters length
        ++ stages absolute (if letters.isEmpty then names else letters.reverse :: names) []
          (length + c.utf8Size) rest
    else stages absolute names (c :: letters) (length + c.utf8Size) rest

/-- The directories above what a path leads to, from the nearest on. -/
def parents (t : Text) : List Path := (stages (t.head? = some '/') [] [] 0 t).reverse.tail

def lastName (p : Path) : Text := p.names.getLast?.getD []

end Path

namespace Disk

def lookup (place : Place) : List (Place × Entry) → Option Entry
  | [] => none
  | (p, e) :: rest => if p = place then some e else lookup place rest

/-- An entry put at a place, in place of what was there. -/
def insert (place : Place) (entry : Entry) : List (Place × Entry) → List (Place × Entry)
  | [] => [(place, entry)]
  | (p, e) :: rest =>
    if p = place then (p, entry) :: rest else (p, e) :: insert place entry rest

/-- What is at a place; the root is a directory. -/
def entry? (d : Disk) : Place → Option Entry
  | [] => some .directory
  | place => lookup place d.entries

def put (d : Disk) (place : Place) (entry : Entry) : Disk :=
  { d with entries := insert place entry d.entries }

/-- The disk without what is at a place and below it. -/
def remove (d : Disk) (place : Place) : Disk :=
  { d with entries := d.entries.filter (fun e => !place.isPrefixOf e.1) }

theorem lookup_insert_same (place : Place) (entry : Entry) :
    ∀ es, lookup place (insert place entry es) = some entry
  | [] => by simp [insert, lookup]
  | (p, e) :: rest => by
    by_cases h : p = place
    · simp [insert, lookup, h]
    · simp [insert, lookup, h, lookup_insert_same place entry rest]

theorem lookup_insert_other {place other : Place} (entry : Entry) (h : other ≠ place) :
    ∀ es, lookup other (insert place entry es) = lookup other es
  | [] => by simp [insert, lookup, Ne.symm h]
  | (p, e) :: rest => by
    by_cases hp : p = place
    · subst hp; simp [insert, lookup, Ne.symm h]
    · by_cases ho : p = other
      · subst ho; simp [insert, lookup, h]
      · simp [insert, lookup, hp, ho, lookup_insert_other entry h rest]

/-! ## Walking -/

def nameLimit : Nat := 255

def checkName (name : Text) : Except FileFault Unit :=
  if nameLimit < Text.byteLength name then .error .nameTooLong else .ok ()

def checkDirectory (d : Disk) (place : Place) : Except FileFault Unit :=
  match d.entry? place with
  | some .directory => .ok ()
  | some _ => .error .notDirectory
  | none => .error .notFound

def step (d : Disk) (place : Place) (name : Text) : Except FileFault Place := do
  d.checkDirectory place
  if name = Path.here then return place
  else if name = Path.above then return place.dropLast
  else
    checkName name
    match d.entry? (place ++ [name]) with
    | some _ => return place ++ [name]
    | none => throw .notFound

def walk (d : Disk) (place : Place) (names : List Text) : Except FileFault Place :=
  names.foldlM d.step place

def start (d : Disk) (p : Path) : Place := if p.absolute then [] else d.home

def pathLimit : Nat := 4095

/-- Whether a path holds the one character that no path can hold. -/
def holdsNul (p : Path) : Bool := p.names.any (fun n => n.contains '\x00')

def checkPath (p : Path) : Except FileFault Unit :=
  if holdsNul p then .error .nulInName
  else if pathLimit < p.length then .error .nameTooLong
  else .ok ()

def entryAt (d : Disk) (p : Path) : Except FileFault Entry := do
  checkPath p
  if !p.absolute && p.names.isEmpty then throw .notFound
  let place ← d.walk (d.start p) p.names
  match d.entry? place with
  | some .directory => return .directory
  | some entry => if p.endsInSlash then throw .notDirectory else return entry
  | none => throw .notFound

/-! ## Laying out a disk -/

/-- The place that names lead to if everything on the way is a directory. -/
def placeOf (place : Place) (names : List Text) : Place :=
  names.foldl (fun place name =>
    if name = Path.here then place
    else if name = Path.above then place.dropLast
    else place ++ [name]) place

/-- Puts directories at the empty places on the way from a place along some names; the last name is
not on the way. -/
def openWay : (place : Place) → (names : List Text) → Disk → Disk
  | _, [], d => d
  | _, [_], d => d
  | place, name :: rest, d =>
    let next := place ++ [name]
    openWay next rest (if (d.entry? next).isSome then d else d.put next .directory)

/-- Puts an entry at a place, and directories at the empty places above. -/
def lay (d : Disk) (place : Place) (entry : Entry) : Disk :=
  (openWay [] place d).put place entry

def layAt (d : Disk) (path : Text) (entry : Entry) : Disk :=
  let p := Path.ofText path
  d.lay (placeOf (d.start p) p.names) entry

def blank (home : Place) : Disk :=
  if home.isEmpty then ⟨[], home⟩ else (⟨[], home⟩ : Disk).lay home .directory

def belowHome (d : Disk) : List (Place × Entry) :=
  d.entries.filterMap fun e =>
    match d.home.isPrefixOf e.1, e.1.drop d.home.length with
    | true, name :: names => some (name :: names, e.2)
    | _, _ => none

end Disk
end ApiTypes
