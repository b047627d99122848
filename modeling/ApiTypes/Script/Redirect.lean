import ApiTypes.Script.Expand
/-!
# Redirections

The names in redirections are replaced before any of them takes effect.  Then each leads a stream to
a file, to where another stream leads, to a text, or nowhere; the first one that cannot be done ends
the command.
-/
namespace ApiTypes
namespace Script

/-- A redirection whose name has been replaced. -/
inductive Lead where
  | file (stream : Nat) (access : Access) (name : Octets)
  | sameAs (stream source : Nat)
  | close (stream : Nat)
  | text (stream : Nat) (contents : Octets)

def Lead.stream : Lead → Nat
  | .file n _ _ => n
  | .sameAs n _ => n
  | .close n => n
  | .text n _ => n

namespace Lead

def onlyReads : Access → Bool
  | .read => true
  | _ => false

def refusal (access : Access) (name : Octets) (fault : FileFault) : Octets :=
  let isMissing : Bool := fault = .notFound || fault = .notDirectory
  if onlyReads access then
    "cannot open " ++ name ++ ": "
      ++ (if isMissing then "No such file".toList else Octets.ofText fault.words)
  else
    "cannot create " ++ name ++ ": "
      ++ (if isMissing then "Directory nonexistent".toList else Octets.ofText fault.words)

def newPlace (d : Disk) (p : Path) : Except FileFault Place := do
  match p.names.getLast? with
  | none => throw .notFound
  | some last =>
    let parent ← d.walk (d.start p) p.names.dropLast
    d.checkDirectory parent
    Disk.checkName last
    if p.endsInSlash then throw .isDirectory
    return parent ++ [last]

def openFile (access : Access) (name : Octets) : Step (Except FileFault Nat) := do
  let d ← Step.disk
  let p := Path.ofText name.toText
  let atEnd : Bool := match access with
    | .append => true
    | _ => false
  let keeps : Bool := onlyReads access || atEnd || (match access with
    | .readWrite => true
    | _ => false)
  match d.entryAt p with
  | .ok .directory =>
    if onlyReads access then return .ok (← Step.openChannel .void) else return .error .isDirectory
  | .ok .sink => return .ok (← Step.openChannel .void)
  | .ok (.stream n) =>
    match find? n (← Step.session).streams with
    | some channel => return .ok channel
    | none => return .error (.described "No such device or address")
  | .ok (.file _) =>
    match d.walk (d.start p) p.names with
    | .error fault => return .error fault
    | .ok place =>
      let guarded := (match access with
        | .write => true
        | _ => false) && (← Step.isSet .noOverwrite)
      if guarded then return .error .exists
      if !keeps then Step.alterWorld fun w => { w with disk := w.disk.put place (.file []) }
      return .ok (← Step.openChannel (.file place 0 atEnd))
  | .error .notFound =>
    if onlyReads access then return .error .notFound
    else
      match newPlace d p with
      | .error fault => return .error fault
      | .ok place =>
        Step.alterWorld fun w => { w with disk := w.disk.put place (.file []) }
        return .ok (← Step.openChannel (.file place 0 atEnd))
  | .error fault => return .error fault

def point (stream channel : Nat) : Step Unit :=
  Step.alter fun s => { s with streams := replaced stream channel s.streams }

def apply : Lead → Step Unit
  | .file stream access name => do
    match ← openFile access name with
    | .ok channel => point stream channel
    | .error fault => Step.fail (refusal access name fault)
  | .sameAs stream source => do
    match find? source (← Step.session).streams with
    | some channel => point stream channel
    | none => if stream ≠ source then Step.fail (Text.ofNat source ++ ": Bad file descriptor")
  | .close stream => Step.alter fun s => { s with streams := without stream s.streams }
  | .text stream contents => do point stream (← Step.openChannel (.source contents))

def applyAll (leads : List Lead) : Step Unit := leads.forM apply

/-- Redirections take effect; says how the command ends if one of them cannot. -/
def applySafely (leads : List Lead) : Step Nat :=
  tryCatch (do applyAll leads; return 0) fun
    | .fault status => return status
    | ending => throw ending

/-- Streams lead again to where they led before some redirections. -/
def undo (leads : List Lead) (before : List (Nat × Nat)) : Step Unit :=
  leads.forM fun lead =>
    Step.alter fun s =>
      { s with streams :=
          match find? lead.stream before with
          | some channel => replaced lead.stream channel s.streams
          | none => without lead.stream s.streams }

def ofRedirection (e : Expansion) (fuel : Nat) : Redirection → Step Lead
  | .file stream access name => do return .file stream access (← e.whole fuel name)
  | .stream stream source => do
    match ← e.whole fuel source with
    | ['-'] => return .close stream
    | [c] =>
      if c.isDigit then return .sameAs stream (c.toNat - '0'.toNat)
      else Step.fail "Syntax error: Bad fd number"
    | _ => Step.fail "Syntax error: Bad fd number"
  | .close stream => return .close stream
  | .document stream number => do
    let parts := (find? number (← Step.world).documents).getD []
    let inner : Expansion := { e with cuts := false }
    return .text stream (Expansion.text (← inner.stretches fuel false parts))

end Lead
end Script
end ApiTypes
