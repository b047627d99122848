import ApiTypes.Tool.Options
import ApiTypes.Tool.Shown
/-!
# Copying files

`copy` writes the files it is given one after the other.  Options make it number the lines, squeeze
empty ones, and show ends of lines, tabs and bytes that do not print.  The count of lines goes on
from file to file.
-/
namespace ApiTypes
namespace Tool

structure CopyStyle where
  numberAll : Bool
  numberFilled : Bool
  squeezeEmpty : Bool
  showEnds : Bool
  showTabs : Bool
  showOthers : Bool

structure CopyState where
  count : Nat
  inLine : Bool
  /-- How many empty lines lie behind, at most two of them counted. -/
  empty : Nat
  /-- Whether a carriage return waits for what follows it. -/
  pending : Bool

def padded (width n : Nat) : Octets :=
  let digits := Text.ofNat n
  List.replicate (width - digits.length) ' ' ++ digits

def lineNumber (n : Nat) : Octets := padded 6 n ++ ['\t']

/-- A byte in signs that print; the high half of the bytes is the low half with a mark. -/
def showByte (c : Char) : Octets :=
  let low (n : Nat) : Octets :=
    if n < 32 then ['^', Char.ofNat (n + 64)]
    else if n = 127 then ['^', '?']
    else [Char.ofNat n]
  if c.toNat < 128 then low c.toNat else 'M' :: '-' :: low (c.toNat - 128)

def showInner (style : CopyStyle) (c : Char) : Octets :=
  if c = '\t' then (if style.showTabs then ['^', 'I'] else [c])
  else if style.showOthers then showByte c
  else [c]

def copyByte (style : CopyStyle) (s : CopyState) (c : Char) : Octets × CopyState :=
  if c = '\n' then
    let ending : Octets :=
      (if s.pending then (if style.showEnds then ['^', 'M'] else ['\r']) else [])
        ++ (if style.showEnds then ['$'] else []) ++ ['\n']
    if s.inLine || s.pending then (ending, { s with inLine := false, empty := 0, pending := false })
    else if style.squeezeEmpty && 1 ≤ s.empty then (([] : Octets), { s with empty := 2 })
    else
      let numbered := style.numberAll && !style.numberFilled
      let count := if numbered then s.count + 1 else s.count
      ((if numbered then lineNumber count else []) ++ ending,
        { s with count := count, empty := min 2 (s.empty + 1) })
  else
    let opens := !(s.inLine || s.pending) && (style.numberAll || style.numberFilled)
    let count := if opens then s.count + 1 else s.count
    let before := (if s.pending then ['\r'] else []) ++ (if opens then lineNumber count else [])
    if c = '\r' && style.showEnds && !style.showOthers then
      (before, { s with count := count, inLine := true, pending := true })
    else
      (before ++ showInner style c, { s with count := count, inLine := true, pending := false })

def copyBytes (style : CopyStyle) : CopyState → Octets → Octets × CopyState
  | s, [] => ([], s)
  | s, c :: rest =>
    let (now, s) := copyByte style s c
    let (later, s) := copyBytes style s rest
    (now ++ later, s)

/-- Files copied one after the other.  Those that cannot be read are remarked on and left out. -/
def copyFiles (d : Disk) (name : Octets) (style : CopyStyle) :
    List Octets → CopyState → Octets → Finished
  | [], s, input => ⟨if s.pending then [(.results, ['\r'])] else [], input, success⟩
  | file :: rest, s, input =>
    match (operand d file).read input with
    | (.ok contents, input) =>
      let (copied, s) := copyBytes style s contents
      let later := copyFiles d name style rest s input
      { later with written := (.results, copied) :: later.written }
    | (.error fault, input) =>
      let later := copyFiles d name style rest s input
      { later with
        written := remark (name ++ ": " ++ shownName file ++ ": " ++ Octets.ofText fault.words)
          ++ later.written
        status := .code 1 }

def copyOptions : OptionTable where
  letters := "AbeEnstTuv".toList
  named := [⟨"number-nonblank", 'b', false⟩, ⟨"number", 'n', false⟩, ⟨"squeeze-blank", 's', false⟩,
    ⟨"show-nonprinting", 'v', false⟩, ⟨"show-ends", 'E', false⟩, ⟨"show-tabs", 'T', false⟩,
    ⟨"show-all", 'A', false⟩, ⟨"help", 'h', false⟩, ⟨"version", 'V', false⟩]
  operandsLast := false

/-- Copies files, or its input if none is named; a file named by a hyphen is the input, too. -/
def copy (d : Disk) (name : Octets) : Tool := fun args input =>
  match readOptions copyOptions args with
  | .error words => misuse name words input
  | .ok r =>
    let any (keys : List Char) : Bool := keys.any r.has
    let style : CopyStyle :=
      ⟨any ['n'], any ['b'], any ['s'], any ['A', 'e', 'E'], any ['A', 't', 'T'],
        any ['A', 'e', 't', 'v']⟩
    let files := if r.operands.isEmpty then [['-']] else r.operands
    copyFiles d name style files ⟨0, false, 0, false⟩ input

end Tool
end ApiTypes
