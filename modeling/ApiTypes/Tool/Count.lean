import ApiTypes.Tool.Copy
/-!
# Counting

`count` tells how many lines, words and bytes its files have, and how wide the widest line is.  A
word is a run of bytes between white space with at least one among them that prints.
-/
namespace ApiTypes
namespace Tool

structure Counts where
  lines : Nat
  words : Nat
  bytes : Nat
  width : Nat

namespace Counts

def zero : Counts := ⟨0, 0, 0, 0⟩

def add (a b : Counts) : Counts :=
  ⟨a.lines + b.lines, a.words + b.words, a.bytes + b.bytes, max a.width b.width⟩

end Counts

def isGap (c : Char) : Bool := c = ' ' || (9 ≤ c.toNat && c.toNat ≤ 13)

/-- Counts up to the end of the input; `inWord` tells of a word not counted yet, `column` is the
width of the line at hand. -/
def countFrom : (c : Counts) → (inWord : Bool) → (column : Nat) → Octets → Counts
  | c, inWord, column, [] =>
    { c with words := if inWord then c.words + 1 else c.words, width := max c.width column }
  | c, inWord, column, b :: rest =>
    let c := { c with bytes := c.bytes + 1 }
    if isGap b then
      let c := { c with words := if inWord then c.words + 1 else c.words }
      match b with
      | '\n' => countFrom { c with lines := c.lines + 1, width := max c.width column } false 0 rest
      | '\r' => countFrom { c with width := max c.width column } false 0 rest
      | '\x0c' => countFrom { c with width := max c.width column } false 0 rest
      | '\t' => countFrom c false (column + (8 - column % 8)) rest
      | ' ' => countFrom c false (column + 1) rest
      | _ => countFrom c false column rest
    else if isPrinting b then countFrom c true (column + 1) rest
    else countFrom c inWord column rest

def countAll (o : Octets) : Counts := countFrom .zero false 0 o

def countOptions : OptionTable where
  letters := "clLmw".toList
  named := [⟨"bytes", 'c', false⟩, ⟨"chars", 'm', false⟩, ⟨"lines", 'l', false⟩,
    ⟨"words", 'w', false⟩, ⟨"files0-from", 'F', true⟩, ⟨"max-line-length", 'L', false⟩,
    ⟨"total", 't', true⟩, ⟨"help", 'h', false⟩, ⟨"version", 'V', false⟩]
  operandsLast := false

/-- The counts that are asked for, in the order in which they are told. -/
def chosenCounts (r : Reading) (c : Counts) : List Nat :=
  let asked := ['l', 'w', 'm', 'c', 'L'].any r.has
  let wants (key : Char) : Bool := if asked then r.has key else ['l', 'w', 'c'].contains key
  (if wants 'l' then [c.lines] else []) ++ (if wants 'w' then [c.words] else [])
    ++ (if wants 'm' then [c.bytes] else []) ++ (if wants 'c' then [c.bytes] else [])
    ++ (if wants 'L' then [c.width] else [])

def countLine (r : Reading) (width : Nat) (c : Counts) (name : Option Octets) : Octets :=
  Text.join [' '] ((chosenCounts r c).map (padded width))
    ++ (match name with
      | some t => ' ' :: (if t.contains '\n' then shownName t else t)
      | none => []) ++ ['\n']

/-- How wide the counts are written: wide enough for all bytes of the files, and seven places where
something is no plain file.  A single count of a single file is not padded, nor is anything if the
first file is not there. -/
def countWidth (d : Disk) (r : Reading) (files : List Octets) : Nat :=
  let found := files.map (operand d)
  let size : Operand → Nat
    | .file contents => contents.length
    | _ => 0
  let isSpecial : Operand → Bool
    | .file _ => false
    | .absent fault => fault = .isDirectory
    | _ => true
  let isMissing : Operand → Bool
    | .absent fault => fault ≠ .isDirectory
    | _ => false
  if (files.length = 1 ∧ (chosenCounts r .zero).length = 1) ∨ found.head?.any isMissing then 1
  else
    let sum := found.foldl (fun n o => n + size o) 0
    max (Text.ofNat sum).length (if found.any isSpecial then 7 else 1)

/-- The lines for some files, the sum of their counts, the input that is left, and whether all of
them could be read. -/
def countFiles (d : Disk) (name : Octets) (line : Counts → Octets → Octets) :
    List Octets → Octets → List (Output × Octets) × Counts × Octets × Bool
  | [], input => ([], .zero, input, true)
  | file :: rest, input =>
    let (contents, input) := (operand d file).read input
    let (later, sum, input, good) := countFiles d name line rest input
    match contents with
    | .ok contents =>
      let c := countAll contents
      ((.results, line c file) :: later, c.add sum, input, good)
    | .error fault =>
      let cause : Octets :=
        if file.isEmpty then "invalid zero-length file name"
        else shownName file ++ ": " ++ Octets.ofText fault.words
      let words := remark (name ++ ": " ++ cause)
      let own : List (Output × Octets) :=
        if fault = .isDirectory then [(.results, line .zero file)] else []
      (words ++ own ++ later, sum, input, false)

/-- Counts lines, words and bytes of files, or of its input if none is named.  With several files
there is a line of sums. -/
def count (d : Disk) (name : Octets) : Tool := fun args input =>
  match readOptions countOptions args with
  | .error words => misuse name words input
  | .ok r =>
    let files := if r.operands.isEmpty then [['-']] else r.operands
    let width := countWidth d r files
    let line (c : Counts) (file : Octets) : Octets :=
      countLine r width c (if r.operands.isEmpty then none else some file)
    let (lines, sum, input, good) := countFiles d name line files input
    let sums : List (Output × Octets) :=
      if 1 < files.length then [(.results, countLine r width sum (some "total"))] else []
    let written := lines ++ sums
    -- Results are held back until the end, remarks are not.
    ⟨written.filter (fun w => w.1 = .remarks) ++ written.filter (fun w => w.1 = .results), input,
      .code (if good then 0 else 1)⟩

end Tool
end ApiTypes
