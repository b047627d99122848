import ApiTypes.Text
/-!
# Text that steers no terminal

A terminal takes control characters and escape sequences for orders.  What a message quotes may hold
some, so they are left out: every sequence from its escape character to its end, and every control
character but the tab and the ends of lines and pages.

The sequences are those that a video terminal knows.  The machine below is in the position that the
terminal would be in; it begins to show text again where the terminal would, and what it shows at
length is read as plain text whatever the position was.
-/
namespace ApiTypes
namespace Terminal

inductive Position where
  | ground
  | escape
  | escapeSpaced
  | controlStart
  | controlParameters
  | controlSpaced
  | controlIgnored
  /-- In a device control string: before its contents, in them, or in one that is malformed. -/
  | deviceStart
  | deviceParameters
  | deviceSpaced
  | deviceContents
  | deviceIgnored
  | systemString
  | otherString
deriving DecidableEq

/-- Whether a control character moves on in the text without steering: the tab, the line feed, the
form feed and the carriage return. -/
def isLayout (c : Char) : Bool := c = '\t' || c = '\n' || c = '\x0c' || c = '\r'

def isShown (c : Char) : Bool := isLayout c || (32 ≤ c.toNat && c.toNat ≠ 127)

/-- Whether the eight-bit end of a string is among the bytes of a character. -/
def holdsTerminator (c : Char) : Bool := (String.utf8EncodeChar c).contains 0x9C

/-- The position behind the bracket that opens a control sequence, or further in it; `n` is between
the space and the tilde. -/
def controlNext (p : Position) (n : Nat) : Position :=
  if 0x40 ≤ n then .ground
  else
    match p with
    | .controlStart => if n < 0x30 then .controlSpaced else .controlParameters
    | .controlParameters =>
      if n < 0x30 then .controlSpaced else if n < 0x3C then p else .controlIgnored
    | .controlSpaced => if n < 0x30 then p else .controlIgnored
    | _ => p

def deviceNext (p : Position) (n : Nat) : Position :=
  match p with
  | .deviceStart =>
    if 0x40 ≤ n then .deviceContents else if n < 0x30 then .deviceSpaced else .deviceParameters
  | .deviceParameters =>
    if 0x40 ≤ n then .deviceContents
    else if n < 0x30 then .deviceSpaced
    else if n < 0x3C then p
    else .deviceIgnored
  | .deviceSpaced =>
    if 0x40 ≤ n then .deviceContents else if n < 0x30 then p else .deviceIgnored
  | _ => p

def escapeNext (n : Nat) : Position :=
  if n < 0x30 then .escapeSpaced
  else if n = 0x5B then .controlStart
  else if n = 0x5D then .systemString
  else if n = 0x50 then .deviceStart
  else if n = 0x58 ∨ n = 0x5E ∨ n = 0x5F then .otherString
  else .ground

def step (p : Position) (c : Char) : Position × Bool :=
  let n := c.toNat
  let isPlain : Bool := 0x20 ≤ n && n < 0x7F
  if n = 0x18 ∨ n = 0x1A then (.ground, false)
  else if n = 0x1B then (.escape, false)
  else
    match p with
    | .ground => (p, isShown c)
    | .escape => if isPlain then (escapeNext n, false) else (p, isLayout c)
    | .escapeSpaced =>
      if isPlain then (if n < 0x30 then p else .ground, false) else (p, isLayout c)
    | .controlStart | .controlParameters | .controlSpaced | .controlIgnored =>
      if isPlain then (controlNext p n, false) else (p, isLayout c)
    | .deviceStart | .deviceParameters | .deviceSpaced =>
      (if isPlain then deviceNext p n else p, false)
    | .deviceContents | .deviceIgnored | .otherString =>
      (if holdsTerminator c then .ground else p, false)
    | .systemString => (if n = 7 then .ground else p, false)

/-- The characters shown of a text.  `showing` holds behind a character that was shown: from there
on, what can be shown outside of sequences is shown, until something cannot be. -/
def shownFrom : (showing : Bool) → Position → Text → Text
  | _, _, [] => []
  | showing, p, c :: rest =>
    if showing && isShown c then
      c :: shownFrom true (if c.toNat < 128 then p else .ground) rest
    else
      let (next, shown) := step p c
      if shown then c :: shownFrom true next rest else shownFrom false next rest

end Terminal

def Text.unsteering (t : Text) : Text := Terminal.shownFrom false .ground t

end ApiTypes
