import ApiTypes.Text.Octets
/-!
# Scripts of commands

A script is read command by command.  A command calls something by name, or joins other commands:
in a row, under a condition, in a loop, through a pipe.  Words keep their structure, since what
stands for a parameter is known only when the script runs.
-/
namespace ApiTypes
namespace Script

inductive Access where
  | read
  | write
  | overwrite
  | append
  | readWrite
deriving DecidableEq

mutual

/-- A part of a word.  What is quoted stays in one piece and has no further meaning. -/
inductive Part where
  | literal (t : Octets) (quoted : Bool)
  /-- Quotes, which make a word even if nothing is in them. -/
  | quotes
  | parameter (name : Octets) (use : Use) (quoted : Bool)
  | results (body : Command) (quoted : Bool)
  | number (expression : List Part) (quoted : Bool)

/-- What is taken of a parameter.  Some uses ask whether it is set, or, where `orEmpty` holds,
whether it is set and not empty. -/
inductive Use where
  | value
  | length
  | orElse (orEmpty : Bool) (word : List Part)
  | orAssign (orEmpty : Bool) (word : List Part)
  | orFail (orEmpty : Bool) (word : List Part)
  | ifSet (orEmpty : Bool) (word : List Part)
  | trim (atEnd longest : Bool) (pattern : List Part)
  | malformed

inductive Redirection where
  | file (stream : Nat) (access : Access) (name : List Part)
  /-- Where another stream leads; `text` is a word that spells its number, or a hyphen. -/
  | stream (stream : Nat) (source : List Part)
  | close (stream : Nat)
  /-- A text within the script, kept under a number. -/
  | document (stream : Nat) (number : Nat)

inductive Command where
  | simple (line : Nat) (assignments : List (Octets × List Part)) (words : List (List Part))
    (redirections : List Redirection)
  | pipeline (commands : List Command)
  | negation (body : Command)
  | both (first second : Command)
  | either (first second : Command)
  | sequence (first second : Command)
  | background (line : Nat) (body : Command) (redirections : List Redirection)
  | subshell (line : Nat) (body : Command) (redirections : List Redirection)
  | redirected (line : Nat) (body : Command) (redirections : List Redirection)
  | conditional (test yes : Command) (no : Option Command)
  /-- The body is run as long as the test ends as `wanted`. -/
  | loop (wanted : Bool) (test body : Command)
  | each (line : Nat) (name : Octets) (words : List (List Part)) (body : Command)
  | choice (line : Nat) (subject : List Part) (clauses : List (List (List Part) × Command))
  | definition (name : Octets) (body : Command)
  | nothing

end

abbrev Word := List Part

instance : Inhabited Command := ⟨.nothing⟩

end Script
end ApiTypes
