import ApiTypes.Script.Session
/-!
# Settings of the shell

A setting has a name and mostly a letter.  Arguments that begin with a hyphen turn settings on, and
those that begin with a plus turn them off, both for a shell that starts and for one that runs.
-/
namespace ApiTypes
namespace Script

def Setting.all : List (Option Char × Octets × Setting) :=
  let other (c : Char) (name : Octets) : Option Char × Octets × Setting :=
    (some c, name, .other c name)
  [(some 'e', "errexit", .exitOnError), (some 'f', "noglob", .noPatterns), other 'I' "ignoreeof",
    other 'i' "interactive", other 'm' "monitor", (some 'n', "noexec", .noRuns), other 's' "stdin",
    (some 'x', "xtrace", .traced), other 'v' "verbose", other 'V' "vi", other 'E' "emacs",
    (some 'C', "noclobber", .noOverwrite), (some 'a', "allexport", .exportAll), other 'b' "notify",
    (some 'u', "nounset", .noUnset), other 'p' "privileged", (none, "nolog", .other '-' "nolog"),
    (none, "debug", .other '-' "debug")]

def Setting.ofLetter? (c : Char) : Option Setting :=
  (all.find? (fun s => s.1 = some c)).map (·.2.2)

def Setting.ofName? (name : Octets) : Option Setting :=
  (all.find? (fun s => s.2.1 = name)).map (·.2.2)

def Setting.turn (on : Bool) (setting : Setting) (settings : List Setting) : List Setting :=
  let others := settings.filter (· ≠ setting)
  if on then setting :: others else others

def Setting.letters (settings : List Setting) : Octets :=
  "pubaCEVvxsnmiIfe".toList.filter fun c => (ofLetter? c).any settings.contains

def Setting.table (settings : List Setting) : Octets :=
  "Current option settings\n".toList ++ all.flatMap fun s =>
    let state : Octets := if settings.contains s.2.2 then "on" else "off"
    s.2.1 ++ List.replicate (16 - s.2.1.length) ' ' ++ state ++ ['\n']

def Setting.commands (settings : List Setting) : Octets :=
  all.flatMap fun s =>
    let command : Octets := if settings.contains s.2.2 then "set -o " else "set +o "
    command ++ s.2.1 ++ ['\n']

structure SettingsRead where
  settings : List Setting
  rest : List Octets
  /-- Whether the arguments were told apart from settings by two hyphens. -/
  divided : Bool
  script : Bool
  shown : Octets

/-- The letters of one argument, and what they take from the arguments behind it. -/
def SettingsRead.letters (atStart on : Bool) :
    Octets → SettingsRead → Except Octets SettingsRead
  | [], r => .ok r
  | 'c' :: more, r =>
    if atStart then letters atStart on more { r with script := true }
    else .error "Illegal option -c"
  | 'l' :: more, r => if atStart then letters atStart on more r else .error "Illegal option -l"
  | 'o' :: more, r =>
    match r.rest with
    | [] =>
      let shown := if on then Setting.table r.settings else Setting.commands r.settings
      letters atStart on more { r with shown := r.shown ++ shown }
    | name :: rest =>
      match Setting.ofName? name with
      | some s =>
        letters atStart on more { r with settings := Setting.turn on s r.settings, rest := rest }
      | none => .error ("Illegal option -o " ++ name)
  | c :: more, r =>
    match Setting.ofLetter? c with
    | some s => letters atStart on more { r with settings := Setting.turn on s r.settings }
    | none => .error ("Illegal option -" ++ [c])

/-- What the first arguments say about settings; `steps` is at least their number. -/
def SettingsRead.take (atStart : Bool) : (steps : Nat) → SettingsRead → Except Octets SettingsRead
  | 0, r => .ok r
  | steps + 1, r => do
    match r.rest with
    | ['-'] :: rest =>
      let settings := if atStart then r.settings else Setting.turn false .traced r.settings
      return { r with settings := settings, rest := rest }
    | ['-', '-'] :: rest => return { r with rest := rest, divided := true }
    | ('-' :: letters) :: rest =>
      take atStart steps (← SettingsRead.letters atStart true letters { r with rest := rest })
    | ('+' :: letters) :: rest =>
      take atStart steps (← SettingsRead.letters atStart false letters { r with rest := rest })
    | _ => return r

def SettingsRead.ofArguments (atStart : Bool) (settings : List Setting) (args : List Octets) :
    Except Octets SettingsRead :=
  take atStart (args.length + 1) ⟨settings, args, false, false, []⟩

end Script
end ApiTypes
