import ApiTypes.Text
/-!
# Diagnostics

Odd schema content never stops a run.  What is worth telling goes into a list beside the result:
`Reported α` is a value with the diagnostics reported on the way to it, oldest first.
-/
namespace ApiTypes

inductive Severity where
  | error
  | warning
deriving DecidableEq

def Severity.word : Severity → Text
  | .error => "error"
  | .warning => "warning"

structure Diagnostic where
  severity : Severity
  code : Text
  message : Text
deriving DecidableEq

namespace Diagnostic

def warning (code message : Text) : Diagnostic := ⟨.warning, code, message⟩

/-- The same remark as an error, for a run that warnings fail. -/
def escalate (d : Diagnostic) : Diagnostic := { d with severity := .error }

/-- The remark in one line: severity, code, message. -/
def text (d : Diagnostic) : Text := d.severity.word ++ "[" ++ d.code ++ "]: " ++ d.message

def warningCount (ds : List Diagnostic) : Nat := ds.countP (fun d => d.severity = .warning)

end Diagnostic

/-- A value and the diagnostics reported on the way to it. -/
structure Reported (α : Type) where
  value : α
  diagnostics : List Diagnostic

namespace Reported

def quiet {α : Type} (a : α) : Reported α := ⟨a, []⟩

instance : Monad Reported where
  pure := quiet
  bind x f := ⟨(f x.value).value, x.diagnostics ++ (f x.value).diagnostics⟩

def report (d : Diagnostic) : Reported Unit := ⟨(), [d]⟩

variable {α β : Type}

theorem ext {x y : Reported α} (hvalue : x.value = y.value)
    (hdiagnostics : x.diagnostics = y.diagnostics) : x = y := by
  cases x
  cases y
  cases hvalue
  cases hdiagnostics
  rfl

@[simp] theorem value_pure (a : α) : (pure a : Reported α).value = a := rfl

@[simp] theorem diagnostics_pure (a : α) : (pure a : Reported α).diagnostics = [] := rfl

@[simp] theorem value_bind (x : Reported α) (f : α → Reported β) :
    (x >>= f).value = (f x.value).value := rfl

@[simp] theorem diagnostics_bind (x : Reported α) (f : α → Reported β) :
    (x >>= f).diagnostics = x.diagnostics ++ (f x.value).diagnostics := rfl

instance : LawfulMonad Reported := LawfulMonad.mk' Reported
  (fun _ => by simp [Functor.map, quiet])
  (fun _ _ => by simp [pure, bind, quiet])
  (fun _ _ _ => by simp [bind, List.append_assoc])

end Reported
end ApiTypes
