import Harvest.Error
/-!
Passes over a document. A pass collects warnings and ends with a value, with an error, or by
bailing out; what would follow an error or a bail is not run.
-/

namespace Harvest

inductive Stop
  | failed (e : Error)
  | bailed
  deriving DecidableEq, Repr

structure Pass (α : Type) where
  warnings : List String
  result : Except Stop α

namespace Pass

def pure (a : α) : Pass α := ⟨[], .ok a⟩

def fail (e : Error) : Pass α := ⟨[], .error (.failed e)⟩

def warn (warning : String) (a : α) : Pass α := ⟨[warning], .ok a⟩

def ofExcept : Except Error α → Pass α
  | .ok a => pure a
  | .error e => fail e

/-- One pass after the other. -/
def bind (p : Pass α) (f : α → Pass β) : Pass β :=
  match p.result with
  | .ok a => ⟨p.warnings ++ (f a).warnings, (f a).result⟩
  | .error s => ⟨p.warnings, .error s⟩

instance : Monad Pass where
  pure := pure
  bind := bind

@[simp] theorem pure_bind (a : α) (f : α → Pass β) : (Pass.pure a).bind f = f a := by
  simp [Pass.pure, Pass.bind]

@[simp] theorem bind_pure (p : Pass α) : p.bind Pass.pure = p := by
  obtain ⟨w, r⟩ := p
  cases r <;> simp [Pass.pure, Pass.bind]

theorem bind_assoc (p : Pass α) (f : α → Pass β) (g : β → Pass γ) :
    (p.bind f).bind g = p.bind fun a => (f a).bind g := by
  obtain ⟨w, r⟩ := p
  cases r with
  | error s => rfl
  | ok a =>
    simp only [Pass.bind]
    cases (f a).result <;> simp [List.append_assoc]

end Pass
end Harvest
