/-!
# Outcomes of work on one artifact
-/

namespace TypeDiscovery

/-- What comes of opening or reading one artifact: a result, a failure with its reason, or a panic
of the code that was asked. -/
inductive Outcome (α : Type) where
  | done (result : α)
  | failed (reason : String)
  | panicked
  deriving DecidableEq, Inhabited

def Outcome.bind {α β : Type} (o : Outcome α) (f : α → Outcome β) : Outcome β :=
  match o with
  | done a => f a
  | failed reason => failed reason
  | panicked => panicked

def Outcome.ofExcept {ε α : Type} (text : ε → String) : Except ε α → Outcome α
  | .ok a => done a
  | .error e => failed (text e)

end TypeDiscovery
