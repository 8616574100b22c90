/-! The outcome of checking one link: valid, a warning or an error, with a reason and notes
that say how to fix it. -/
namespace BookLinks

inductive Status where
  | valid
  | warning
  | error
  deriving Repr, DecidableEq, Inhabited

def Status.name : Status → String
  | .valid => "valid"
  | .warning => "warning"
  | .error => "error"

structure Outcome where
  status : Status
  reason : String := ""
  notes : List String := []
  deriving Repr, DecidableEq, Inhabited

namespace Outcome

def valid (reason : String := "") : Outcome := ⟨.valid, reason, []⟩

def warning (reason : String) (notes : List String := []) : Outcome := ⟨.warning, reason, notes⟩

def error (reason : String) (notes : List String := []) : Outcome := ⟨.error, reason, notes⟩

def isValid (o : Outcome) : Bool := o.status == .valid

end Outcome

end BookLinks
