namespace Scripting

/-!
# Cancellation

The context of a run may be done at any moment, because the run is cancelled or has taken too long.
A run takes notice only where it looks at its context, so all that counts is which looks find the
context done.
-/

/-- Why a context is done. -/
inductive ContextError where
  | canceled
  | deadlineExceeded
  deriving Repr, DecidableEq

namespace ContextError

/-- The wording of an error. -/
def message : ContextError → String
  | .canceled => "context canceled"
  | .deadlineExceeded => "context deadline exceeded"

end ContextError

/-- When a context is done and why, told by how often the run has looked at it and how many lines
the run has printed.  A context that is done stays done. -/
structure Cancellation where
  reason : ContextError
  happened : (looks lines : Nat) → Bool
  lasts :
    ∀ {looks later lines more : Nat}, looks ≤ later → lines ≤ more →
      happened looks lines = true → happened later more = true

namespace Cancellation

/-- A context that is never done. -/
def never : Cancellation where
  reason := .canceled
  happened := fun _ _ => false
  lasts := fun _ _ isDone => isDone

/-- A context that is cancelled right after a number of lines. -/
def afterLines (count : Nat) : Cancellation where
  reason := .canceled
  happened := fun _ lines => count ≤ lines
  lasts := fun _ more isDone =>
    decide_eq_true (Nat.le_trans (of_decide_eq_true isDone) more)

/-- A context that is cancelled while nothing is being printed: right before the look at it that
comes after a number of looks. -/
def afterLooks (count : Nat) : Cancellation where
  reason := .canceled
  happened := fun looks _ => count ≤ looks
  lasts := fun later _ isDone =>
    decide_eq_true (Nat.le_trans (of_decide_eq_true isDone) later)

/-- A context that is cancelled right after a number of lines, or never. -/
def ofLines? : Option Nat → Cancellation
  | some count => .afterLines count
  | none => .never

instance : Coe (Option Nat) Cancellation :=
  ⟨ofLines?⟩

end Cancellation

end Scripting
