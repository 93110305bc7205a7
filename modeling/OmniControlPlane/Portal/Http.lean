import Mathlib.Data.Nat.Notation

/-! # How a request fails

A handler throws an `HttpError`, which the entry point of the worker answers with its status and
code, or anything else, which it answers with 500.
-/

namespace OmniControlPlane.Portal

structure HttpError where
  status : ℕ
  code : String
  message : String
deriving DecidableEq, Repr

/-- What a handler can throw. -/
inductive Thrown where
  | http (error : HttpError)
  | other (message : String)
deriving DecidableEq, Repr

/-- The catch of `fetch`: the error that the response carries. -/
def Thrown.response : Thrown → HttpError
  | .http error => error
  | .other _ => ⟨500, "internal_error", "Internal server error"⟩

def throwIf (refused : Prop) [Decidable refused] (error : HttpError) : Except HttpError Unit :=
  if refused then .error error else .ok ()

end OmniControlPlane.Portal
