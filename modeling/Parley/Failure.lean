import Parley.Json.Fault

/-!
# What can go wrong

Every failure is a cause with what is known about it; the wording is in `Failure.message`.
Causes are told apart by how they reach the user: some raise a banner above the input, with
one of three kinds; the others are dealt with where they arise.
-/

namespace Parley

/-- A failure. -/
inductive Failure where
  /-- No usable exchange with the server took place. -/
  | network (reason : String)
  /-- The server answered with a status that is not a success. -/
  | status (code : Nat) (reason : String)
  /-- An exchange took place, but what came back is of no use. -/
  | malformed (reason : String)
  /-- The assistant itself reported an error. -/
  | service (reason : String)
  /-- Input was refused before anything was sent. -/
  | validation (reason : String)
  /-- One artifact cannot be drawn. -/
  | rendering (reason : String)
  /-- The saved session cannot be read or written. -/
  | storage (reason : String)
  /-- A setting is not usable. -/
  | settings (reason : String)
  /-- The file system refused. -/
  | files (reason : String)
  /-- A text is not the JSON it should be. -/
  | json (error : Json.ReadError)
  deriving Repr, BEq

/-- How a failure is shown above the input. -/
inductive BannerKind where
  | network
  | malformed
  | service
  deriving DecidableEq, Repr

namespace Failure

/-- The wording of a failure. -/
def message : Failure → String
  | .network r => "Network error: " ++ r
  | .status code r => "Server error " ++ String.ofList (Text.decimal code) ++ ": " ++ r
  | .malformed r => "Malformed response: " ++ r
  | .service r => "Assistant error: " ++ r
  | .validation r => "Validation error: " ++ r
  | .rendering r => "Render error: " ++ r
  | .storage r => "Storage error: " ++ r
  | .settings r => "Configuration error: " ++ r
  | .files r => "IO error: " ++ r
  | .json e => "JSON serialization error: " ++ e.message

/-- The banner a failure raises, if it is one that is shown to the user. -/
def bannerKind? : Failure → Option BannerKind
  | .network _ | .status _ _ => some .network
  | .malformed _ => some .malformed
  | .service _ => some .service
  | _ => none

end Failure

end Parley
