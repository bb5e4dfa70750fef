import Parley.Text.Blank
import Parley.Text.Ascii

/-!
# Who wrote a message
-/

namespace Parley

/-- The author of a message: the user, the assistant, or neither. -/
inductive Role where
  | user
  | agent
  | system
  deriving DecidableEq, Repr, Inhabited

namespace Role

/-- The name of a role. -/
def name : Role → String
  | .user => "user"
  | .agent => "agent"
  | .system => "system"

/-- The role that a server names, without regard to case and blanks around. The assistant has
two names; an unknown one is neither user nor assistant. -/
def ofWire (s : String) : Role :=
  match Text.lower (Text.trim s) with
  | "user" => .user
  | "assistant" => .agent
  | "agent" => .agent
  | _ => .system

/-- The roles under their names. -/
def byName : List (String × Role) := [("user", .user), ("agent", .agent), ("system", .system)]

end Role

end Parley
