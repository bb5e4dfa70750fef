/-!
# Variables of the environment

Names and their values, as the program finds them when it starts. The program asks for a variable
as a text. Where its value is not Unicode there is none to be had, and the program goes on as if
the variable were not set; so a variable like that has no entry here.
-/

namespace Parley

/-- Variables under their names. The first entry of a name is the one that counts. -/
structure Environment where
  entries : List (String × String)
  deriving DecidableEq, Repr, Inhabited

namespace Environment

/-- No variables. -/
def empty : Environment := ⟨[]⟩

/-- The value of a variable, if it is set and a text. -/
def get? (env : Environment) (name : String) : Option String :=
  (env.entries.find? (·.1 == name)).map (·.2)

/-- Adds a variable unless there is one of its name. -/
def insertNew (env : Environment) (name value : String) : Environment :=
  if (env.get? name).isSome then env else ⟨env.entries ++ [(name, value)]⟩

/-- Gives a variable a value, whatever it had before. -/
def insert (env : Environment) (name value : String) : Environment :=
  ⟨(name, value) :: env.entries.filter (·.1 != name)⟩

/-- Removes a variable. -/
def erase (env : Environment) (name : String) : Environment :=
  ⟨env.entries.filter (·.1 != name)⟩

end Environment

end Parley
