/-!
# The program's name and version
-/

namespace Parley.Version

/-- The version. -/
def number : String := "0.1.0"

/-- The build. -/
def build : String := "0001"

/-- Version and build in short. -/
def short : String := "v" ++ number ++ "-" ++ build

/-- Name, version and build. -/
def full : String := "chatcanvas " ++ number ++ " (Build " ++ build ++ ")"

end Parley.Version
