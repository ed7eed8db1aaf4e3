/-!
# The version of the program

Both the command line and the language server tell it.
-/

namespace ContainerLint

/-- The version of the program. -/
def programVersion : String := "0.3.0"

end ContainerLint
