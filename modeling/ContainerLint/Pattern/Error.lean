/-!
# Faults of patterns

Why a pattern cannot be used: it breaks a rule of how patterns are written, or it would grow
beyond the space that a pattern may take.
-/

namespace ContainerLint.Pattern

/-- The rules that a badly written pattern breaks. -/
inductive SyntaxFault
  | unclosedGroup | unopenedGroup | unclosedClass | unclosedCount | unclosedEscape
  | lookAround | backReference
  | emptyFlags | unknownFlag | repeatedFlag | danglingNegation
  | badGroupName | repeatedGroupName
  | nothingToRepeat | emptyCount | badCount | countOrder
  | unknownEscape | badHex | badPropertyName | unknownProperty
  | badClassMember | badRange | unknownWordEdge
  | tooDeep
  | needsUnicode | invalidBytes
deriving DecidableEq, Repr

/-- Why a pattern cannot be used. -/
inductive Fault
  | badSyntax (fault : SyntaxFault)
  | tooLarge (limit : Nat)
deriving DecidableEq, Repr

/-- What is said about a faulty pattern. A breach of the rules of writing is only named. -/
def Fault.message : Fault → String
  | .badSyntax _ => "regex parse error:"
  | .tooLarge limit => "Compiled regex exceeds size limit of " ++ toString limit ++ " bytes."

end ContainerLint.Pattern
