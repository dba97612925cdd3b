import Provision.Text.Basic

namespace Provision

/-!
# Names

Names are compared exactly, by the order of their characters or bytes, or with
the case of ASCII letters left out. A set of names is kept in ascending order,
each name once.
-/

namespace Name

/-- A name with its ASCII letters in lower case. -/
def asciiFolded (name : String) : Text :=
  name.toList.map Char.toLower

/-- Whether two names differ at most in the case of ASCII letters. -/
def sameIgnoringCase (left right : String) : Bool :=
  asciiFolded left == asciiFolded right

end Name

section Sorting

variable {α : Type} [LT α] [DecidableLT α] [DecidableEq α]

/-- Put a name into its place in an ascending list, unless it is there. -/
def insertName (name : α) : List α → List α
  | [] => [name]
  | other :: rest =>
      if name < other then
        name :: other :: rest
      else if name = other then
        other :: rest
      else
        other :: insertName name rest

/-- The names of a list in ascending order, each once. -/
def sortedNames (names : List α) : List α :=
  names.foldr insertName []

end Sorting

end Provision
