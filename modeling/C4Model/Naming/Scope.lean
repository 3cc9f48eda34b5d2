import C4Model.Naming.Identifier
import C4Model.Text.Quoted

/-! Scopes of identifiers. Within a scope no identifier is given out twice: if the one asked for is
taken, the first free one of those with a number after it is given. -/

namespace C4Model.Naming

/-- The base itself for zero, else the base with the number after it. -/
def numbered (base : String) : Nat → String
  | 0 => base
  | n + 1 => base ++ toString (n + 1)

/-- The first of `base`, `base1`, `base2`, … that is not taken. Among one more candidates than there
are taken identifiers one is free, so the last one is never passed over. -/
def firstFree (base : String) (taken : List String) : String :=
  let candidates := (List.range (taken.length + 1)).map (numbered base)
  (candidates.find? fun candidate => !taken.contains candidate).getD (numbered base taken.length)

/-- The identifiers given out, latest first, under the name of what they identify. -/
structure Scope where
  label : String := "workspace"
  taken : List String := []

namespace Scope

/-- Gives an identifier to an element of the given name. -/
def allocate (scope : Scope) (name : String) : String × Scope :=
  let chosen := firstFree (baseIdentifier name) scope.taken
  (chosen, { scope with taken := chosen :: scope.taken })

def contains (scope : Scope) (text : String) : Bool :=
  scope.taken.contains text

/-- How many identifiers are taken. -/
def size (scope : Scope) : Nat :=
  scope.taken.length

/-- Gives identifiers to several names in turn. -/
def allocateAll (scope : Scope) : List String → List String × Scope
  | [] => ([], scope)
  | name :: rest =>
      let (chosen, scope) := scope.allocate name
      let (others, scope) := scope.allocateAll rest
      (chosen :: others, scope)

/-- The identifiers taken, in the order of their characters. -/
def sorted (scope : Scope) : List String :=
  scope.taken.mergeSort fun a b => a ≤ b

/-- The scope as a message shows it. -/
def shown (scope : Scope) : String :=
  "IdentifierScope(" ++ Text.quoted scope.label ++ ", used=["
    ++ String.intercalate ", " (scope.sorted.map Text.quoted) ++ "])"

end Scope

end C4Model.Naming
