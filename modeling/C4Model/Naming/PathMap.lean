import C4Model.Element.Relationship
import C4Model.Naming.Identifier
import C4Model.Text.Surrogate

/-! Paths of elements: the identifiers from the outermost element down to the element itself, joined by
points. References are resolved by them. An element without a path is no error: it may be declared
elsewhere, and the reference is made of the initials of its name. -/

namespace C4Model.Naming

/-- The paths of the elements that have one. -/
structure PathMap where
  paths : List (Identity × String) := []

namespace PathMap

def path? (map : PathMap) (identity : Identity) : Option String :=
  map.paths.lookup identity

/-- A second path for an element that has one already. -/
structure TwicePlaced where
  identity : Identity
  first : String
  second : String

def TwicePlaced.message (surrogates : Surrogates) (error : TwicePlaced) : String :=
  error.identity.label ++ " (" ++ surrogates.quoted error.identity.name ++ ") registered twice: "
    ++ surrogates.quoted error.first ++ " and " ++ surrogates.quoted error.second

/-- Gives an element its path. -/
def register (map : PathMap) (identity : Identity) (path : String) : Except TwicePlaced PathMap :=
  match map.path? identity with
  | some first => .error ⟨identity, first, path⟩
  | none => .ok ⟨map.paths ++ [(identity, path)]⟩

/-- Gives elements their paths in turn. -/
def registerAll (map : PathMap) : List (Identity × String) → Except TwicePlaced PathMap
  | [] => .ok map
  | (identity, path) :: rest => do
      let map ← map.register identity path
      map.registerAll rest

def size (map : PathMap) : Nat :=
  map.paths.length

/-- The reference to an end as it is written. -/
def resolveEndpoint (map : PathMap) : Endpoint → String
  | .raw text => reference text
  | .identity identity => (map.path? identity).getD (baseIdentifier identity.name)

def resolve (map : PathMap) (ref : Reference) : String :=
  map.resolveEndpoint ref.endpoint

end PathMap

end C4Model.Naming
