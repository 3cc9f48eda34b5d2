import C4Model.Element.Relationship
import C4Model.Text.Blank

/-! The register of placed elements. Elements are registered in the order in which they are placed, each
with the element that holds it, and are found by identity or by name; of several elements with one
name the first is found. -/

namespace C4Model.Hierarchy

/-- Why elements cannot be placed. -/
inductive HierarchyError where
  | duplicate (kind : ElementKind) (element : String)
  | invalidParent (child : String) (expected : ElementKind) (actual : Option ElementKind)
      (parent : String)
  | circular (element : String)
  /-- An element on the way upwards was never registered. -/
  | unregisteredAncestor
  deriving DecidableEq

/-- What was found where a parent was expected. -/
def actualLabel : Option ElementKind → String
  | some kind => kind.label
  | none => "unregistered"

def HierarchyError.message : HierarchyError → String
  | .duplicate kind element =>
      "duplicate element: " ++ kind.label ++ " " ++ element
        ++ " appears more than once in the workspace"
  | .invalidParent child expected actual _ =>
      "invalid parent type for " ++ child ++ ": expected " ++ expected.label ++ ", got "
        ++ actualLabel actual
  | .circular element => "circular relationship detected: " ++ element
  | .unregisteredAncestor => "an ancestor is not registered"

structure Entry where
  element : Element
  parent : Option Identity

/-- Children of one kind: the kind of parent that they need, and what they hold themselves. -/
structure ChildKind (α : Type) where
  expected : ElementKind
  element : α → Element
  held : α → List Element

/-- A child, and then what it holds. -/
def ChildKind.entries {α : Type} (kind : ChildKind α) (parent : Option Identity) (child : α) :
    List Entry :=
  ⟨kind.element child, parent⟩
    :: (kind.held child).map (⟨·, some (kind.element child).identity⟩)

def containerChildren : ChildKind Container :=
  ⟨.softwareSystem, .container, fun container => container.components.map .component⟩

def componentChildren : ChildKind Component :=
  ⟨.container, .component, fun _ => []⟩

/-- A container, and then its components. -/
def containerEntries (parent : Option Identity) (container : Container) : List Entry :=
  containerChildren.entries parent container

/-- A software system, and then all it owns. -/
def systemEntries (system : SoftwareSystem) : List Entry :=
  ⟨.softwareSystem system, none⟩
    :: system.containers.flatMap (containerEntries (some system.identity))

/-- A call that registers an element alone, or one with all it owns. -/
inductive Registration where
  | alone (element : Element) (parent : Option Element)
  | withComponents (container : Container) (parent : Option Element)
  | withContainers (system : SoftwareSystem)

/-- What a call registers, in order. -/
def Registration.entries : Registration → List Entry
  | .alone element parent => [⟨element, parent.map Element.identity⟩]
  | .withComponents container parent => containerEntries (parent.map Element.identity) container
  | .withContainers system => systemEntries system

structure Registry where
  entries : List Entry := []

namespace Registry

def entryOf? (registry : Registry) (identity : Identity) : Option Entry :=
  registry.entries.find? fun entry => entry.element.identity = identity

def register (registry : Registry) (element : Element) (parent : Option Identity) :
    Except HierarchyError Registry :=
  match registry.entryOf? element.identity with
  | some _ => .error (.duplicate element.kind element.name)
  | none => .ok ⟨registry.entries ++ [⟨element, parent⟩]⟩

/-- Registers elements in turn up to the first that is refused. Those before it stay registered. -/
def registerEach (registry : Registry) : List Entry → Registry × Option HierarchyError
  | [] => (registry, none)
  | entry :: rest =>
      match registry.register entry.element entry.parent with
      | .ok registry => registry.registerEach rest
      | .error error => (registry, some error)

/-- Registers elements of which none is refused. -/
def registerAll (registry : Registry) (entries : List Entry) : Except HierarchyError Registry :=
  match registry.registerEach entries with
  | (registry, none) => .ok registry
  | (_, some error) => .error error

/-- The register after calls in turn. A call that is refused halfway leaves what it has registered, and the
next one goes on from there. -/
def after (registry : Registry) : List Registration → Registry
  | [] => registry
  | call :: rest => (registry.registerEach call.entries).1.after rest

/-- The first element registered under a name. -/
def named? (registry : Registry) (name : String) : Option Element :=
  (registry.entries.find? fun entry => entry.element.name == name).map (·.element)

/-- The registered element that a reference stands for. Blanks around a written name do not count. -/
def lookup (registry : Registry) (ref : Reference) : Option Element :=
  match ref.endpoint with
  | .raw text => registry.named? (Text.strip text)
  | .identity identity => (registry.entryOf? identity).map (·.element)

def parentOf (registry : Registry) (identity : Identity) : Option Identity :=
  (registry.entryOf? identity).bind (·.parent)

/-- The elements from `current` upwards, `seen` being those passed on the way. The number bounds the
elements still to be passed; there are no more than registered ones. -/
def walk (registry : Registry) : Nat → List Identity → Option Identity →
    Except HierarchyError (List Element)
  | _, _, none => .ok []
  | 0, _, some _ => .error .unregisteredAncestor
  | bound + 1, seen, some current =>
      match registry.entryOf? current with
      | none => .error .unregisteredAncestor
      | some entry =>
          if current ∈ seen then .error (.circular entry.element.name)
          else (registry.walk bound (current :: seen) entry.parent).map (entry.element :: ·)

/-- The elements that hold an element, nearest first. -/
def ancestors (registry : Registry) (element : Element) : Except HierarchyError (List Element) :=
  registry.walk (registry.entries.length + 2) [element.identity]
    (registry.parentOf element.identity)

/-- Refuses a parent that is the child itself or is held by it. -/
def checkNotWithin (registry : Registry) (child parent : Element) : Except HierarchyError Unit := do
  let above ← registry.ancestors parent
  if (parent :: above).any fun ancestor => ancestor.identity = child.identity then
    throw (.circular child.name)

/-- Whether a reference stands for an element, registered or not. -/
def refersTo (ref : Reference) (element : Element) : Bool :=
  match ref.endpoint with
  | .raw text => Text.strip text == element.name
  | .identity identity => identity = element.identity

/-- The element that a reference to a parent stands for, checked to be of the kind a child needs. -/
def checkedParent (registry : Registry) (child : Element) (ref : Reference)
    (expected : ElementKind) : Except HierarchyError Element := do
  let found := (registry.lookup ref).or (if refersTo ref child then some child else none)
  match found with
  | none => throw (.invalidParent child.name expected none ref.endpoint.name)
  | some parent =>
      registry.checkNotWithin child parent
      if parent.kind = expected then return parent
      else throw (.invalidParent child.name expected (some parent.kind) ref.endpoint.name)

end Registry

end C4Model.Hierarchy
