import C4Model.Hierarchy.Registry

/-! Children that are declared for a parent by reference, instead of being owned by it. All declarations
are checked before anything is written: those of containers first, so that a component may be declared
for a declared container. -/

namespace C4Model.Hierarchy

/-- A child with the reference to its declared parent. -/
structure Declaration (α : Type) where
  child : α
  parent : Reference

/-- The declared children, each with the identity of its parent, in the order of declaration. -/
structure Attachments where
  containers : List (Identity × Container) := []
  components : List (Identity × Component) := []

/-- The children attached to one parent. -/
def childrenOf {α : Type} (attached : List (Identity × α)) (parent : Identity) : List α :=
  attached.filterMap fun (identity, child) => if identity = parent then some child else none

namespace Attachments

/-- The containers that a system owns and then those declared for it. -/
def containersOf (attachments : Attachments) (system : SoftwareSystem) : List Container :=
  system.containers ++ childrenOf attachments.containers system.identity

/-- The components that a container owns and then those declared for it. -/
def componentsOf (attachments : Attachments) (container : Container) : List Component :=
  container.components ++ childrenOf attachments.components container.identity

end Attachments

/-- Checks declarations of children of one kind in turn, and registers the children with all they
hold. -/
def attach {α : Type} (kind : ChildKind α) (registry : Registry) : List (Declaration α) →
    Except HierarchyError (Registry × List (Identity × α))
  | [] => .ok (registry, [])
  | declaration :: rest => do
      let child := declaration.child
      let parent ← registry.checkedParent (kind.element child) declaration.parent kind.expected
      let registry ← registry.registerAll (kind.entries (some parent.identity) child)
      let (registry, others) ← attach kind registry rest
      return (registry, (parent.identity, child) :: others)

/-- Checks that all elements can be placed, each once, and finds the place of every declared child. -/
def resolveDeclarations (people : List Person) (systems : List SoftwareSystem)
    (containers : List (Declaration Container)) (components : List (Declaration Component)) :
    Except HierarchyError Attachments := do
  let entries := people.map (⟨.person ·, none⟩) ++ systems.flatMap systemEntries
  let registry ← ({} : Registry).registerAll entries
  let (registry, containers) ← attach containerChildren registry containers
  let (_, components) ← attach componentChildren registry components
  return { containers, components }

end C4Model.Hierarchy
