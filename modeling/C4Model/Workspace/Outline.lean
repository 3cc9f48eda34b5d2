import C4Model.Naming.PathMap
import C4Model.Naming.Scope
import C4Model.Workspace.Basic

/-! The tree of the elements that are written out, and how they get their identifiers and paths. The
elements with one parent get their identifiers in order. In the hierarchical mode every parent opens a
scope of its own; in the global mode one scope goes through the whole tree, each element coming before
its children. -/

namespace C4Model

/-- A value with the trees below it. -/
inductive Tree (α : Type) where
  | node (value : α) (children : List (Tree α))

/-- The words that declare elements. -/
inductive Keyword where
  | person
  | softwareSystem
  | container
  | component
  deriving DecidableEq

def Keyword.text : Keyword → String
  | .person => "person"
  | .softwareSystem => "softwareSystem"
  | .container => "container"
  | .component => "component"

/-- What is written of an element, but for its identifier. -/
structure Placed where
  identity : Identity
  keyword : Keyword
  name : String
  description : String
  technology : Option String := none
  external : Bool := false

/-- A placed element with its identifier and its path. -/
structure Named extends Placed where
  identifier : String
  path : String

namespace Outline

open Hierarchy

def ofPerson (person : Person) : Tree Placed :=
  .node ⟨person.identity, .person, person.name, person.description, none,
    person.location = .external⟩ []

def ofComponent (component : Component) : Tree Placed :=
  .node ⟨component.identity, .component, component.name, component.description,
    component.technology, false⟩ []

def ofContainer (attachments : Attachments) (container : Container) : Tree Placed :=
  .node ⟨container.identity, .container, container.name, container.description, none, false⟩
    ((attachments.componentsOf container).map ofComponent)

def ofSystem (attachments : Attachments) (system : SoftwareSystem) : Tree Placed :=
  .node ⟨system.identity, .softwareSystem, system.name, system.description, none,
      system.location = .external⟩
    ((attachments.containersOf system).map (ofContainer attachments))

/-- The elements of a workspace: people first, then systems with all they hold. -/
def ofWorkspace (w : Workspace) (attachments : Attachments) : List (Tree Placed) :=
  w.people.map ofPerson ++ w.systems.map (ofSystem attachments)

/-- The path of an element under a parent, or of one without a parent. -/
def pathUnder (parent : Option String) (identifier : String) : String :=
  match parent with
  | none => identifier
  | some path => Naming.joinPath [path, identifier]

mutual

/-- Gives identifiers to an element and all it holds. -/
def nameTree (mode : ScopeMode) (parent : Option String) (scope : Naming.Scope) :
    Tree Placed → Tree Named × Naming.Scope
  | .node placed children =>
      let (identifier, scope) := scope.allocate placed.name
      let path := pathUnder parent identifier
      let named : Named := { placed with identifier, path }
      match mode with
      | .global =>
          let (children, scope) := nameForest mode (some path) scope children
          (.node named children, scope)
      | .hierarchical =>
          let (children, _) := nameForest mode (some path) {} children
          (.node named children, scope)

/-- Gives identifiers to elements in a row and to all they hold. -/
def nameForest (mode : ScopeMode) (parent : Option String) (scope : Naming.Scope) :
    List (Tree Placed) → List (Tree Named) × Naming.Scope
  | [] => ([], scope)
  | tree :: rest =>
      let (tree, scope) := nameTree mode parent scope tree
      let (others, scope) := nameForest mode parent scope rest
      (tree :: others, scope)

end

mutual

/-- The elements of a tree, each before what it holds. -/
def elements {α : Type} : Tree α → List α
  | .node value children => value :: elementsOf children

def elementsOf {α : Type} : List (Tree α) → List α
  | [] => []
  | tree :: rest => elements tree ++ elementsOf rest

end

/-- The paths of all elements of the trees. -/
def pathMap (forest : List (Tree Named)) : Naming.PathMap :=
  ⟨(elementsOf forest).map fun named => (named.identity, named.path)⟩

/-- The paths of all elements of the trees, unless an element is placed twice. -/
def registerPaths (forest : List (Tree Named)) :
    Except Naming.PathMap.TwicePlaced Naming.PathMap :=
  Naming.PathMap.registerAll {} (pathMap forest).paths

end Outline

end C4Model
