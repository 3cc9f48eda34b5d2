import C4Model.Proofs.Workspace.Walk

/-! The tree of the elements that are written, once they have identifiers and paths. Naming keeps every
element at its place, so the elements of the named tree are the placed ones and no path is registered
for an element that has one. -/

namespace C4Model

open Hierarchy

namespace Tree

variable {α β : Type}

def value : Tree α → α
  | .node value _ => value

def children : Tree α → List (Tree α)
  | .node _ children => children

mutual

/-- The tree with other values at its places. -/
def map (f : α → β) : Tree α → Tree β
  | .node value children => .node (f value) (mapAll f children)

def mapAll (f : α → β) : List (Tree α) → List (Tree β)
  | [] => []
  | tree :: rest => tree.map f :: mapAll f rest

end

theorem mapAll_eq (f : α → β) (forest : List (Tree α)) : mapAll f forest = forest.map (map f) := by
  induction forest with
  | nil => rfl
  | cons tree rest ih => rw [mapAll, ih, List.map_cons]

theorem value_map (f : α → β) (tree : Tree α) : (tree.map f).value = f tree.value := by
  cases tree
  rfl

theorem children_map (f : α → β) (tree : Tree α) :
    (tree.map f).children = tree.children.map (map f) := by
  cases tree
  exact mapAll_eq f _

end Tree

/-- The element with what a scope gives to it. -/
def Placed.namedIn (placed : Placed) (parent : Option String) (scope : Naming.Scope) : Named where
  toPlaced := placed
  identifier := (scope.allocate placed.name).1
  path := Outline.pathUnder parent (scope.allocate placed.name).1

/-- The technology in the line of an element. Only components have one there. -/
def Element.writtenTechnology : Element → Option String
  | .component e => e.technology
  | _ => none

/-- What is written of an element, with its identity. -/
def Element.facts (element : Element) : Identity × String × String × Option String :=
  (element.identity, element.name, element.description, element.writtenTechnology)

def Placed.facts (placed : Placed) : Identity × String × String × Option String :=
  (placed.identity, placed.name, placed.description, placed.technology)

namespace Outline

variable {α : Type}

/-- The scope that the children of an element begin with, from the scope after the element. -/
def childScope (mode : ScopeMode) (scope : Naming.Scope) : Naming.Scope :=
  match mode with
  | .global => scope
  | .hierarchical => {}

theorem elementsOf_append (first second : List (Tree α)) :
    elementsOf (first ++ second) = elementsOf first ++ elementsOf second := by
  induction first with
  | nil => rfl
  | cons tree rest ih => simp only [List.cons_append, elementsOf, ih, List.append_assoc]

theorem elementsOf_map {β : Type} (f : β → Tree α) (list : List β) :
    elementsOf (list.map f) = list.flatMap fun item => elements (f item) := by
  induction list with
  | nil => rfl
  | cons item rest ih => simp only [List.map_cons, elementsOf, ih, List.flatMap_cons]

theorem elementsOf_map_leaf {β : Type} (value : β → α) (list : List β) :
    elementsOf (list.map fun item => .node (value item) []) = list.map value := by
  rw [elementsOf_map, List.map_eq_flatMap]
  rfl

theorem nameTree_fst (mode : ScopeMode) (parent : Option String) (scope : Naming.Scope)
    (placed : Placed) (children : List (Tree Placed)) :
    (nameTree mode parent scope (.node placed children)).1 =
      .node (placed.namedIn parent scope)
        (nameForest mode (some (placed.namedIn parent scope).path)
          (childScope mode (scope.allocate placed.name).2) children).1 := by
  cases mode <;> rfl

theorem nameTree_snd (mode : ScopeMode) (parent : Option String) (scope : Naming.Scope)
    (placed : Placed) (children : List (Tree Placed)) :
    (nameTree mode parent scope (.node placed children)).2 =
      match mode with
      | .global => (nameForest .global (some (placed.namedIn parent scope).path)
          (scope.allocate placed.name).2 children).2
      | .hierarchical => (scope.allocate placed.name).2 := by
  cases mode <;> rfl

theorem nameForest_cons (mode : ScopeMode) (parent : Option String) (scope : Naming.Scope)
    (tree : Tree Placed) (rest : List (Tree Placed)) :
    nameForest mode parent scope (tree :: rest) =
      ((nameTree mode parent scope tree).1 ::
          (nameForest mode parent (nameTree mode parent scope tree).2 rest).1,
        (nameForest mode parent (nameTree mode parent scope tree).2 rest).2) := rfl

mutual

theorem elements_map {β : Type} (f : α → β) (tree : Tree α) :
    elements (tree.map f) = (elements tree).map f := by
  cases tree with
  | node value children => rw [Tree.map, elements, elementsOf_mapAll, elements, List.map_cons]

theorem elementsOf_mapAll {β : Type} (f : α → β) (forest : List (Tree α)) :
    elementsOf (Tree.mapAll f forest) = (elementsOf forest).map f := by
  cases forest with
  | nil => rfl
  | cons tree rest =>
      rw [Tree.mapAll, elementsOf, elements_map, elementsOf_mapAll, elementsOf, List.map_append]

end

mutual

theorem map_nameTree (mode : ScopeMode) (parent : Option String) (scope : Naming.Scope)
    (tree : Tree Placed) : (nameTree mode parent scope tree).1.map Named.toPlaced = tree := by
  cases tree with
  | node placed children =>
      rw [nameTree_fst, Tree.map, mapAll_nameForest]
      rfl

/-- Naming keeps every element at its place. -/
theorem mapAll_nameForest (mode : ScopeMode) (parent : Option String) (scope : Naming.Scope)
    (forest : List (Tree Placed)) :
    Tree.mapAll Named.toPlaced (nameForest mode parent scope forest).1 = forest := by
  cases forest with
  | nil => rfl
  | cons tree rest => rw [nameForest_cons, Tree.mapAll, map_nameTree, mapAll_nameForest]

end

theorem elementsOf_nameForest (mode : ScopeMode) (parent : Option String) (scope : Naming.Scope)
    (forest : List (Tree Placed)) :
    (elementsOf (nameForest mode parent scope forest).1).map Named.toPlaced =
      elementsOf forest := by
  rw [← elementsOf_mapAll, mapAll_nameForest]

/-! What is written of an element is what the element says itself. -/

theorem elements_ofSystem (attachments : Attachments) (system : SoftwareSystem) :
    (elements (ofSystem attachments system)).map Placed.facts =
      (.softwareSystem system :: (attachments.containersOf system).flatMap fun container =>
        .container container ::
          (attachments.componentsOf container).map .component : List Element).map Element.facts := by
  have hcontainer : ∀ container, (elements (ofContainer attachments container)).map Placed.facts =
      Element.facts (.container container) ::
        (attachments.componentsOf container).map fun component => Element.facts (.component component) := by
    intro container
    have hcomponents := elementsOf_map_leaf (fun component : Component =>
      (⟨component.identity, .component, component.name, component.description,
        component.technology, false⟩ : Placed)) (attachments.componentsOf container)
    rw [ofContainer, elements, List.map_cons]
    refine congrArg (Element.facts (.container container) :: ·) ((congrArg _ hcomponents).trans ?_)
    rw [List.map_map]
    rfl
  simp only [ofSystem, elements, elementsOf_map, List.map_cons, List.map_flatMap, hcontainer,
    List.map_map]
  rfl

theorem elementsOf_ofWorkspace (w : Workspace) (attachments : Attachments) :
    (elementsOf (ofWorkspace w attachments)).map Placed.facts =
      (w.walked attachments).map Element.facts := by
  have hpeople : elementsOf (w.people.map ofPerson) = _ := elementsOf_map_leaf _ w.people
  simp only [ofWorkspace, Workspace.walked, elementsOf_append, hpeople, elementsOf_map,
    List.map_append, List.map_flatMap, elements_ofSystem, List.map_map]
  rfl

theorem keys_pathMap (forest : List (Tree Named)) :
    (pathMap forest).paths.map Prod.fst = (elementsOf forest).map (·.identity) := by
  rw [pathMap, List.map_map]
  rfl

end Outline

namespace Workspace

variable {w : Workspace} {attachments : Attachments}

theorem facts_named (w : Workspace) (attachments : Attachments) :
    (Outline.elementsOf (w.named attachments)).map (fun named => named.toPlaced.facts) =
      (w.walked attachments).map Element.facts := by
  have hplaces := Outline.elementsOf_nameForest w.settings.identifierScope none {}
    (Outline.ofWorkspace w attachments)
  rw [← Outline.elementsOf_ofWorkspace, ← hplaces, List.map_map]
  rfl

theorem identities_and_names_named (w : Workspace) (attachments : Attachments) :
    (Outline.elementsOf (w.named attachments)).map (fun named => (named.identity, named.name)) =
      (w.walked attachments).map fun element => (element.identity, element.name) := by
  have hfacts := congrArg (List.map fun facts => (facts.1, facts.2.1)) (w.facts_named attachments)
  rw [List.map_map, List.map_map] at hfacts
  exact hfacts

theorem identities_named (w : Workspace) (attachments : Attachments) :
    (Outline.elementsOf (w.named attachments)).map (·.identity) =
      (w.walked attachments).map Element.identity := by
  have hboth := congrArg (List.map Prod.fst) (w.identities_and_names_named attachments)
  rw [List.map_map, List.map_map] at hboth
  exact hboth

theorem names_named (w : Workspace) (attachments : Attachments) :
    (Outline.elementsOf (w.named attachments)).map (·.name) =
      (w.walked attachments).map Element.name := by
  have hboth := congrArg (List.map Prod.snd) (w.identities_and_names_named attachments)
  rw [List.map_map, List.map_map] at hboth
  exact hboth

theorem AttachesAs.distinct_named (h : w.AttachesAs attachments) :
    ((Outline.elementsOf (w.named attachments)).map (·.identity)).Nodup := by
  rw [identities_named]
  exact h.distinct_walked

theorem AttachesAs.registerPaths_named (h : w.AttachesAs attachments) :
    Outline.registerPaths (w.named attachments) = .ok (Outline.pathMap (w.named attachments)) := by
  have hdistinct := h.distinct_named
  rw [← Outline.keys_pathMap] at hdistinct
  exact Naming.PathMap.registerAll_of_nodup hdistinct

end Workspace

end C4Model
