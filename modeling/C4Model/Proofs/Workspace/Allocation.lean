import C4Model.Proofs.Workspace.ReadBack

/-! Identifiers as a plain pass over names gives them. With one scope for the whole workspace, the pass goes
through the names of all elements in the order of the document; with a scope for every parent, there is one
pass for each row of siblings, and nothing else in the tree matters to it. The path of an element is made
of the identifiers from the outermost element down to its own. -/

namespace C4Model

open Hierarchy Naming

/-- The identifiers that go to names one after another, from nothing taken. -/
def Naming.allotted (names : List String) : List String :=
  (Scope.allocateAll {} names).1

namespace Tree

variable {α β : Type}

mutual

/-- The rows of siblings that an element holds, each before the rows below its elements. -/
def rowsHeld : Tree α → List (List α)
  | .node _ children =>
      (if children.isEmpty then [] else [children.map value]) ++ rowsBelow children

def rowsBelow : List (Tree α) → List (List α)
  | [] => []
  | tree :: rest => rowsHeld tree ++ rowsBelow rest

end

/-- All rows of siblings, the outermost one first. -/
def rows (forest : List (Tree α)) : List (List α) :=
  forest.map value :: rowsBelow forest

mutual

/-- The identifiers from the outermost element down to each element, joined, in the order of the tree. -/
def addressesIn (identifierOf : α → String) (above : List String) : Tree α → List String
  | .node value children =>
      joinPath (above ++ [identifierOf value]) ::
        addresses identifierOf (above ++ [identifierOf value]) children

def addresses (identifierOf : α → String) (above : List String) : List (Tree α) → List String
  | [] => []
  | tree :: rest => addressesIn identifierOf above tree ++ addresses identifierOf above rest

end

/-! Rows and addresses of a tree with other values at its places -/

mutual

theorem rowsHeld_map (f : α → β) (tree : Tree α) :
    (tree.map f).rowsHeld = tree.rowsHeld.map (List.map f) := by
  cases tree with
  | node held children =>
      have hrow : (children.map (map f)).map value = (children.map value).map f := by
        rw [List.map_map, List.map_map]
        exact List.map_congr_left fun tree _ => tree.value_map f
      rw [map, rowsHeld, rowsHeld, List.map_append, ← rowsBelow_mapAll, mapAll_eq, List.isEmpty_map, hrow]
      cases children.isEmpty <;> rfl

theorem rowsBelow_mapAll (f : α → β) (forest : List (Tree α)) :
    rowsBelow (mapAll f forest) = (rowsBelow forest).map (List.map f) := by
  cases forest with
  | nil => rfl
  | cons tree rest =>
      rw [mapAll, rowsBelow, rowsBelow, rowsHeld_map, rowsBelow_mapAll, List.map_append]

end

theorem rowsBelow_append (first second : List (Tree α)) :
    rowsBelow (first ++ second) = rowsBelow first ++ rowsBelow second := by
  induction first with
  | nil => rfl
  | cons tree rest ih => rw [List.cons_append, rowsBelow, rowsBelow, ih, List.append_assoc]

theorem rowsBelow_map (f : β → Tree α) (list : List β) :
    rowsBelow (list.map f) = list.flatMap fun item => (f item).rowsHeld := by
  induction list with
  | nil => rfl
  | cons item rest ih => rw [List.map_cons, rowsBelow, ih, List.flatMap_cons]

mutual

theorem addressesIn_map {identifierOf : α → String} {f : α → β} {identifierOf' : β → String}
    (hf : ∀ value, identifierOf' (f value) = identifierOf value) (above : List String) (tree : Tree α) :
    addressesIn identifierOf' above (tree.map f) = addressesIn identifierOf above tree := by
  cases tree with
  | node value children => rw [map, addressesIn, addressesIn, hf, addresses_mapAll hf]

theorem addresses_mapAll {identifierOf : α → String} {f : α → β} {identifierOf' : β → String}
    (hf : ∀ value, identifierOf' (f value) = identifierOf value) (above : List String)
    (forest : List (Tree α)) :
    addresses identifierOf' above (mapAll f forest) = addresses identifierOf above forest := by
  cases forest with
  | nil => rfl
  | cons tree rest => rw [mapAll, addresses, addresses, addressesIn_map hf, addresses_mapAll hf]

end

end Tree

namespace Outline

/-- With a scope for every parent, a row of siblings gets its identifiers from one pass over its names. -/
theorem allocateAll_siblings (parent : Option String) (scope : Scope) (forest : List (Tree Placed)) :
    scope.allocateAll (forest.map fun tree => tree.value.name) =
      (identifiers (nameForest .hierarchical parent scope forest).1,
        (nameForest .hierarchical parent scope forest).2) := by
  induction forest generalizing scope with
  | nil => rfl
  | cons tree rest ih =>
      cases tree with
      | node placed children =>
          rw [List.map_cons, Scope.allocateAll_cons, ih, nameForest_cons, nameTree_fst, nameTree_snd]
          rfl

theorem identifiers_siblings (parent : Option String) (forest : List (Tree Placed)) :
    identifiers (nameForest .hierarchical parent {} forest).1 =
      allotted (forest.map fun tree => tree.value.name) := by
  rw [allotted, allocateAll_siblings parent]

theorem isEmpty_nameForest (mode : ScopeMode) (parent : Option String) (scope : Scope)
    (forest : List (Tree Placed)) :
    (nameForest mode parent scope forest).1.isEmpty = forest.isEmpty := by
  cases forest <;> rfl

mutual

theorem rowsHeld_nameTree (parent : Option String) (scope : Scope) (tree : Tree Placed) :
    (nameTree .hierarchical parent scope tree).1.rowsHeld.map (List.map (·.identifier)) =
      tree.rowsHeld.map fun row => allotted (row.map (·.name)) := by
  cases tree with
  | node placed children =>
      have hrow := identifiers_siblings (some (placed.namedIn parent scope).path) children
      rw [identifiers] at hrow
      rw [nameTree_fst, Tree.rowsHeld, Tree.rowsHeld, List.map_append, List.map_append, childScope,
        rowsBelow_nameForest, isEmpty_nameForest]
      cases children.isEmpty with
      | true => rfl
      | false => simpa [Function.comp_def] using hrow

/-- Every row of siblings below the outermost one gets its identifiers from a pass of its own. -/
theorem rowsBelow_nameForest (parent : Option String) (scope : Scope) (forest : List (Tree Placed)) :
    (Tree.rowsBelow (nameForest .hierarchical parent scope forest).1).map (List.map (·.identifier)) =
      (Tree.rowsBelow forest).map fun row => allotted (row.map (·.name)) := by
  cases forest with
  | nil => rfl
  | cons tree rest =>
      rw [nameForest_cons, Tree.rowsBelow, Tree.rowsBelow, List.map_append, List.map_append,
        rowsHeld_nameTree, rowsBelow_nameForest]

end

theorem rows_nameForest (parent : Option String) (forest : List (Tree Placed)) :
    (Tree.rows (nameForest .hierarchical parent {} forest).1).map (List.map (·.identifier)) =
      (Tree.rows forest).map fun row => allotted (row.map (·.name)) := by
  have hrow := identifiers_siblings parent forest
  rw [identifiers] at hrow
  rw [Tree.rows, Tree.rows, List.map_cons, List.map_cons, rowsBelow_nameForest, List.map_map, List.map_map]
  exact congrArg (· :: _) hrow

mutual

theorem allocateAll_tree (parent : Option String) (scope : Scope) (tree : Tree Placed) :
    scope.allocateAll ((elements tree).map (·.name)) =
      ((elements (nameTree .global parent scope tree).1).map (·.identifier),
        (nameTree .global parent scope tree).2) := by
  cases tree with
  | node placed children =>
      rw [elements, List.map_cons, Scope.allocateAll_cons,
        allocateAll_forest (some (placed.namedIn parent scope).path), nameTree_fst, nameTree_snd]
      rfl

/-- With one scope, all elements get their identifiers from one pass over their names. -/
theorem allocateAll_forest (parent : Option String) (scope : Scope) (forest : List (Tree Placed)) :
    scope.allocateAll ((elementsOf forest).map (·.name)) =
      ((elementsOf (nameForest .global parent scope forest).1).map (·.identifier),
        (nameForest .global parent scope forest).2) := by
  cases forest with
  | nil => rfl
  | cons tree rest =>
      rw [elementsOf, List.map_append, Scope.allocateAll_append, allocateAll_tree parent,
        allocateAll_forest parent, nameForest_cons, elementsOf, List.map_append]

end

mutual

theorem addressesIn_of_wellNamed {above : List String} {tree : Tree Named} (h : WellNamedTree above tree) :
    Tree.addressesIn Named.identifier above tree = (elements tree).map (·.path) := by
  cases tree with
  | node named children =>
      obtain ⟨-, hpath, -, hchildren⟩ := h
      rw [Tree.addressesIn, addresses_of_wellNamed hchildren, elements, List.map_cons, hpath]

theorem addresses_of_wellNamed {above : List String} {forest : List (Tree Named)}
    (h : WellNamed above forest) :
    Tree.addresses Named.identifier above forest = (elementsOf forest).map (·.path) := by
  cases forest with
  | nil => rfl
  | cons tree rest =>
      rw [Tree.addresses, addressesIn_of_wellNamed h.1, addresses_of_wellNamed h.2, elementsOf,
        List.map_append]

end

end Outline

namespace Workspace

open Outline

/-- The names in the rows of siblings: the outermost row, and then for every system its containers and the
components of each of them. Rows without elements are left out. -/
def siblingNames (w : Workspace) (attachments : Attachments) : List (List String) :=
  (w.people.map (·.name) ++ w.systems.map (·.name)) ::
    (w.systems.flatMap fun system =>
      (attachments.containersOf system).map (·.name) ::
        (attachments.containersOf system).map fun container =>
          (attachments.componentsOf container).map (·.name)).filter fun row => !row.isEmpty

theorem rowsHeld_ofContainer (attachments : Attachments) (container : Container) :
    (ofContainer attachments container).rowsHeld.map (List.map (·.name)) =
      [(attachments.componentsOf container).map (·.name)].filter fun row => !row.isEmpty := by
  have hleaves : (attachments.componentsOf container).flatMap
      (fun component => (ofComponent component).rowsHeld) = [] :=
    List.flatMap_eq_nil_iff.mpr fun _ _ => rfl
  rw [ofContainer, Tree.rowsHeld, Tree.rowsBelow_map, hleaves, List.append_nil, List.isEmpty_map]
  cases hcomponents : (attachments.componentsOf container).isEmpty with
  | true => simp [List.isEmpty_iff.mp hcomponents]
  | false =>
      simp only [Bool.false_eq_true, if_false, List.map_cons, List.map_nil, List.map_map,
        List.filter_cons, List.isEmpty_map, hcomponents, Bool.not_false, if_true, List.filter_nil]
      rfl

theorem rowsHeld_ofSystem (attachments : Attachments) (system : SoftwareSystem) :
    (ofSystem attachments system).rowsHeld.map (List.map (·.name)) =
      ((attachments.containersOf system).map (·.name) ::
        (attachments.containersOf system).map fun container =>
          (attachments.componentsOf container).map (·.name)).filter fun row => !row.isEmpty := by
  have hbelow : (Tree.rowsBelow ((attachments.containersOf system).map (ofContainer attachments))).map
      (List.map (·.name)) = ((attachments.containersOf system).map fun container =>
        (attachments.componentsOf container).map (·.name)).filter fun row => !row.isEmpty := by
    rw [Tree.rowsBelow_map, List.map_flatMap, List.map_eq_flatMap, List.filter_flatMap]
    exact List.flatMap_congr fun container _ => rowsHeld_ofContainer attachments container
  rw [ofSystem, Tree.rowsHeld, List.map_append, hbelow, List.isEmpty_map]
  cases hcontainers : (attachments.containersOf system).isEmpty with
  | true => simp [List.isEmpty_iff.mp hcontainers]
  | false =>
      rw [List.filter_cons_of_pos (by simpa using hcontainers)]
      simp only [Bool.false_eq_true, if_false, List.map_cons, List.map_nil, List.map_map]
      rfl

/-- The rows of siblings that are written have the names of the workspace's own. -/
theorem rows_ofWorkspace (w : Workspace) (attachments : Attachments) :
    (Tree.rows (ofWorkspace w attachments)).map (List.map (·.name)) = w.siblingNames attachments := by
  have hpeople : w.people.flatMap (fun person => (ofPerson person).rowsHeld) = [] :=
    List.flatMap_eq_nil_iff.mpr fun _ _ => rfl
  have hsystems : (w.systems.flatMap fun system => (ofSystem attachments system).rowsHeld).map
      (List.map (·.name)) = (w.systems.flatMap fun system =>
        (attachments.containersOf system).map (·.name) ::
          (attachments.containersOf system).map fun container =>
            (attachments.componentsOf container).map (·.name)).filter fun row => !row.isEmpty := by
    rw [List.map_flatMap, List.filter_flatMap]
    exact List.flatMap_congr fun system _ => rowsHeld_ofSystem attachments system
  rw [Tree.rows, List.map_cons, ofWorkspace, Tree.rowsBelow_append, Tree.rowsBelow_map, hpeople,
    List.nil_append, Tree.rowsBelow_map, hsystems, siblingNames]
  simp only [List.map_append, List.map_map]
  rfl

variable {w : Workspace} {attachments : Attachments}

theorem allotted_of_global (hglobal : w.settings.identifierScope = .global) :
    (elementsOf (w.named attachments)).map (·.identifier) =
      allotted ((w.walked attachments).map Element.name) := by
  have hpass := allocateAll_forest none {} (ofWorkspace w attachments)
  have hplaces := elementsOf_nameForest .global none {} (ofWorkspace w attachments)
  have hnames : (elementsOf (ofWorkspace w attachments)).map (·.name) =
      (w.walked attachments).map Element.name := by
    rw [← w.names_named, named, hglobal, ← hplaces, List.map_map]
    rfl
  rw [allotted, ← hnames, hpass, named, hglobal]

theorem allotted_of_hierarchical (hhierarchical : w.settings.identifierScope = .hierarchical) :
    (Tree.rows (w.named attachments)).map (List.map (·.identifier)) =
      (w.siblingNames attachments).map allotted := by
  rw [named, hhierarchical, rows_nameForest, ← rows_ofWorkspace, List.map_map]
  rfl

/-- The identifiers of a document are those that plain passes over names give: one pass over all names, or
one over each row of siblings. The paths that references are resolved by come from these identifiers. -/
theorem identifiers_allotted {text : String} (h : w.serialize = .ok text) :
    ∃ attachments contents, w.attachments = .ok attachments ∧ Reading.decode text = some contents ∧
      contents.declarations.map (Tree.map Reading.Declared.described) =
        w.people.map Person.described ++ w.systems.map (SoftwareSystem.described attachments) ∧
      (w.settings.identifierScope = .global →
        (elementsOf contents.declarations).map (·.identifier) =
          allotted ((w.walked attachments).map Element.name)) ∧
      (w.settings.identifierScope = .hierarchical →
        (Tree.rows contents.declarations).map (List.map (·.identifier)) =
          (w.siblingNames attachments).map allotted) ∧
      ∃ paths, registerPaths (w.named attachments) = .ok paths ∧
        paths.paths.map Prod.fst = (w.walked attachments).map Element.identity ∧
        paths.paths.map Prod.snd =
          Tree.addresses Reading.Declared.identifier [] contents.declarations := by
  obtain ⟨attachments, hattachments, hdecode⟩ := decode_of_serialize h
  have hattaches := attachesAs_of_attachments hattachments
  have hdeclarations : (w.contents attachments).declarations =
      Tree.mapAll Named.declared (w.named attachments) := (Tree.mapAll_eq _ _).symm
  refine ⟨attachments, w.contents attachments, hattachments, hdecode, w.described_contents attachments,
    fun hglobal => ?_, fun hhierarchical => ?_, _, hattaches.registerPaths_named, ?_, ?_⟩
  · rw [hdeclarations, elementsOf_mapAll, List.map_map]
    exact allotted_of_global hglobal
  · rw [← allotted_of_hierarchical hhierarchical, Tree.rows, Tree.rows, hdeclarations,
      Tree.rowsBelow_mapAll, Tree.mapAll_eq, List.map_map, List.map_cons, List.map_cons, List.map_map,
      List.map_map, List.map_map]
    refine congrArg₂ List.cons (List.map_congr_left fun tree _ => ?_) (List.map_congr_left fun row _ => ?_)
    · exact congrArg Reading.Declared.identifier (tree.value_map Named.declared)
    · exact List.map_map
  · rw [pathMap, List.map_map, ← identities_named]
    rfl
  · have haddresses : Tree.addresses Reading.Declared.identifier [] (w.contents attachments).declarations =
        (elementsOf (w.named attachments)).map (·.path) := by
      rw [hdeclarations, ← addresses_of_wellNamed (w.wellNamed_named attachments)]
      exact Tree.addresses_mapAll (fun _ => rfl) _ _
    rw [haddresses, pathMap, List.map_map]
    rfl

end Workspace

namespace Bookshop

/-- The bookshop with one scope for all its identifiers. -/
def flat : Workspace :=
  { workspace with settings := { identifierScope := .global } }

theorem flat_placeable : flat.Placeable :=
  ⟨placeable.distinct, placeable.containerParents, placeable.componentParents, placeable.viewsScoped⟩

end Bookshop

namespace Workspace

open Outline in
/-- The system, its container and its component have one initial. Each of them keeps it in a row of its own;
with one scope they are told apart by numbers. -/
theorem identifiers_allotted_bookshop :
    (∃ text contents, Bookshop.workspace.serialize = .ok text ∧ Reading.decode text = some contents ∧
      (Tree.rows contents.declarations).map (List.map (·.identifier)) = [["r", "s"], ["s"], ["s"]]) ∧
    ∃ text contents, Bookshop.flat.serialize = .ok text ∧ Reading.decode text = some contents ∧
      (elementsOf contents.declarations).map (·.identifier) = ["r", "s", "s1", "s2"] := by
  constructor
  · obtain ⟨text, htext⟩ := Bookshop.exists_document
    obtain ⟨attachments, contents, hattachments, hdecode, -, -, hrows, -⟩ := identifiers_allotted htext
    obtain rfl := Except.ok.inj (Bookshop.attachments_eq.symm.trans hattachments)
    exact ⟨text, contents, htext, hdecode, (hrows rfl).trans (by decide)⟩
  · obtain ⟨text, htext⟩ := exists_serialize_iff.mpr ⟨Bookshop.flat_placeable, by decide +kernel⟩
    obtain ⟨attachments, contents, hattachments, hdecode, -, helements, -⟩ := identifiers_allotted htext
    obtain rfl := Except.ok.inj (Bookshop.attachments_eq.symm.trans hattachments)
    exact ⟨text, contents, htext, hdecode, (helements rfl).trans (by decide)⟩

end Workspace

end C4Model
