import C4Model.Proofs.Hierarchy.Renaming
import C4Model.Proofs.Workspace.Success
import C4Model.Proofs.Workspace.Paths

/-! A workspace under other identities. Identities decide what a reference stands for and under which parent
an element is written, and that they do by being equal or not. So a document does not tell tokens, kinds
and numbers of identities, nor does an error, and elements whose identities look alike are told apart. -/

namespace C4Model

open Hierarchy Outline

section Records

variable (r : Identity → Identity)

def View.renamed (view : View) : View :=
  { view with
    element := view.element.map (Reference.renamed r)
    included := view.included.map (Reference.renamed r)
    excluded := view.excluded.map (Reference.renamed r) }

def Workspace.renamed (w : Workspace) : Workspace :=
  { w with
    people := w.people.map (Person.renamed r)
    systems := w.systems.map (SoftwareSystem.renamed r)
    containerDeclarations := w.containerDeclarations.map (Declaration.renamed Container.renamed r)
    componentDeclarations := w.componentDeclarations.map (Declaration.renamed Component.renamed r)
    relationships := w.relationships.map (Relationship.renamed r)
    views := w.views.map (View.renamed r) }

def Placed.renamed (placed : Placed) : Placed :=
  { placed with identity := r placed.identity }

def Named.renamed (named : Named) : Named :=
  { named with toPlaced := named.toPlaced.renamed r }

def Naming.PathMap.renamed (map : Naming.PathMap) : Naming.PathMap :=
  ⟨map.paths.map fun entry => (r entry.1, entry.2)⟩

end Records

def View.identities (view : View) : List Identity :=
  view.element.toList.flatMap Reference.identities ++
    (view.included.flatMap Reference.identities ++ view.excluded.flatMap Reference.identities)

def Hierarchy.Declaration.identities {α : Type} (child : α → List Identity)
    (declaration : Declaration α) : List Identity :=
  child declaration.child ++ declaration.parent.identities

/-- All identities in a workspace, those in its references among them. -/
def Workspace.identities (w : Workspace) : List Identity :=
  w.people.map (·.identity) ++ (w.systems.flatMap SoftwareSystem.identities ++
    (w.containerDeclarations.flatMap (Declaration.identities Container.identities) ++
      (w.componentDeclarations.flatMap (Declaration.identities Component.identities) ++
        (w.relationships.flatMap Relationship.identities ++ w.views.flatMap View.identities))))

section Agreement

variable {r s : Identity → Identity}

theorem View.renamed_congr (view : View)
    (h : ∀ identity ∈ view.identities, r identity = s identity) :
    view.renamed r = view.renamed s := by
  obtain ⟨helement, h⟩ := List.forall_mem_append.mp h
  obtain ⟨hincluded, hexcluded⟩ := List.forall_mem_append.mp h
  have hscope : view.element.map (Reference.renamed r) = view.element.map (Reference.renamed s) := by
    refine Option.map_congr fun ref href => ref.renamed_congr fun identity hidentity => ?_
    exact helement identity (List.mem_flatMap.mpr ⟨ref, Option.mem_toList.mpr href, hidentity⟩)
  rw [renamed, renamed, hscope, map_renamed_congr Reference.renamed_congr hincluded,
    map_renamed_congr Reference.renamed_congr hexcluded]

theorem Hierarchy.Declaration.renamed_congr {α : Type} {identities : α → List Identity}
    {child : (Identity → Identity) → α → α}
    (hchild : ∀ value, (∀ identity ∈ identities value, r identity = s identity) →
      child r value = child s value)
    (declaration : Declaration α)
    (h : ∀ identity ∈ declaration.identities identities, r identity = s identity) :
    declaration.renamed child r = declaration.renamed child s := by
  obtain ⟨hself, hparent⟩ := List.forall_mem_append.mp h
  rw [renamed, renamed, hchild _ hself, declaration.parent.renamed_congr hparent]

theorem Workspace.renamed_congr (w : Workspace)
    (h : ∀ identity ∈ w.identities, r identity = s identity) : w.renamed r = w.renamed s := by
  obtain ⟨hpeople, h⟩ := List.forall_mem_append.mp h
  obtain ⟨hsystems, h⟩ := List.forall_mem_append.mp h
  obtain ⟨hcontainers, h⟩ := List.forall_mem_append.mp h
  obtain ⟨hcomponents, h⟩ := List.forall_mem_append.mp h
  obtain ⟨hrelationships, hviews⟩ := List.forall_mem_append.mp h
  have hmap : w.people.map (Person.renamed r) = w.people.map (Person.renamed s) :=
    List.map_congr_left fun person hmem =>
      person.renamed_congr (hpeople _ (List.mem_map.mpr ⟨person, hmem, rfl⟩))
  have hcontainer := Declaration.renamed_congr (r := r) (s := s) Container.renamed_congr
  have hcomponent := Declaration.renamed_congr (r := r) (s := s) Component.renamed_congr
  rw [renamed, renamed, hmap, map_renamed_congr SoftwareSystem.renamed_congr hsystems,
    map_renamed_congr Relationship.renamed_congr hrelationships,
    map_renamed_congr View.renamed_congr hviews,
    map_renamed_congr hcontainer hcontainers, map_renamed_congr hcomponent hcomponents]

end Agreement

namespace Outline

section Naming

variable (r : Identity → Identity)

mutual

theorem nameTree_renamed (mode : ScopeMode) (parent : Option String) (scope : Naming.Scope)
    (tree : Tree Placed) :
    nameTree mode parent scope (tree.map (Placed.renamed r)) =
      ((nameTree mode parent scope tree).1.map (Named.renamed r),
        (nameTree mode parent scope tree).2) := by
  cases tree with
  | node placed children =>
      cases mode with
      | global => simp only [Tree.map, nameTree, Placed.renamed, Named.renamed, nameForest_renamed]
      | hierarchical =>
          simp only [Tree.map, nameTree, Placed.renamed, Named.renamed, nameForest_renamed]

/-- Identifiers and paths come from names and places only. -/
theorem nameForest_renamed (mode : ScopeMode) (parent : Option String) (scope : Naming.Scope)
    (forest : List (Tree Placed)) :
    nameForest mode parent scope (Tree.mapAll (Placed.renamed r) forest) =
      (Tree.mapAll (Named.renamed r) (nameForest mode parent scope forest).1,
        (nameForest mode parent scope forest).2) := by
  cases forest with
  | nil => rfl
  | cons tree rest =>
      rw [Tree.mapAll, nameForest_cons, nameForest_cons, nameTree_renamed, nameForest_renamed,
        Tree.mapAll]

end

theorem pathMap_renamed (forest : List (Tree Named)) :
    pathMap (Tree.mapAll (Named.renamed r) forest) = (pathMap forest).renamed r := by
  rw [pathMap, elementsOf_mapAll, List.map_map, pathMap, Naming.PathMap.renamed, List.map_map]
  rfl

end Naming

section Attached

variable (r : Renaming) (attachments : Attachments)

theorem ofContainer_renamed (container : Container) :
    ofContainer (attachments.renamed r.map) (container.renamed r.map) =
      (ofContainer attachments container).map (Placed.renamed r.map) := by
  rw [ofContainer, Attachments.componentsOf_renamed, ofContainer, Tree.map, Tree.mapAll_eq,
    List.map_map, List.map_map]
  rfl

theorem ofSystem_renamed (system : SoftwareSystem) :
    ofSystem (attachments.renamed r.map) (system.renamed r.map) =
      (ofSystem attachments system).map (Placed.renamed r.map) := by
  rw [ofSystem, Attachments.containersOf_renamed, ofSystem, Tree.map, Tree.mapAll_eq, List.map_map,
    List.map_map]
  simp only [Function.comp_def, ofContainer_renamed]
  rfl

theorem ofWorkspace_renamed (w : Workspace) :
    ofWorkspace (w.renamed r.map) (attachments.renamed r.map) =
      Tree.mapAll (Placed.renamed r.map) (ofWorkspace w attachments) := by
  rw [Tree.mapAll_eq, ofWorkspace, ofWorkspace, List.map_append, List.map_map, List.map_map]
  simp only [Workspace.renamed, List.map_map, Function.comp_def, ofSystem_renamed]
  rfl

end Attached

end Outline

namespace Naming.PathMap

variable (r : Renaming) (map : PathMap)

theorem path?_renamed (identity : Identity) :
    (map.renamed r.map).path? (r.map identity) = map.path? identity := by
  obtain ⟨paths⟩ := map
  induction paths with
  | nil => rfl
  | cons entry rest ih =>
      obtain ⟨key, path⟩ := entry
      have hkey : (r.map identity == r.map key) = (identity == key) := by
        rw [Bool.eq_iff_iff, beq_iff_eq, beq_iff_eq, r.injective.eq_iff]
      simp only [path?, renamed] at ih
      simp only [path?, renamed, List.map_cons]
      rw [List.lookup_cons, List.lookup_cons, hkey, ih]

theorem resolveEndpoint_renamed (endpoint : Endpoint) :
    (map.renamed r.map).resolveEndpoint (endpoint.renamed r.map) = map.resolveEndpoint endpoint := by
  cases endpoint with
  | raw text => rfl
  | identity who =>
      simp only [Endpoint.renamed, resolveEndpoint, path?_renamed, r.name_map]

theorem resolve_renamed (ref : Reference) :
    (map.renamed r.map).resolve (ref.renamed r.map) = map.resolve ref := by
  rw [resolve, Reference.endpoint_renamed, resolveEndpoint_renamed, resolve]

end Naming.PathMap

namespace View

variable (r : Renaming) (paths : Naming.PathMap)

theorem entryText_renamed (ref : Reference) :
    entryText (paths.renamed r.map) (ref.renamed r.map) = entryText paths ref := by
  cases ref with
  | raw text => rfl
  | identity who => exact paths.resolve_renamed r (.identity who)
  | element e => exact paths.resolve_renamed r (.element e)

theorem item_renamed (view : View) :
    (view.renamed r.map).item (paths.renamed r.map) = view.item paths := by
  have hheader : (view.renamed r.map).header (paths.renamed r.map) = view.header paths := by
    cases helement : view.element <;>
      simp [header, renamed, helement, Naming.PathMap.resolve_renamed]
  have hentries : (view.renamed r.map).entryItems (paths.renamed r.map) = view.entryItems paths := by
    simp only [entryItems, renamed, List.map_map, Function.comp_def, entryText_renamed]
  rw [item, item, hheader, hentries]

theorem renderAll_renamed (width : Int) (views : List View) (styles configuration : String) :
    renderAll width (paths.renamed r.map) (views.map (View.renamed r.map)) styles configuration =
      renderAll width paths views styles configuration := by
  have hitems : (views.map (View.renamed r.map)).mapM (item (paths.renamed r.map)) =
      views.mapM (item paths) := by
    rw [List.mapM_map]
    exact congrArg views.mapM (funext fun view => view.item_renamed r paths)
  rw [renderAll, renderAll, hitems, List.isEmpty_map]

end View

namespace Document

section Trees

variable (r : Identity → Identity)

mutual

theorem treeItem_renamed (tree : Tree Named) : treeItem (tree.map (Named.renamed r)) = treeItem tree := by
  cases tree with
  | node named children =>
      rw [Tree.map, treeItem, forestItems_renamed, treeItem]
      rfl

theorem forestItems_renamed (forest : List (Tree Named)) :
    forestItems (Tree.mapAll (Named.renamed r) forest) = forestItems forest := by
  cases forest with
  | nil => rfl
  | cons tree rest => rw [Tree.mapAll, forestItems, treeItem_renamed, forestItems_renamed, forestItems]

end

end Trees

variable (r : Renaming) (w : Workspace)

theorem modelItem_renamed (forest : List (Tree Named)) (paths : Naming.PathMap) :
    modelItem (w.renamed r.map) (Tree.mapAll (Named.renamed r.map) forest) (paths.renamed r.map) =
      modelItem w forest paths := by
  have hrelationship (relationship : Relationship) :
      relationshipItem (paths.renamed r.map) (relationship.renamed r.map) =
        relationshipItem paths relationship := by
    simp only [relationshipItem, Relationship.renamed, Naming.PathMap.resolveEndpoint_renamed]
  rw [modelItem, modelItem, forestItems_renamed]
  simp only [Workspace.renamed, List.map_map, Function.comp_def, hrelationship]

theorem viewsSection_renamed (paths : Naming.PathMap) :
    viewsSection (w.renamed r.map) (paths.renamed r.map) = viewsSection w paths := by
  have hfragment : viewsFragment (w.renamed r.map) (paths.renamed r.map) = viewsFragment w paths := by
    have hrender := fun styles => View.renderAll_renamed r paths w.settings.indentWidth w.views styles
      (reindented w.settings.indentWidth w.configurationText)
    simp only [viewsFragment, ← hrender]
    rfl
  rw [viewsSection, viewsSection, hfragment]

end Document

namespace Workspace

variable {w : Workspace}

theorem attachments_renamed (r : Renaming) (w : Workspace) :
    (w.renamed r.map).attachments = w.attachments.map (Attachments.renamed r.map) :=
  resolveDeclarations_renamed r w.people w.systems w.containerDeclarations w.componentDeclarations

theorem named_renamed (r : Renaming) (w : Workspace) (attachments : Attachments) :
    (w.renamed r.map).named (attachments.renamed r.map) =
      Tree.mapAll (Named.renamed r.map) (w.named attachments) := by
  rw [named, ofWorkspace_renamed, nameForest_renamed]
  rfl

theorem items_renamed (r : Renaming) (w : Workspace) : (w.renamed r.map).items = w.items := by
  have hrenamed := w.attachments_renamed r
  rw [items, items, hrenamed]
  cases hattachments : w.attachments with
  | error error => rfl
  | ok attachments =>
      rw [hattachments] at hrenamed
      -- An element that is written twice would be named by its identity, but there is none.
      have hpaths := (attachesAs_of_attachments hattachments).registerPaths_named
      have hpaths' := (attachesAs_of_attachments hrenamed).registerPaths_named
      rw [named_renamed, pathMap_renamed] at hpaths'
      simp only [Except.map, Except.mapError, bind, Except.bind, named_renamed, hpaths, hpaths',
        Document.viewsSection_renamed, Document.modelItem_renamed]
      rfl

/-- Elements are told apart by their identities, whatever else of these looks alike. -/
structure NeverConfused (w : Workspace) (attachments : Attachments) : Prop where
  references : ∀ first ∈ w.placed, ∀ second ∈ w.placed, first.identity ≠ second.identity →
    (pathMap (w.named attachments)).resolve (.element first) ≠
      (pathMap (w.named attachments)).resolve (.element second)
  containers : ∀ declaration ∈ w.containerDeclarations, ∀ who,
    declaration.parent.endpoint = .identity who → (who, declaration.child) ∈ attachments.containers
  components : ∀ declaration ∈ w.componentDeclarations, ∀ who,
    declaration.parent.endpoint = .identity who → (who, declaration.child) ∈ attachments.components

end Workspace

theorem Hierarchy.mem_of_attachedTo {α : Type} {kind : ChildKind α} {placed : List Element}
    {declarations : List (Declaration α)} {attached : List (Identity × α)}
    (h : List.Forall₂ (AttachedTo kind placed) declarations attached) {declaration : Declaration α}
    (hmem : declaration ∈ declarations) {who : Identity}
    (hparent : declaration.parent.endpoint = .identity who) : (who, declaration.child) ∈ attached := by
  induction h with
  | nil => cases hmem
  | cons hfirst _ ih =>
      rcases List.mem_cons.mp hmem with rfl | hlater
      · obtain ⟨hchild, parent, -, hidentity, -, hrefers⟩ := hfirst
        have hwho : who = parent.identity := by
          simpa [Registry.refersTo, hparent] using hrefers
        rw [hwho, hidentity, ← hchild]
        exact List.mem_cons_self
      · exact List.mem_cons_of_mem _ (ih hlater)

namespace Workspace

variable {w : Workspace} {attachments : Attachments}

theorem AttachesAs.exists_named (h : w.AttachesAs attachments) {element : Element}
    (helement : element ∈ w.placed) :
    ∃ named ∈ elementsOf (w.named attachments), named.identity = element.identity ∧
      (pathMap (w.named attachments)).resolve (.element element) = named.path := by
  have hidentity : element.identity ∈ (elementsOf (w.named attachments)).map (·.identity) := by
    rw [identities_named]
    exact (h.walked_perm_placed.map _).mem_iff.mpr (List.mem_map_of_mem helement)
  obtain ⟨named, hnamed, hsame⟩ := List.mem_map.mp hidentity
  refine ⟨named, hnamed, hsame, ?_⟩
  rw [Naming.PathMap.resolve, Reference.endpoint, Naming.PathMap.resolveEndpoint, ← hsame,
    h.path?_named hnamed, Option.getD_some]

theorem AttachesAs.neverConfused (h : w.AttachesAs attachments) : w.NeverConfused attachments where
  references first hfirst second hsecond hapart := by
    obtain ⟨named, hnamed, hidentity, hpath⟩ := h.exists_named hfirst
    obtain ⟨named', hnamed', hidentity', hpath'⟩ := h.exists_named hsecond
    intro hsame
    rw [hpath, hpath'] at hsame
    obtain rfl := List.inj_on_of_nodup_map h.distinct_paths hnamed hnamed' hsame
    exact hapart (hidentity.symm.trans hidentity')
  containers _ hmem _ hparent := mem_of_attachedTo h.containers hmem hparent
  components _ hmem _ hparent := mem_of_attachedTo h.components hmem hparent

/-- Under other identities a workspace has the same document or is refused with the same error, as long as
different identities stay different and keep their names. In particular elements are never confused that
look alike in kind, number and name, for they differ if they were issued one after the other. -/
theorem serialize_renamed {w : Workspace} {r : Identity → Identity}
    (hapart : ∀ first ∈ w.identities, ∀ second ∈ w.identities, r first = r second → first = second)
    (hname : ∀ identity ∈ w.identities, (r identity).name = identity.name) :
    (w.renamed r).serialize = w.serialize ∧
      (∀ attachments, w.attachments = .ok attachments → w.NeverConfused attachments) ∧
      ∀ (allocator : Allocator) (steps : List Allocator.Step), (allocator.issue steps).Nodup := by
  obtain ⟨s, hagree⟩ := exists_renaming hapart hname
  refine ⟨?_, fun attachments h => (attachesAs_of_attachments h).neverConfused,
    Allocator.issue_distinct⟩
  rw [w.renamed_congr hagree, serialize, items_renamed s w, serialize]
  rfl

end Workspace

/-! ### Two stores with one name -/

namespace Bookshop

/-- A store that is told apart from others by the token only. -/
def store (token : Nat) : Container where
  identity := ⟨token, .container, 1, "Store"⟩
  name := "Store"
  description := "Holds books"

def storeSteps : List Allocator.Step :=
  [.mint .softwareSystem "Shop", .reset none, .mint .container "Store", .reset none,
    .mint .container "Store"]

def twoStores : Workspace where
  systems := [{ shop with identity := ⟨0, .softwareSystem, 1, "Shop"⟩, containers := [store 1] }]
  containerDeclarations := [⟨store 2, .identity ⟨0, .softwareSystem, 1, "Shop"⟩⟩]
  componentDeclarations := [⟨shelf, .element (.container (store 2))⟩]
  relationships := [⟨.identity (store 1).identity, .identity (store 2).identity, "Sends to", none,
    .synchronous⟩]

/-- The same identities in the opposite order, with numbers that differ. -/
def renumbered (identity : Identity) : Identity :=
  { identity with token := 3 - identity.token, serial := identity.token }

end Bookshop

namespace Workspace

open Bookshop

theorem serialize_twoStores :
    (twoStores.renamed renumbered).serialize = twoStores.serialize ∧
      (∃ text, twoStores.serialize = .ok text) ∧
      ({} : Allocator).issue storeSteps = twoStores.identities.take 3 ∧
      ∃ attachments, twoStores.attachments = .ok attachments ∧
        (pathMap (twoStores.named attachments)).resolve (.element (.container (store 1))) ≠
          (pathMap (twoStores.named attachments)).resolve (.element (.container (store 2))) ∧
        ((store 2).identity, shelf) ∈ attachments.components := by
  obtain ⟨hsame, hconfused, -⟩ :=
    serialize_renamed (w := twoStores) (r := renumbered) (by decide) (by decide)
  have hplaceable : twoStores.Placeable := {
    distinct := by decide
    containerParents := parentsResolve_cons.mpr ⟨⟨_, rfl, rfl⟩, parentsResolve_nil _ _⟩
    componentParents := parentsResolve_cons.mpr ⟨⟨.container (store 2), rfl, rfl⟩, parentsResolve_nil _ _⟩
    viewsScoped := by simp [twoStores] }
  obtain ⟨text, htext⟩ := exists_serialize_iff.mpr ⟨hplaceable, by decide +kernel⟩
  obtain ⟨attachments, hattachments, -⟩ := serialize_eq_ok_iff.mp htext
  have hnever := hconfused attachments hattachments
  refine ⟨hsame, ⟨text, htext⟩, by decide, attachments, hattachments, ?_, ?_⟩
  · exact hnever.references _ (by simp [twoStores, placed, topElements, SoftwareSystem.elements]) _
      (by simp [twoStores, placed, declaredContainers, ChildKind.elements, containerChildren]) (by decide)
  · exact hnever.components ⟨shelf, _⟩ List.mem_cons_self _ rfl

end Workspace

end C4Model
