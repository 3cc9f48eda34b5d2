import C4Model.Proofs.Workspace.Growth
import C4Model.Proofs.Workspace.Success

/-! What the block of a system depends on. With a scope for every parent, the identifiers below a system come
from its own children alone. So two documents with the same system write the same lines inside its block,
and the paths of what it holds differ in their first identifier at most. -/

namespace C4Model

open Hierarchy Layout Outline

namespace Outline

mutual

theorem treeItem_nameTree (parent parent' : Option String) (scope : Naming.Scope) (tree : Tree Placed) :
    Document.treeItem (nameTree .hierarchical parent scope tree).1 =
      Document.treeItem (nameTree .hierarchical parent' scope tree).1 := by
  cases tree with
  | node placed children =>
      rw [nameTree_fst, nameTree_fst, Document.treeItem, Document.treeItem,
        forestItems_nameForest (some (placed.namedIn parent scope).path)
          (some (placed.namedIn parent' scope).path)]
      rfl

/-- The declarations do not show the path of the parent. -/
theorem forestItems_nameForest (parent parent' : Option String) (scope : Naming.Scope)
    (forest : List (Tree Placed)) :
    Document.forestItems (nameForest .hierarchical parent scope forest).1 =
      Document.forestItems (nameForest .hierarchical parent' scope forest).1 := by
  cases forest with
  | nil => rfl
  | cons tree rest =>
      have hafter : (nameTree .hierarchical parent scope tree).2 =
          (nameTree .hierarchical parent' scope tree).2 := by
        cases tree
        rw [nameTree_snd, nameTree_snd]
      rw [nameForest_cons, nameForest_cons, Document.forestItems, Document.forestItems,
        treeItem_nameTree parent parent', hafter, forestItems_nameForest parent parent']

end

/-- Below different parents one element has paths that go on alike. -/
def SameBelow (above above' : List String) (element element' : Named) : Prop :=
  element'.identity = element.identity ∧ ∃ rest, (∀ segment ∈ rest, Naming.IsIdentifier segment) ∧
    element.path = Naming.joinPath (above ++ rest) ∧ element'.path = Naming.joinPath (above' ++ rest)

mutual

theorem exists_sameBelow_tree (above above' : List String) (scope : Naming.Scope) {tree : Tree Placed}
    {element : Named}
    (h : element ∈ elements (nameTree .hierarchical (parentPath above) scope tree).1) :
    ∃ element' ∈ elements (nameTree .hierarchical (parentPath above') scope tree).1,
      SameBelow above above' element element' := by
  cases tree with
  | node placed children =>
      have hpath : ∀ above, (placed.namedIn (parentPath above) scope).path =
          Naming.joinPath (above ++ [(scope.allocate placed.name).1]) :=
        fun above => pathUnder_parentPath above _
      have hidentifier := scope.isIdentifier_allocate placed.name
      rw [nameTree_fst, elements, hpath, ← parentPath_concat] at h
      rw [nameTree_fst, elements, hpath, ← parentPath_concat]
      rcases List.mem_cons.mp h with rfl | h
      · exact ⟨_, List.mem_cons_self, rfl, [_], by simpa using hidentifier, hpath above, hpath above'⟩
      · obtain ⟨element', hmem, hidentity, rest, hrest, hbelow, hbelow'⟩ :=
          exists_sameBelow (above ++ [(scope.allocate placed.name).1])
            (above' ++ [(scope.allocate placed.name).1]) _ h
        refine ⟨element', List.mem_cons_of_mem _ hmem, hidentity, _ :: rest,
          List.forall_mem_cons.mpr ⟨hidentifier, hrest⟩, ?_, ?_⟩
        · rw [hbelow, List.append_assoc, List.singleton_append]
        · rw [hbelow', List.append_assoc, List.singleton_append]

theorem exists_sameBelow (above above' : List String) (scope : Naming.Scope)
    {forest : List (Tree Placed)} {element : Named}
    (h : element ∈ elementsOf (nameForest .hierarchical (parentPath above) scope forest).1) :
    ∃ element' ∈ elementsOf (nameForest .hierarchical (parentPath above') scope forest).1,
      SameBelow above above' element element' := by
  cases forest with
  | nil => cases h
  | cons tree rest =>
      have hafter : (nameTree .hierarchical (parentPath above) scope tree).2 =
          (nameTree .hierarchical (parentPath above') scope tree).2 := by
        cases tree
        rw [nameTree_snd, nameTree_snd]
      rw [nameForest_cons, elementsOf] at h ⊢
      rcases List.mem_append.mp h with h | h
      · obtain ⟨element', hmem, hsame⟩ := exists_sameBelow_tree above above' scope h
        exact ⟨element', List.mem_append_left _ hmem, hsame⟩
      · rw [hafter] at h
        obtain ⟨element', hmem, hsame⟩ := exists_sameBelow above above' _ h
        exact ⟨element', List.mem_append_right _ hmem, hsame⟩

end

theorem nameForest_append (mode : ScopeMode) (parent : Option String) (scope : Naming.Scope)
    (first second : List (Tree Placed)) :
    (nameForest mode parent scope (first ++ second)).1 = (nameForest mode parent scope first).1 ++
      (nameForest mode parent (nameForest mode parent scope first).2 second).1 := by
  induction first generalizing scope with
  | nil => rfl
  | cons tree rest ih =>
      rw [List.cons_append, nameForest_cons, nameForest_cons, ih, List.cons_append]

end Outline

theorem Document.forestItems_append (first second : List (Tree Named)) :
    Document.forestItems (first ++ second) =
      Document.forestItems first ++ Document.forestItems second := by
  induction first with
  | nil => rfl
  | cons tree rest ih => rw [List.cons_append, Document.forestItems, Document.forestItems, ih,
      List.cons_append]

namespace Hierarchy.Attachments

/-- The trees of what a system holds. -/
def treesOf (attachments : Attachments) (system : SoftwareSystem) : List (Tree Placed) :=
  (attachments.containersOf system).map (Outline.ofContainer attachments)

/-- The identities of all containers and components that a system holds. -/
def heldBy (attachments : Attachments) (system : SoftwareSystem) : List Identity :=
  (attachments.containersOf system).flatMap fun container =>
    container.identity :: (attachments.componentsOf container).map (·.identity)

/-- What is written inside the block of a system. -/
def insideOf (attachments : Attachments) (system : SoftwareSystem) : List Item :=
  (if decide (system.location = .external) then [.line Statement.externalTags] else []) ++
    Document.forestItems (nameForest .hierarchical none {} (attachments.treesOf system)).1

/-- Systems with the same children hold the same trees. -/
theorem treesOf_congr {attachments attachments' : Attachments} {system : SoftwareSystem}
    (hcontainers : attachments.containersOf system = attachments'.containersOf system)
    (hcomponents : ∀ container ∈ attachments.containersOf system,
      attachments.componentsOf container = attachments'.componentsOf container) :
    attachments.treesOf system = attachments'.treesOf system := by
  rw [treesOf, treesOf, ← hcontainers]
  refine List.map_congr_left fun container hcontainer => ?_
  rw [Outline.ofContainer, Outline.ofContainer, hcomponents container hcontainer]

theorem identities_treesOf (attachments : Attachments) (system : SoftwareSystem) :
    (elementsOf (attachments.treesOf system)).map Placed.identity = attachments.heldBy system := by
  have hsystem := congrArg (List.map Prod.fst) (elements_ofSystem attachments system)
  rw [ofSystem, elements, List.map_cons, List.map_cons, List.map_cons, List.map_cons, List.map_map,
    List.map_map] at hsystem
  refine (List.cons.inj hsystem).2.trans ?_
  simp only [heldBy, List.map_flatMap, List.map_cons, List.map_map]
  rfl

end Hierarchy.Attachments

/-- The lines of a system with an identifier, and with these lines inside its block. -/
def SoftwareSystem.lines (width : Int) (identifier : String) (system : SoftwareSystem)
    (inside : List String) : List String :=
  let declaration := Statement.element identifier Keyword.softwareSystem.text system.name
    system.description none
  if inside.isEmpty then [margin width 2 ++ (declaration ++ " \x7b\x7d")]
  else (margin width 2 ++ (declaration ++ " \x7b")) :: inside ++ [margin width 2 ++ blockClose]

namespace Workspace

variable {w : Workspace} {attachments : Attachments} {system : SoftwareSystem}

/-- The lines of a document before its first element. -/
def openingLines (w : Workspace) : List String :=
  [margin w.settings.indentWidth 0 ++ Statement.workspaceOpen w.title w.summary,
    margin w.settings.indentWidth 1 ++ Statement.identifiersDirective, "",
    margin w.settings.indentWidth 1 ++ Statement.modelOpen]

/-- In the text the system stands behind the elements before it, with these lines inside its block. -/
structure WritesSystem (w : Workspace) (attachments : Attachments) (text : String)
    (system : SoftwareSystem) (identifier : String) (inside : List String) : Prop where
  place : ∃ before tree after back, w.named attachments = before ++ tree :: after ∧
    tree.value.identity = system.identity ∧
    (Document.treeItem tree).lines w.settings.indentWidth 2 =
      system.lines w.settings.indentWidth identifier inside ∧
    text = Text.joinLines (w.openingLines ++
      linesOf w.settings.indentWidth 2 (Document.forestItems before) ++
        system.lines w.settings.indentWidth identifier inside ++ back)
  path : (pathMap (w.named attachments)).path? system.identity = some identifier

/-- In the text the lines of a tree come behind those of the elements before it. -/
theorem exists_render_eq (before : List (Tree Named)) (tree : Tree Named) (after : List (Tree Named))
    (paths : Naming.PathMap) (views : List Item) :
    ∃ back, render w.settings.indentWidth [.block (Statement.workspaceOpen w.title w.summary)
        (.line Statement.identifiersDirective :: .blank ::
          Document.modelItem w (before ++ tree :: after) paths :: views)] =
      Text.joinLines (w.openingLines ++
        linesOf w.settings.indentWidth 2 (Document.forestItems before) ++
          (Document.treeItem tree).lines w.settings.indentWidth 2 ++ back) := by
  refine ⟨linesOf w.settings.indentWidth 2 (Document.forestItems after) ++
    linesOf w.settings.indentWidth 2 (w.relationships.map (Document.relationshipItem paths)) ++
      (margin w.settings.indentWidth 1 ++ blockClose) :: linesOf w.settings.indentWidth 1 views ++
        [margin w.settings.indentWidth 0 ++ blockClose], congrArg Text.joinLines ?_⟩
  simp only [Document.modelItem, Document.forestItems_append, Document.forestItems, linesOf,
    linesOf_append, Item.lines, openingLines, List.append_assoc, List.cons_append, List.nil_append,
    List.append_nil]

theorem isEmpty_linesOf (width : Int) (depth : Nat) (items : List Item) :
    (linesOf width depth items).isEmpty = items.isEmpty := by
  cases items with
  | nil => rfl
  | cons item rest =>
      obtain ⟨line, lines, hlines⟩ := List.exists_cons_of_ne_nil (lines_ne_nil width depth item)
      rw [linesOf, hlines]
      rfl

/-- The tree of a system, named in any scope, is written as its lines. -/
theorem lines_treeItem (width : Int) (scope : Naming.Scope) (attachments : Attachments)
    (system : SoftwareSystem) :
    (Document.treeItem (nameTree .hierarchical none scope (ofSystem attachments system)).1).lines
        width 2 =
      system.lines width (scope.allocate system.name).1
        (linesOf width 3 (attachments.insideOf system)) := by
  let declaration := Statement.element (scope.allocate system.name).1 Keyword.softwareSystem.text
    system.name system.description none
  have hitem : Document.treeItem (nameTree .hierarchical none scope (ofSystem attachments system)).1 =
      if (attachments.insideOf system).isEmpty then .line (declaration ++ " \x7b\x7d")
      else .block (declaration ++ " \x7b") (attachments.insideOf system) := by
    rw [ofSystem, nameTree_fst, Document.treeItem, forestItems_nameForest _ none]
    rfl
  rw [hitem, SoftwareSystem.lines, isEmpty_linesOf]
  split <;> rfl

/-- The named tree of a system stands behind those of the elements before it. -/
theorem exists_named_eq (attachments : Attachments)
    (hmode : w.settings.identifierScope = .hierarchical) (hsystem : system ∈ w.systems) :
    ∃ before scope after, w.named attachments =
      before ++ (nameTree .hierarchical none scope (ofSystem attachments system)).1 :: after := by
  obtain ⟨front, back, hsystems⟩ := List.append_of_mem hsystem
  let first := nameForest .hierarchical none {}
    (w.people.map ofPerson ++ front.map (ofSystem attachments))
  let next := nameTree .hierarchical none first.2 (ofSystem attachments system)
  refine ⟨first.1, first.2,
    (nameForest .hierarchical none next.2 (back.map (ofSystem attachments))).1, ?_⟩
  rw [named, hmode, ofWorkspace, hsystems, List.map_append, List.map_cons, ← List.append_assoc,
    nameForest_append, nameForest_cons]

/-- Where a system is written, and what is found of the elements that it holds. -/
theorem exists_writesSystem {text : String} (h : w.serialize = .ok text)
    (hattachments : w.attachments = .ok attachments)
    (hmode : w.settings.identifierScope = .hierarchical) (hsystem : system ∈ w.systems) :
    ∃ identifier, Naming.IsIdentifier identifier ∧
      w.WritesSystem attachments text system identifier
        (linesOf w.settings.indentWidth 3 (attachments.insideOf system)) ∧
      ∀ named ∈ elementsOf (nameForest .hierarchical (parentPath [identifier]) {}
          (attachments.treesOf system)).1,
        (pathMap (w.named attachments)).path? named.identity = some named.path := by
  have hattaches := attachesAs_of_attachments hattachments
  obtain ⟨attachments', hattachments', views, -, rfl⟩ := serialize_eq_ok_iff.mp h
  obtain rfl := Except.ok.inj (hattachments'.symm.trans hattachments)
  obtain ⟨before, scope, after, hnamed⟩ := w.exists_named_eq attachments' hmode hsystem
  have htree : ∀ element ∈ elements (nameTree .hierarchical none scope (ofSystem attachments' system)).1,
      (pathMap (w.named attachments')).path? element.identity = some element.path := by
    intro element helement
    refine hattaches.path?_named ?_
    rw [hnamed, elementsOf_append]
    exact List.mem_append_right _ (List.mem_append_left _ helement)
  have hlines := lines_treeItem w.settings.indentWidth scope attachments' system
  obtain ⟨rest, hrest⟩ := exists_render_eq before _ after (pathMap (w.named attachments')) views
  rw [← hnamed, hlines] at hrest
  refine ⟨(scope.allocate system.name).1, scope.isIdentifier_allocate system.name,
    ⟨⟨before, _, after, rest, hnamed, rfl, hlines, hrest⟩, ?_⟩, ?_⟩
  · exact htree _ List.mem_cons_self
  · intro element helement
    exact htree element (List.mem_cons_of_mem _ helement)

/-- Both workspaces hold the system, with the same containers and components in it. -/
structure Shares (w w' : Workspace) (attachments attachments' : Attachments)
    (system : SoftwareSystem) : Prop where
  left : system ∈ w.systems
  right : system ∈ w'.systems
  containers : attachments.containersOf system = attachments'.containersOf system
  components : ∀ container ∈ attachments.containersOf system,
    attachments.componentsOf container = attachments'.componentsOf container

/-- Of an identity both workspaces have the path, and the paths go on alike behind these identifiers. -/
def SamePathBelow (w w' : Workspace) (attachments attachments' : Attachments)
    (identifier identifier' : String) (identity : Identity) : Prop :=
  ∃ path path' rest,
    (pathMap (w.named attachments)).path? identity = some path ∧
    (pathMap (w'.named attachments')).path? identity = some path' ∧
    Naming.segments path = identifier :: rest ∧ Naming.segments path' = identifier' :: rest

variable {w' : Workspace} {attachments' : Attachments}

/-- Whatever else two workspaces hold, the block of a system is the same in both. -/
theorem exists_writesSystem_same {text text' : String}
    (hshares : Shares w w' attachments attachments' system)
    (hwidth : w.settings.indentWidth = w'.settings.indentWidth)
    (hmode : w.settings.identifierScope = .hierarchical)
    (hmode' : w'.settings.identifierScope = .hierarchical)
    (hattachments : w.attachments = .ok attachments)
    (hattachments' : w'.attachments = .ok attachments')
    (h : w.serialize = .ok text) (h' : w'.serialize = .ok text') :
    ∃ identifier identifier' inside,
      w.WritesSystem attachments text system identifier inside ∧
      w'.WritesSystem attachments' text' system identifier' inside ∧
      ∀ held ∈ attachments.heldBy system,
        SamePathBelow w w' attachments attachments' identifier identifier' held := by
  have htrees : attachments.treesOf system = attachments'.treesOf system :=
    Attachments.treesOf_congr hshares.containers hshares.components
  obtain ⟨identifier, hidentifier, hwrites, hpaths⟩ :=
    exists_writesSystem h hattachments hmode hshares.left
  obtain ⟨identifier', hidentifier', hwrites', hpaths'⟩ :=
    exists_writesSystem h' hattachments' hmode' hshares.right
  rw [← hwidth, Attachments.insideOf, ← htrees] at hwrites'
  refine ⟨identifier, identifier', _, hwrites, hwrites', fun held hheld => ?_⟩
  rw [← Attachments.identities_treesOf,
    ← elementsOf_nameForest .hierarchical (parentPath [identifier]) {}, List.map_map] at hheld
  obtain ⟨element, helement, rfl⟩ := List.mem_map.mp hheld
  obtain ⟨element', helement', hsame, rest, hrest, hpath, hpath'⟩ :=
    exists_sameBelow [identifier] [identifier'] {} helement
  rw [htrees] at helement'
  have hfound' := hpaths' element' helement'
  rw [hsame, hpath'] at hfound'
  have hfound := hpaths element helement
  rw [hpath] at hfound
  have hsegments : ∀ first, Naming.IsIdentifier first →
      Naming.segments (Naming.joinPath ([first] ++ rest)) = first :: rest := fun first hfirst =>
    Naming.segments_joinPath (List.cons_ne_nil _ _) (List.forall_mem_cons.mpr ⟨hfirst, hrest⟩)
  exact ⟨_, _, rest, hfound, hfound', hsegments identifier hidentifier,
    hsegments identifier' hidentifier'⟩

/-- One more system, or the declaration of one more container or component, comes behind the others. -/
inductive Appends (w : Workspace) : Workspace → Prop
  | system (system : SoftwareSystem) : Appends w (w.addSoftwareSystem system)
  | container (parent : Reference) (container : Container) : Appends w (w.addContainer parent container)
  | component (parent : Reference) (component : Component) : Appends w (w.addComponent parent component)

theorem Appends.exists_extended (h : Appends w w') :
    ∃ systems containers components, w' = w.extended systems containers components := by
  cases h with
  | system system => exact ⟨[system], [], [], by simp [extended, addSoftwareSystem]⟩
  | container parent container => exact ⟨[], [⟨container, parent⟩], [], by simp [extended, addContainer]⟩
  | component parent component => exact ⟨[], [], [⟨component, parent⟩], by simp [extended, addComponent]⟩

/-- With a scope for every parent, what is written inside a system depends on its children alone: two
documents with the system have the same lines in its block, and below its own identifier the same paths. And
if parents are declared by identity, no element that was there gets another path when one is added last. -/
theorem block_local_and_paths_stable :
    (∀ (w w' : Workspace) (attachments attachments' : Attachments) (system : SoftwareSystem)
      (text text' : String),
      Shares w w' attachments attachments' system →
      w.settings.indentWidth = w'.settings.indentWidth →
      w.settings.identifierScope = .hierarchical → w'.settings.identifierScope = .hierarchical →
      w.attachments = .ok attachments → w'.attachments = .ok attachments' →
      w.serialize = .ok text → w'.serialize = .ok text' →
      ∃ identifier identifier' inside,
        w.WritesSystem attachments text system identifier inside ∧
        w'.WritesSystem attachments' text' system identifier' inside ∧
        ∀ held ∈ attachments.heldBy system,
          SamePathBelow w w' attachments attachments' identifier identifier' held) ∧
    (∀ (w w' : Workspace) (attachments attachments' : Attachments) (text text' : String),
      Appends w w' → w.ParentsByIdentity → w.settings.identifierScope = .hierarchical →
      w.attachments = .ok attachments → w'.attachments = .ok attachments' →
      w.serialize = .ok text → w'.serialize = .ok text' →
      ∀ element ∈ w.placed, ∃ path,
        (pathMap (w.named attachments)).path? element.identity = some path ∧
        (pathMap (w'.named attachments')).path? element.identity = some path) := by
  refine ⟨fun w w' attachments attachments' system text text' => exists_writesSystem_same, ?_⟩
  intro w w' attachments attachments' text text' happends hparents hmode hattachments hattachments' _ _
    element helement
  obtain ⟨systems, containers, components, rfl⟩ := happends.exists_extended
  exact (attachesAs_of_attachments hattachments).path?_extended
    (attachesAs_of_attachments hattachments') hmode hparents helement

end Workspace

namespace Bookshop

def stall : SoftwareSystem where
  identity := ⟨4, .softwareSystem, 1, "Stall"⟩
  name := "Stall"
  description := "Sells magazines"

def storage : Container where
  identity := ⟨5, .container, 1, "Storage"⟩
  name := "Storage"
  description := "Holds boxes"

/-- The bookshop with its children declared by identity. -/
def declared : Workspace :=
  { workspace with
    containerDeclarations := [⟨stock, .element (.softwareSystem shop)⟩]
    componentDeclarations := [⟨shelf, .identity stock.identity⟩] }

/-- The bookshop behind a system that takes its identifier. -/
def crowded : Workspace :=
  { declared with systems := [stall, shop] }

theorem declared_placeable : declared.Placeable where
  distinct := by decide
  containerParents := parentsResolve_cons.mpr ⟨⟨.softwareSystem shop, rfl, rfl⟩, parentsResolve_nil _ _⟩
  componentParents := parentsResolve_cons.mpr ⟨⟨.container stock, rfl, rfl⟩, parentsResolve_nil _ _⟩
  viewsScoped := placeable.viewsScoped

theorem declared_byIdentity : declared.ParentsByIdentity where
  containers := List.forall_mem_singleton.mpr ⟨shop.identity, rfl⟩
  components := List.forall_mem_singleton.mpr ⟨stock.identity, rfl⟩

end Bookshop

namespace Workspace

open Bookshop

/-- The shop gets another identifier behind the stall, and the inside of its block stays; with one more
container every element keeps its path. -/
theorem block_of_shop :
    (∃ text text' inside, declared.serialize = .ok text ∧ crowded.serialize = .ok text' ∧
      declared.WritesSystem ⟨[(shop.identity, stock)], [(stock.identity, shelf)]⟩ text shop "s" inside ∧
      crowded.WritesSystem ⟨[(shop.identity, stock)], [(stock.identity, shelf)]⟩ text' shop "s1" inside) ∧
    ∀ element ∈ declared.placed, ∃ path,
      (pathMap (declared.named ⟨[(shop.identity, stock)], [(stock.identity, shelf)]⟩)).path?
        element.identity = some path ∧
      (pathMap ((declared.addContainer (.raw "Shop") storage).named
        ⟨[(shop.identity, stock), (shop.identity, storage)], [(stock.identity, shelf)]⟩)).path?
          element.identity = some path := by
  have hcrowded : crowded.Placeable :=
    ⟨by decide,
      parentsResolve_cons.mpr ⟨⟨.softwareSystem shop, rfl, rfl⟩, parentsResolve_nil _ _⟩,
      parentsResolve_cons.mpr ⟨⟨.container stock, rfl, rfl⟩, parentsResolve_nil _ _⟩,
      placeable.viewsScoped⟩
  have hextended : (declared.addContainer (.raw "Shop") storage).Placeable :=
    ⟨by decide,
      parentsResolve_cons.mpr ⟨⟨.softwareSystem shop, rfl, rfl⟩,
        parentsResolve_cons.mpr ⟨⟨.softwareSystem shop, rfl, rfl⟩, parentsResolve_nil _ _⟩⟩,
      parentsResolve_cons.mpr ⟨⟨.container stock, rfl, rfl⟩, parentsResolve_nil _ _⟩,
      placeable.viewsScoped⟩
  obtain ⟨text, htext⟩ := exists_serialize_iff.mpr ⟨declared_placeable, by decide +kernel⟩
  obtain ⟨text', htext'⟩ := exists_serialize_iff.mpr ⟨hcrowded, by decide +kernel⟩
  obtain ⟨text'', htext''⟩ := exists_serialize_iff.mpr ⟨hextended, by decide +kernel⟩
  have hshares : Shares declared crowded ⟨[(shop.identity, stock)], [(stock.identity, shelf)]⟩
      ⟨[(shop.identity, stock)], [(stock.identity, shelf)]⟩ shop :=
    ⟨List.mem_cons_self, List.mem_cons_of_mem _ List.mem_cons_self, rfl, fun _ _ => rfl⟩
  constructor
  · obtain ⟨identifier, identifier', inside, hwrites, hwrites', -⟩ :=
      block_local_and_paths_stable.1 _ _ _ _ _ _ _ hshares rfl rfl rfl rfl rfl htext htext'
    obtain rfl : "s" = identifier := Option.some.inj ((by decide : some "s" = _).trans hwrites.path)
    obtain rfl : "s1" = identifier' := Option.some.inj ((by decide : some "s1" = _).trans hwrites'.path)
    exact ⟨text, text', inside, htext, htext', hwrites, hwrites'⟩
  · exact block_local_and_paths_stable.2 _ _ _ _ _ _ (.container _ _) declared_byIdentity rfl rfl rfl
      htext htext''

end Workspace

end C4Model
