import C4Model.Proofs.Naming.Scope
import C4Model.Proofs.Text.Lines
import C4Model.Proofs.Workspace.Outline

/-! Paths lead to elements. At every level of the named tree the identifiers of siblings differ, and the path
of an element is made of the identifiers from the outermost one down to its own. So whoever follows a
path, one identifier after another, has one choice at every level and ends at the element. -/

namespace C4Model

open Naming

/-- Follows identifiers through nested declarations. At every level exactly one has to be found. -/
def Tree.follow {α : Type} (identifierOf : α → String) : List (Tree α) → List String → Option (Tree α)
  | _, [] => none
  | forest, segment :: rest =>
      match forest.filter fun tree => identifierOf tree.value == segment with
      | [tree] => if rest.isEmpty then some tree else follow identifierOf tree.children rest
      | _ => none

namespace Tree

variable {α β : Type}

theorem filter_eq_singleton {identifierOf : α → String} {forest : List (Tree α)}
    (hdistinct : (forest.map fun tree => identifierOf tree.value).Nodup) {tree : Tree α}
    (hmem : tree ∈ forest) :
    (forest.filter fun other => identifierOf other.value == identifierOf tree.value) = [tree] := by
  induction forest with
  | nil => simp at hmem
  | cons first rest ih =>
      obtain ⟨hfresh, hrest⟩ := List.nodup_cons.mp hdistinct
      rcases List.mem_cons.mp hmem with rfl | hmem
      · have hnone : (rest.filter fun other => identifierOf other.value == identifierOf tree.value) =
            [] := by
          rw [List.filter_eq_nil_iff]
          intro other hother hsame
          exact hfresh (List.mem_map.mpr ⟨other, hother, beq_iff_eq.mp hsame⟩)
        simp [hnone]
      · have hne : identifierOf first.value ≠ identifierOf tree.value := by
          intro hsame
          exact hfresh (List.mem_map.mpr ⟨tree, hmem, hsame.symm⟩)
        rw [List.filter_cons_of_neg (by simpa using hne)]
        exact ih hrest hmem

end Tree

namespace Outline

/-- The identifiers at the outermost level. -/
def identifiers (forest : List (Tree Named)) : List String :=
  forest.map fun tree => tree.value.identifier

mutual

/-- Below elements with the identifiers `above`, a tree has the paths that its place gives to it, and
siblings in it have different identifiers. -/
def WellNamedTree (above : List String) : Tree Named → Prop
  | .node named children =>
      IsIdentifier named.identifier ∧ named.path = joinPath (above ++ [named.identifier]) ∧
        (identifiers children).Nodup ∧ WellNamed (above ++ [named.identifier]) children

def WellNamed (above : List String) : List (Tree Named) → Prop
  | [] => True
  | tree :: rest => WellNamedTree above tree ∧ WellNamed above rest

end

theorem identifier_nameTree (mode : ScopeMode) (parent : Option String) (scope : Scope)
    (placed : Placed) (children : List (Tree Placed)) :
    (nameTree mode parent scope (.node placed children)).1.value.identifier =
      (scope.allocate placed.name).1 := by
  rw [nameTree_fst]
  rfl

/-- With a scope for every parent, a row of siblings is all that its scope serves. -/
theorem gives_hierarchical (parent : Option String) (scope : Scope) (forest : List (Tree Placed)) :
    scope.Gives (identifiers (nameForest .hierarchical parent scope forest).1)
      (nameForest .hierarchical parent scope forest).2 := by
  induction forest generalizing scope with
  | nil => exact scope.gives_nothing
  | cons tree rest ih =>
      cases tree with
      | node placed children =>
          have hfirst := scope.gives_allocate placed.name
          rw [← identifier_nameTree .hierarchical parent scope placed children] at hfirst
          rw [nameForest_cons, nameTree_snd]
          exact hfirst.append (ih _)

mutual

theorem gives_global_tree (parent : Option String) (scope : Scope) (tree : Tree Placed) :
    scope.Gives ((elements (nameTree .global parent scope tree).1).map (·.identifier))
      (nameTree .global parent scope tree).2 := by
  cases tree with
  | node placed children =>
      rw [nameTree_fst, nameTree_snd, elements, List.map_cons]
      exact (scope.gives_allocate placed.name).append (gives_global _ _ children)

/-- With one scope, all identifiers of the trees come from it. -/
theorem gives_global (parent : Option String) (scope : Scope) (forest : List (Tree Placed)) :
    scope.Gives ((elementsOf (nameForest .global parent scope forest).1).map (·.identifier))
      (nameForest .global parent scope forest).2 := by
  cases forest with
  | nil => exact scope.gives_nothing
  | cons tree rest =>
      rw [nameForest_cons, elementsOf, List.map_append]
      exact (gives_global_tree parent scope tree).append (gives_global parent _ rest)

end

theorem identifiers_sublist (forest : List (Tree Named)) :
    (identifiers forest).Sublist ((elementsOf forest).map (·.identifier)) := by
  induction forest with
  | nil => exact List.Sublist.refl _
  | cons tree rest ih =>
      cases tree with
      | node named children =>
          rw [elementsOf, elements, List.cons_append, List.map_cons, List.map_append]
          exact (ih.trans (List.sublist_append_right _ _)).cons_cons _

theorem identifiers_distinct (mode : ScopeMode) (parent : Option String) (scope : Scope)
    (forest : List (Tree Placed)) :
    (identifiers (nameForest mode parent scope forest).1).Nodup := by
  cases mode with
  | hierarchical => exact (gives_hierarchical parent scope forest).distinct
  | global => exact (gives_global parent scope forest).distinct.sublist (identifiers_sublist _)

/-- The path of a parent whose place is known by identifiers. -/
def parentPath (above : List String) : Option String :=
  if above = [] then none else some (joinPath above)

theorem pathUnder_parentPath (above : List String) (identifier : String) :
    pathUnder (parentPath above) identifier = joinPath (above ++ [identifier]) := by
  by_cases habove : above = []
  · simp [parentPath, habove, pathUnder, joinPath]
  · rw [parentPath, if_neg habove, pathUnder, joinPath_concat habove]

theorem parentPath_concat (above : List String) (identifier : String) :
    parentPath (above ++ [identifier]) = some (joinPath (above ++ [identifier])) := by
  simp [parentPath]

mutual

theorem wellNamed_nameTree (mode : ScopeMode) (above : List String) (scope : Scope)
    (tree : Tree Placed) : WellNamedTree above (nameTree mode (parentPath above) scope tree).1 := by
  cases tree with
  | node placed children =>
      have hpath : (placed.namedIn (parentPath above) scope).path =
          joinPath (above ++ [(scope.allocate placed.name).1]) := pathUnder_parentPath _ _
      rw [nameTree_fst, WellNamedTree, hpath, ← parentPath_concat]
      exact ⟨scope.isIdentifier_allocate placed.name, rfl, identifiers_distinct _ _ _ children,
        wellNamed_nameForest mode _ _ children⟩

theorem wellNamed_nameForest (mode : ScopeMode) (above : List String) (scope : Scope)
    (forest : List (Tree Placed)) :
    WellNamed above (nameForest mode (parentPath above) scope forest).1 := by
  cases forest with
  | nil => trivial
  | cons tree rest =>
      rw [nameForest_cons]
      exact ⟨wellNamed_nameTree mode above scope tree, wellNamed_nameForest mode above _ rest⟩

end

/-- From a tree below `above`, the path of an element leads to the element, which has an identifier. -/
def Leads (above : List String) (tree : Tree Named) (element : Named) : Prop :=
  ∃ rest found,
    element.path = joinPath (above ++ tree.value.identifier :: rest) ∧
    (∀ segment ∈ tree.value.identifier :: rest, IsIdentifier segment) ∧
    (if rest.isEmpty then some tree else Tree.follow Named.identifier tree.children rest) =
      some found ∧
    found.value = element ∧ IsIdentifier element.identifier

theorem follow_cons {forest : List (Tree Named)} (hdistinct : (identifiers forest).Nodup)
    {tree : Tree Named} (hmem : tree ∈ forest) (rest : List String) :
    Tree.follow Named.identifier forest (tree.value.identifier :: rest) =
      if rest.isEmpty then some tree else Tree.follow Named.identifier tree.children rest := by
  rw [Tree.follow, Tree.filter_eq_singleton hdistinct hmem]

mutual

theorem leads_tree {above : List String} {tree : Tree Named} (hwell : WellNamedTree above tree)
    {element : Named} (helement : element ∈ elements tree) : Leads above tree element := by
  cases tree with
  | node named children =>
      obtain ⟨hidentifier, hpath, hdistinct, hchildren⟩ := hwell
      rcases List.mem_cons.mp helement with rfl | helement
      · exact ⟨[], _, hpath, by simpa [Tree.value] using hidentifier, rfl, rfl, hidentifier⟩
      · obtain ⟨child, hchild, rest, found, hrest, hall, hfollow, hfound⟩ :=
          leads_forest hchildren helement
        refine ⟨child.value.identifier :: rest, found, ?_, ?_, ?_, hfound⟩
        · rw [hrest, List.append_assoc]
          rfl
        · exact List.forall_mem_cons.mpr ⟨hidentifier, hall⟩
        · exact (follow_cons hdistinct hchild rest).trans hfollow

theorem leads_forest {above : List String} {forest : List (Tree Named)}
    (hwell : WellNamed above forest) {element : Named} (helement : element ∈ elementsOf forest) :
    ∃ tree ∈ forest, Leads above tree element := by
  cases forest with
  | nil => simp [elementsOf] at helement
  | cons tree rest =>
      rcases List.mem_append.mp helement with helement | helement
      · exact ⟨tree, List.mem_cons_self, leads_tree hwell.1 helement⟩
      · obtain ⟨other, hmem, hleads⟩ := leads_forest hwell.2 helement
        exact ⟨other, List.mem_cons_of_mem _ hmem, hleads⟩

end

end Outline

/-- The identifiers that a path is made of. -/
def Naming.segments (path : String) : List String :=
  Text.splitOnChar '.' path

theorem Naming.segments_joinPath {segments : List String} (hsegments : segments ≠ [])
    (hidentifiers : ∀ segment ∈ segments, IsIdentifier segment) :
    Naming.segments (joinPath segments) = segments :=
  Text.splitOnChar_intercalate_of_not_mem rfl hsegments
    fun segment hsegment => (hidentifiers segment hsegment).not_mem (by decide)

namespace Workspace

open Outline

variable {w : Workspace} {attachments : Hierarchy.Attachments}

theorem identifiers_named_distinct (w : Workspace) (attachments : Hierarchy.Attachments) :
    (identifiers (w.named attachments)).Nodup :=
  identifiers_distinct _ _ _ _

theorem wellNamed_named (w : Workspace) (attachments : Hierarchy.Attachments) :
    WellNamed [] (w.named attachments) :=
  wellNamed_nameForest w.settings.identifierScope [] {} (ofWorkspace w attachments)

theorem isIdentifier_named {element : Named} (helement : element ∈ elementsOf (w.named attachments)) :
    IsIdentifier element.identifier := by
  obtain ⟨_, _, _, _, _, _, _, _, hidentifier⟩ :=
    leads_forest (w.wellNamed_named attachments) helement
  exact hidentifier

/-- The path of a written element is a reference, and following it leads to the element. -/
theorem follow_path {element : Named} (helement : element ∈ elementsOf (w.named attachments)) :
    IsReference element.path ∧
      ∃ tree, tree.value = element ∧
        Tree.follow Named.identifier (w.named attachments) (Naming.segments element.path) =
          some tree := by
  obtain ⟨tree, hmem, rest, found, hpath, hall, hfollow, hfound, -⟩ :=
    leads_forest (w.wellNamed_named attachments) helement
  rw [List.nil_append] at hpath
  have hsegments : Naming.segments element.path = tree.value.identifier :: rest := by
    rw [hpath]
    exact Naming.segments_joinPath (List.cons_ne_nil _ _) hall
  refine ⟨⟨_, List.cons_ne_nil _ _, hall, hpath⟩, found, hfound, ?_⟩
  rw [hsegments, follow_cons (w.identifiers_named_distinct attachments) hmem, hfollow]

/-- Different elements have different paths. -/
theorem AttachesAs.distinct_paths (h : w.AttachesAs attachments) :
    ((elementsOf (w.named attachments)).map (·.path)).Nodup := by
  refine List.Nodup.map_on ?_ (List.Nodup.of_map _ h.distinct_named)
  intro element helement other hother hsame
  obtain ⟨-, tree, hvalue, hfollow⟩ := follow_path helement
  obtain ⟨-, tree', hvalue', hfollow'⟩ := follow_path hother
  rw [hsame, hfollow'] at hfollow
  obtain rfl := Option.some.inj hfollow
  exact hvalue.symm.trans hvalue'

theorem AttachesAs.path?_named (h : w.AttachesAs attachments) {element : Named}
    (helement : element ∈ elementsOf (w.named attachments)) :
    (pathMap (w.named attachments)).path? element.identity = some element.path := by
  have hkeys : ((pathMap (w.named attachments)).paths.map Prod.fst).Nodup := by
    rw [keys_pathMap]
    exact h.distinct_named
  exact PathMap.path?_of_mem hkeys
    (List.mem_map.mpr ⟨element, helement, rfl⟩)

end Workspace

end C4Model
