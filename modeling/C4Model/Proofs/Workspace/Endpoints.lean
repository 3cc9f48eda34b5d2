import C4Model.Proofs.Workspace.References

/-! Ends of relationships that are elements. An element of the document is written as its path, which no other
element of the document has. An element that is not in the document is written as the initials of its
name, whoever else is written so: a person or a system may have them as its identifier. The path of a
container or a component they never are, for such a path has a point in it. -/

namespace C4Model

open Hierarchy Naming Outline Outcome

/-- Whether the word declares elements that are in no other element. -/
def Keyword.isOutermost : Keyword → Bool
  | .person => true
  | .softwareSystem => true
  | .container => false
  | .component => false

namespace Outline

theorem exists_tree_of_mem {α : Type} {forest : List (Tree α)} {element : α}
    (helement : element ∈ elementsOf forest) : ∃ tree ∈ forest, element ∈ elements tree := by
  induction forest with
  | nil => cases helement
  | cons tree rest ih =>
      rcases List.mem_append.mp helement with htree | hrest
      · exact ⟨tree, List.mem_cons_self, htree⟩
      · obtain ⟨other, hother, hmem⟩ := ih hrest
        exact ⟨other, List.mem_cons_of_mem _ hother, hmem⟩

theorem WellNamed.of_mem {above : List String} {forest : List (Tree Named)}
    (h : WellNamed above forest) {tree : Tree Named} (htree : tree ∈ forest) :
    WellNamedTree above tree := by
  induction forest with
  | nil => cases htree
  | cons first rest ih =>
      rcases List.mem_cons.mp htree with rfl | hrest
      · exact h.1
      · exact ih h.2 hrest

/-- People and systems are at the outermost level, and nothing below it is one of them. -/
theorem isOutermost_ofWorkspace {w : Workspace} {attachments : Attachments} {tree : Tree Placed}
    (htree : tree ∈ ofWorkspace w attachments) :
    tree.value.keyword.isOutermost = true ∧
      ∀ placed ∈ elementsOf tree.children, placed.keyword.isOutermost = false := by
  rcases List.mem_append.mp htree with hperson | hsystem
  · obtain ⟨person, -, rfl⟩ := List.mem_map.mp hperson
    exact ⟨rfl, nofun⟩
  · obtain ⟨system, -, rfl⟩ := List.mem_map.mp hsystem
    refine ⟨rfl, fun placed hplaced => ?_⟩
    obtain ⟨held, hheld, hmem⟩ := exists_tree_of_mem hplaced
    obtain ⟨container, -, rfl⟩ := List.mem_map.mp hheld
    rcases List.mem_cons.mp hmem with rfl | hmem
    · rfl
    · obtain ⟨leaf, hleaf, hmem⟩ := exists_tree_of_mem hmem
      obtain ⟨component, -, rfl⟩ := List.mem_map.mp hleaf
      obtain rfl := List.mem_singleton.mp hmem
      rfl

end Outline

theorem Naming.not_isIdentifier_joinPath {first second : String} {rest : List String}
    (hsegments : ∀ segment ∈ first :: second :: rest, IsIdentifier segment) :
    ¬ IsIdentifier (joinPath (first :: second :: rest)) := by
  intro hwhole
  have hmany := segments_joinPath (List.cons_ne_nil _ _) hsegments
  have hone := segments_joinPath (List.cons_ne_nil _ _) (List.forall_mem_singleton.mpr hwhole)
  have hsame : joinPath [joinPath (first :: second :: rest)] = joinPath (first :: second :: rest) :=
    String.intercalate_singleton
  rw [hsame, hmany] at hone
  exact List.cons_ne_nil _ _ (List.tail_eq_of_cons_eq hone)

namespace Workspace

variable {w : Workspace} {attachments : Attachments}

/-- Outermost elements have their identifier as path; the path of any other element is no identifier. -/
theorem path_of_named {element : Named} (helement : element ∈ elementsOf (w.named attachments)) :
    (element.keyword.isOutermost = true ∧ element.path = element.identifier) ∨
      (element.keyword.isOutermost = false ∧ ¬ IsIdentifier element.path) := by
  obtain ⟨tree, htree, hmem⟩ := exists_tree_of_mem helement
  have hwell := (w.wellNamed_named attachments).of_mem htree
  have hplaced : tree.map Named.toPlaced ∈ ofWorkspace w attachments := by
    rw [← mapAll_nameForest w.settings.identifierScope none {} (ofWorkspace w attachments),
      Tree.mapAll_eq]
    exact List.mem_map_of_mem htree
  obtain ⟨hroot, hbelow⟩ := isOutermost_ofWorkspace hplaced
  cases tree with
  | node named children =>
      obtain ⟨hidentifier, hpath, -, hchildren⟩ := hwell
      rcases List.mem_cons.mp hmem with rfl | hmem
      · exact .inl ⟨hroot, hpath.trans String.intercalate_singleton⟩
      · refine .inr ⟨hbelow element.toPlaced ?_, ?_⟩
        · rw [Tree.children_map, ← Tree.mapAll_eq, elementsOf_mapAll]
          exact List.mem_map_of_mem hmem
        · obtain ⟨child, -, rest, -, hsegments, hall, -⟩ := leads_forest hchildren hmem
          rw [hsegments]
          exact not_isIdentifier_joinPath (List.forall_mem_cons.mpr ⟨hidentifier, hall⟩)

/-- The identities of the elements in the document. -/
def writtenIdentities (w : Workspace) (attachments : Attachments) : List Identity :=
  (elementsOf (w.named attachments)).map (·.identity)

/-- What is written for an element. -/
def written (w : Workspace) (attachments : Attachments) (identity : Identity) : String :=
  (pathMap (w.named attachments)).resolveEndpoint (.identity identity)

theorem AttachesAs.written_of_named (h : w.AttachesAs attachments) {element : Named}
    (helement : element ∈ elementsOf (w.named attachments)) :
    w.written attachments element.identity = element.path := by
  rw [written, PathMap.resolveEndpoint, h.path?_named helement, Option.getD_some]

theorem written_of_not_mem {identity : Identity} (h : identity ∉ w.writtenIdentities attachments) :
    w.written attachments identity = baseIdentifier identity.name := by
  have hnone : (pathMap (w.named attachments)).path? identity = none := by
    refine Association.lookup_eq_none ?_
    rwa [keys_pathMap]
  rw [written, PathMap.resolveEndpoint, hnone, Option.getD_none]

theorem AttachesAs.mem_writtenIdentities (h : w.AttachesAs attachments) {identity : Identity} :
    identity ∈ w.writtenIdentities attachments ↔ identity ∈ w.placed.map Element.identity := by
  rw [writtenIdentities, identities_named]
  exact (h.walked_perm_placed.map _).mem_iff

theorem AttachesAs.written_injOn (h : w.AttachesAs attachments) {first second : Identity}
    (hfirst : first ∈ w.writtenIdentities attachments)
    (hsecond : second ∈ w.writtenIdentities attachments)
    (hsame : w.written attachments first = w.written attachments second) : first = second := by
  obtain ⟨element, helement, rfl⟩ := List.mem_map.mp hfirst
  obtain ⟨other, hother, rfl⟩ := List.mem_map.mp hsecond
  rw [h.written_of_named helement, h.written_of_named hother] at hsame
  rw [List.inj_on_of_nodup_map h.distinct_paths helement hother hsame]

/-- Initials are the path of an outermost element that has them as its identifier, and of no other. -/
theorem baseIdentifier_eq_path_iff {element : Named}
    (helement : element ∈ elementsOf (w.named attachments)) (name : String) :
    baseIdentifier name = element.path ↔
      element.keyword.isOutermost = true ∧ element.identifier = baseIdentifier name := by
  rcases path_of_named helement with ⟨houtermost, hpath⟩ | ⟨hinner, hpath⟩
  · rw [hpath, houtermost]
    exact ⟨fun h => ⟨rfl, h.symm⟩, fun h => h.2.symm⟩
  · constructor
    · intro h
      exact absurd (h ▸ isIdentifier_baseIdentifier name) hpath
    · rintro ⟨houtermost, -⟩
      rw [houtermost] at hinner
      cases hinner

theorem kind_ne_code_of_placed {element : Element} (helement : element ∈ w.placed) :
    element.kind ≠ .code := by
  have hheld : ∀ container : Container, ∀ held ∈ containerChildren.elements container,
      held.kind ≠ .code := by
    intro container held hmem
    rcases List.mem_cons.mp hmem with rfl | hmem
    · exact nofun
    · obtain ⟨component, -, rfl⟩ := List.mem_map.mp hmem
      exact nofun
  rcases List.mem_append.mp helement with htop | hcomponent
  · rcases List.mem_append.mp htop with htop | hcontainer
    · rcases List.mem_append.mp htop with hperson | hsystem
      · obtain ⟨person, -, rfl⟩ := List.mem_map.mp hperson
        exact nofun
      · obtain ⟨system, -, hmem⟩ := List.mem_flatMap.mp hsystem
        rcases List.mem_cons.mp hmem with rfl | hmem
        · exact nofun
        · obtain ⟨container, -, hmem⟩ := List.mem_flatMap.mp hmem
          exact hheld container element hmem
    · obtain ⟨declaration, -, hmem⟩ := List.mem_flatMap.mp hcontainer
      exact hheld declaration.child element hmem
  · obtain ⟨declaration, -, hmem⟩ := List.mem_flatMap.mp hcomponent
    obtain rfl := List.mem_singleton.mp hmem
    exact nofun

/-- What the references to elements have to do with each other. -/
structure EndsApart (w : Workspace) (attachments : Attachments) : Prop where
  /-- Elements of the document are never written alike. -/
  within : ∀ first ∈ w.placed.map Element.identity, ∀ second ∈ w.placed.map Element.identity,
    first ≠ second → w.written attachments first ≠ w.written attachments second
  /-- Elements that are not in the document are written alike if their initials are. -/
  outside : ∀ first ∉ w.placed.map Element.identity, ∀ second ∉ w.placed.map Element.identity,
    w.written attachments first = w.written attachments second ↔
      baseIdentifier first.name = baseIdentifier second.name
  /-- An element that is not in the document is written like a person or a system that got its initials as
  identifier, and like no container and no component. -/
  across : ∀ identity ∉ w.placed.map Element.identity,
    w.written attachments identity = baseIdentifier identity.name ∧
      ∀ element ∈ elementsOf (w.named attachments),
        w.written attachments identity = w.written attachments element.identity ↔
          element.keyword.isOutermost = true ∧ element.identifier = baseIdentifier identity.name
  /-- Code elements are never in the document. -/
  code : (∀ element ∈ w.placed, element.identity.kind = element.kind) →
    ∀ identity, identity.kind = .code → identity ∉ w.placed.map Element.identity

theorem AttachesAs.endsApart (h : w.AttachesAs attachments) : w.EndsApart attachments where
  within first hfirst second hsecond hne hsame :=
    hne (h.written_injOn (h.mem_writtenIdentities.mpr hfirst) (h.mem_writtenIdentities.mpr hsecond)
      hsame)
  outside first hfirst second hsecond := by
    rw [written_of_not_mem (mt h.mem_writtenIdentities.mp hfirst),
      written_of_not_mem (mt h.mem_writtenIdentities.mp hsecond)]
  across identity hidentity := by
    have hinitials := written_of_not_mem (mt h.mem_writtenIdentities.mp hidentity)
    refine ⟨hinitials, fun element helement => ?_⟩
    rw [hinitials, h.written_of_named helement]
    exact baseIdentifier_eq_path_iff helement identity.name
  code hkinds identity hcode hmem := by
    obtain ⟨element, helement, rfl⟩ := List.mem_map.mp hmem
    exact kind_ne_code_of_placed helement ((hkinds element helement).symm.trans hcode)

/-- The ends of a relationship are written as the references to them. -/
structure EndsWritten (w : Workspace) (attachments : Attachments) (relationship : Relationship)
    (arrow : Reading.Arrow) : Prop where
  source : ∀ identity, relationship.source = .identity identity →
    arrow.source = w.written attachments identity
  target : ∀ identity, relationship.target = .identity identity →
    arrow.target = w.written attachments identity

/-- What is read back at the ends of relationships. Two different elements of the document are never read as
one; an element that is not in it is read as its initials, which may be a person or a system. -/
theorem ends_serialize {text : String} (h : w.serialize = .ok text) :
    ∃ attachments contents, w.attachments = .ok attachments ∧ Reading.decode text = some contents ∧
      List.Forall₂ (w.EndsWritten attachments) w.relationships contents.relationships ∧
      w.EndsApart attachments := by
  obtain ⟨attachments, hattachments, hdecode⟩ := decode_of_serialize h
  refine ⟨attachments, w.contents attachments, hattachments, hdecode, ?_,
    (attachesAs_of_attachments hattachments).endsApart⟩
  refine List.forall₂_map_right_iff.mpr (List.forall₂_same.mpr fun relationship _ => ⟨?_, ?_⟩)
  · intro identity hsource
    rw [Relationship.arrow, hsource, written]
  · intro identity htarget
    rw [Relationship.arrow, htarget, written]

end Workspace

/-! ### A stranger to the bookshop -/

namespace Bookshop

/-- A person who is not in the bookshop. -/
def rival : Identity := ⟨8, .person, 1, "Rival"⟩

/-- The bookshop whose reader, and whose shelf, the rival knows. -/
def watched : Workspace :=
  { workspace with
    relationships := [⟨.identity reader.identity, .identity rival, "Writes to", none, .synchronous⟩,
      ⟨.identity rival, .identity shelf.identity, "Looks at", none, .synchronous⟩] }

theorem watched_placeable : watched.Placeable :=
  ⟨placeable.distinct, placeable.containerParents, placeable.componentParents, placeable.viewsScoped⟩

end Bookshop

namespace Workspace

open Bookshop

/-- Two different people are read as one: the relationship from the reader to the rival is read as one from the
reader to the reader. -/
theorem rival_read_as_reader :
    ∃ text contents, watched.serialize = .ok text ∧ Reading.decode text = some contents ∧
      watched.relationships.head? =
        some ⟨.identity reader.identity, .identity rival, "Writes to", none, .synchronous⟩ ∧
      reader.identity ≠ rival ∧ .person reader ∈ watched.placed ∧
      rival ∉ watched.placed.map Element.identity ∧
      contents.relationships.head? = some ⟨"r", "r", "Writes to", none⟩ := by
  obtain ⟨text, htext⟩ := exists_serialize_iff.mpr ⟨watched_placeable, by decide +kernel⟩
  obtain ⟨attachments, hattachments, hdecode⟩ := decode_of_serialize htext
  obtain rfl := Except.ok.inj (attachments_eq.symm.trans hattachments)
  have hreader : watched.written ⟨[(shop.identity, stock)], [(stock.identity, shelf)]⟩ reader.identity =
      "r" := by
    decide +kernel
  have hrival : watched.written ⟨[(shop.identity, stock)], [(stock.identity, shelf)]⟩ rival = "r" := by
    decide +kernel
  refine ⟨text, _, htext, hdecode, rfl, by decide, List.mem_cons_self, by decide, ?_⟩
  exact congrArg₂ (fun source target => some (Reading.Arrow.mk source target "Writes to" none)) hreader
    hrival

/-- The rival is told apart from the shelf, though not from the reader. -/
theorem ends_watched :
    ∃ text attachments, watched.serialize = .ok text ∧ watched.attachments = .ok attachments ∧
      watched.written attachments rival = "r" ∧
      watched.written attachments reader.identity ≠ watched.written attachments shelf.identity ∧
      ∀ element ∈ elementsOf (watched.named attachments),
        watched.written attachments rival = watched.written attachments element.identity ↔
          element.keyword.isOutermost = true ∧ element.identifier = "r" := by
  obtain ⟨text, htext⟩ := exists_serialize_iff.mpr ⟨watched_placeable, by decide +kernel⟩
  obtain ⟨attachments, contents, hattachments, -, -, hapart⟩ := ends_serialize htext
  have hinitials : baseIdentifier rival.name = "r" := by
    decide +kernel
  have hacross := hapart.across rival (by decide)
  rw [hinitials] at hacross
  exact ⟨text, attachments, htext, hattachments, hacross.1,
    hapart.within _ (by decide) _ (by decide) (by decide), hacross.2⟩

end Workspace

end C4Model
