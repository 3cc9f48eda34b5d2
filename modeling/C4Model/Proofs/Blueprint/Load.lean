import C4Model.Proofs.Blueprint.Sound

/-! The workspace of a blueprint. It has one record for every table, in the order and the nesting of the tables.
Relationships and views are read when all elements are known, so they may refer to any of them by its
key; the parent of a declared child has to be known before the child. -/

namespace C4Model.Blueprint

open Outcome

/-- The tables of all elements, an element after those that it holds. -/
def elementTables (doc : Table) : List Table :=
  personForm.tablesUnder doc "people" ++ systemForm.tablesUnder doc "systems" ++
    (declaredForm containerForm).tablesUnder doc "containers" ++
      (declaredForm componentForm).tablesUnder doc "components"

/-- All elements, those that an element holds before the element. -/
def madeElements (w : Workspace) : List Element :=
  w.people.flatMap personForm.made ++ w.systems.flatMap systemForm.made ++
    w.containerDeclarations.flatMap (declaredForm containerForm).made ++
      w.componentDeclarations.flatMap (declaredForm componentForm).made

/-- What is known before containers are declared: people, and systems with all they own. -/
def knownTop (doc : Table) (w : Workspace) : Known :=
  personForm.knownUnder doc "people" w.people ++ systemForm.knownUnder doc "systems" w.systems

/-- What is known before components are declared. -/
def knownContainers (doc : Table) (w : Workspace) : Known :=
  knownTop doc w ++
    (declaredForm containerForm).knownUnder doc "containers" w.containerDeclarations

/-- All elements, each with its table. -/
def knownAll (doc : Table) (w : Workspace) : Known :=
  knownContainers doc w ++
    (declaredForm componentForm).knownUnder doc "components" w.componentDeclarations

/-- The workspace is the one that the blueprint describes, table by table. -/
structure Mirrors (settings : Settings) (doc : Table) (w : Workspace) : Prop where
  settings : w.settings = settings
  name : w.name = (doc.subtable "workspace").string? "name"
  description : w.description = (doc.subtable "workspace").string? "description"
  people : EachOf PersonOf doc "people" w.people
  systems : EachOf SoftwareSystemOf doc "systems" w.systems
  containers : (declaredForm containerForm).Rows (knownTop doc w) doc "containers"
    w.containerDeclarations
  components : (declaredForm componentForm).Rows (knownContainers doc w) doc "components"
    w.componentDeclarations
  relationships : EachOf (RelationshipOf (knownAll doc w)) doc "relationships" w.relationships
  views : EachOf (ViewOf (knownAll doc w)) doc "views" w.views
  elementStyles : EachOf ElementStyleOf (doc.subtable "styles") "elements" w.elementStyles
  relationshipStyles : EachOf RelationshipStyleOf (doc.subtable "styles") "relationships"
    w.relationshipStyles
  /-- Every table of an element is known with the element made from it. -/
  tables : (knownAll doc w).tables = elementTables doc
  elements : (knownAll doc w).map Prod.snd = madeElements w
  keys : (keysOf (elementTables doc)).Nodup
  identities : ((madeElements w).map Element.identity).Nodup

section Load

variable {settings : Settings} {doc : Table} {w : Workspace} {after : Catalogue}

theorem readDeclaredContainer_readBy :
    (declaredForm containerForm).ReadBy (readDeclaration "container parent" readContainer) :=
  readDeclaration_readBy readContainer_readBy _

theorem readDeclaredComponent_readBy :
    (declaredForm componentForm).ReadBy (readDeclaration "component parent" readComponent) :=
  readDeclaration_readBy readComponent_readBy _

/-- All tables of elements, and all elements, are among what is known in the end. -/
theorem knownAll_eq {k₁ k₂ k₃ k₄ : Known} (hpeople : personForm.Rows k₁ doc "people" w.people)
    (hsystems : systemForm.Rows k₂ doc "systems" w.systems)
    (hcontainers : (declaredForm containerForm).Rows k₃ doc "containers" w.containerDeclarations)
    (hcomponents : (declaredForm componentForm).Rows k₄ doc "components" w.componentDeclarations) :
    (knownAll doc w).tables = elementTables doc ∧
      (knownAll doc w).map Prod.snd = madeElements w := by
  constructor
  · simp only [knownAll, knownContainers, knownTop, tables_append, elementTables,
      hpeople.tables_knownUnder readPerson_readBy,
      hsystems.tables_knownUnder readSoftwareSystem_readBy,
      hcontainers.tables_knownUnder readDeclaredContainer_readBy,
      hcomponents.tables_knownUnder readDeclaredComponent_readBy]
  · simp only [knownAll, knownContainers, knownTop, List.map_append, madeElements,
      hpeople.elements_knownUnder readPerson_readBy,
      hsystems.elements_knownUnder readSoftwareSystem_readBy,
      hcontainers.elements_knownUnder readDeclaredContainer_readBy,
      hcomponents.elements_knownUnder readDeclaredComponent_readBy]

theorem mirrors_of_readWorkspace (h : (readWorkspace settings doc).run {} = .ok (w, after)) :
    Mirrors settings doc w := by
  have hheader : ∀ key, Peeks (fun _ => True) (readText? (doc.subtable "workspace") key) _ :=
    peeks_readText? _
  obtain ⟨name, hname, h⟩ := (hheader _).ok_bind trivial h
  obtain ⟨description, hdescription, h⟩ := (hheader _).ok_bind trivial h
  -- `hknown` goes from section to section, and grows in the first four only.
  obtain ⟨people, _, hread, h⟩ := run_bind_eq_ok_iff.mp h
  obtain ⟨hpeople, hknown⟩ := readPerson_readBy.each_ok holds_empty hread
  obtain ⟨systems, _, hread, h⟩ := run_bind_eq_ok_iff.mp h
  obtain ⟨hsystems, hknown⟩ := readSoftwareSystem_readBy.each_ok hknown hread
  obtain ⟨containers, _, hread, h⟩ := run_bind_eq_ok_iff.mp h
  obtain ⟨hcontainers, hknown⟩ := readDeclaredContainer_readBy.each_ok hknown hread
  obtain ⟨components, _, hread, h⟩ := run_bind_eq_ok_iff.mp h
  obtain ⟨hcomponents, hknown⟩ := readDeclaredComponent_readBy.each_ok hknown hread
  obtain ⟨relationships, _, hread, h⟩ := run_bind_eq_ok_iff.mp h
  obtain ⟨hrelationships, hknown⟩ := plain_each_ok readRelationship_readBy hknown hread
  obtain ⟨views, _, hread, h⟩ := run_bind_eq_ok_iff.mp h
  obtain ⟨hviews, hknown⟩ := plain_each_ok readView_readBy hknown hread
  obtain ⟨elementStyles, _, hread, h⟩ := run_bind_eq_ok_iff.mp h
  obtain ⟨helementStyles, hknown⟩ := plain_each_ok readElementStyle_readBy hknown hread
  obtain ⟨relationshipStyles, _, hread, h⟩ := run_bind_eq_ok_iff.mp h
  obtain ⟨hrelationshipStyles, hknown⟩ := plain_each_ok readRelationshipStyle_readBy hknown hread
  obtain ⟨hw, rfl⟩ := run_pure_eq_ok_iff.mp h
  obtain ⟨htables, helements⟩ : (knownAll doc w).tables = elementTables doc ∧
      (knownAll doc w).map Prod.snd = madeElements w := by
    rw [← hw]
    exact knownAll_eq hpeople hsystems hcontainers hcomponents
  rw [List.nil_append] at hknown
  subst hw
  constructor
  case settings => rfl
  case name => exact hname.symm
  case description => exact hdescription.symm
  case people => exact eachOf_of_rows hpeople
  case systems => exact eachOf_of_rows hsystems
  case containers => exact hcontainers
  case components => exact hcomponents
  case relationships => exact hrelationships
  case views => exact hviews
  case elementStyles => exact helementStyles
  case relationshipStyles => exact hrelationshipStyles
  case tables => exact htables
  case elements => exact helements
  case keys => exact htables ▸ hknown.distinct
  case identities => exact helements ▸ hknown.distinct_identities

/-- A key is found to be taken only if two tables of elements have it. -/
theorem duplicate_of_readWorkspace {key : String}
    (h : (readWorkspace settings doc).run {} = .error (.shape (.duplicateKey key))) :
    List.Duplicate key (keysOf (elementTables doc)) := by
  have hheader : ∀ key, Peeks (fun _ => True) (readText? (doc.subtable "workspace") key) _ :=
    peeks_readText? _
  obtain ⟨name, -, h⟩ := (hheader _).taken_bind trivial h
  obtain ⟨description, -, h⟩ := (hheader _).taken_bind trivial h
  rcases run_bind_eq_error_iff.mp h with h | ⟨people, _, hread, h⟩
  · refine duplicate_append _ (duplicate_append _ (duplicate_append _ ?_))
    exact readPerson_readBy.each_taken holds_empty h
  obtain ⟨hpeople, hknown⟩ := readPerson_readBy.each_ok holds_empty hread
  rcases run_bind_eq_error_iff.mp h with h | ⟨systems, _, hread, h⟩
  · have htaken := readSoftwareSystem_readBy.each_taken hknown h
    rw [List.nil_append, hpeople.tables_knownUnder readPerson_readBy] at htaken
    exact duplicate_append _ (duplicate_append _ htaken)
  obtain ⟨hsystems, hknown⟩ := readSoftwareSystem_readBy.each_ok hknown hread
  rcases run_bind_eq_error_iff.mp h with h | ⟨containers, _, hread, h⟩
  · have htaken := readDeclaredContainer_readBy.each_taken hknown h
    rw [List.nil_append, tables_append, hpeople.tables_knownUnder readPerson_readBy,
      hsystems.tables_knownUnder readSoftwareSystem_readBy] at htaken
    exact duplicate_append _ htaken
  obtain ⟨hcontainers, hknown⟩ := readDeclaredContainer_readBy.each_ok hknown hread
  rcases run_bind_eq_error_iff.mp h with h | ⟨components, _, hread, h⟩
  · have htaken := readDeclaredComponent_readBy.each_taken hknown h
    rwa [List.nil_append, tables_append, tables_append, hpeople.tables_knownUnder readPerson_readBy,
      hsystems.tables_knownUnder readSoftwareSystem_readBy,
      hcontainers.tables_knownUnder readDeclaredContainer_readBy] at htaken
  obtain ⟨hcomponents, hknown⟩ := readDeclaredComponent_readBy.each_ok hknown hread
  rcases run_bind_eq_error_iff.mp h with h | ⟨relationships, _, hread, h⟩
  · exact absurd h (plain_each_not_taken readRelationship_readBy hknown)
  obtain ⟨-, hknown⟩ := plain_each_ok readRelationship_readBy hknown hread
  rcases run_bind_eq_error_iff.mp h with h | ⟨views, _, hread, h⟩
  · exact absurd h (plain_each_not_taken readView_readBy hknown)
  obtain ⟨-, hknown⟩ := plain_each_ok readView_readBy hknown hread
  rcases run_bind_eq_error_iff.mp h with h | ⟨elementStyles, _, hread, h⟩
  · exact absurd h (plain_each_not_taken readElementStyle_readBy hknown)
  obtain ⟨-, hknown⟩ := plain_each_ok readElementStyle_readBy hknown hread
  rcases run_bind_eq_error_iff.mp h with h | ⟨relationshipStyles, _, -, h⟩
  · exact absurd h (plain_each_not_taken readRelationshipStyle_readBy hknown)
  · cases h

theorem mirrors_of_load (h : load settings doc = .ok w) : Mirrors settings doc w := by
  obtain ⟨⟨read, after⟩, hread, rfl⟩ := map_eq_ok_iff.mp h
  exact mirrors_of_readWorkspace hread

theorem duplicate_of_load {key : String}
    (h : load settings doc = .error (.shape (.duplicateKey key))) :
    List.Duplicate key (keysOf (elementTables doc)) :=
  duplicate_of_readWorkspace (map_eq_error_iff.mp h)

theorem load_of_sound (settings : Settings) (hsound : BlueprintSound doc) :
    (∃ w, load settings doc = .ok w) ∨
      ∃ key, load settings doc = .error (.shape (.duplicateKey key)) := by
  rcases completes_readWorkspace settings hsound {} with ⟨w, after, h⟩ | ⟨key, h⟩
  · exact .inl ⟨w, map_eq_ok_iff.mpr ⟨_, h, rfl⟩⟩
  · exact .inr ⟨key, map_eq_error_iff.mpr h⟩

/-- What a blueprint describes is what is loaded, reference by reference and table by table. Tables of elements
with one key are never loaded, and nothing else is called a duplicate key. If the blueprint is sound
otherwise, its keys alone decide. -/
theorem load_mirrors (settings : Settings) (doc : Table) :
    (∀ w, load settings doc = .ok w → Mirrors settings doc w) ∧
      (¬ (keysOf (elementTables doc)).Nodup → ∃ error, load settings doc = .error error) ∧
      (∀ key, load settings doc = .error (.shape (.duplicateKey key)) →
        List.Duplicate key (keysOf (elementTables doc))) ∧
      (BlueprintSound doc →
        ((∃ w, load settings doc = .ok w) ↔ (keysOf (elementTables doc)).Nodup) ∧
          ((∃ key, load settings doc = .error (.shape (.duplicateKey key))) ↔
            ¬ (keysOf (elementTables doc)).Nodup)) := by
  have hkeys : ∀ w, load settings doc = .ok w → (keysOf (elementTables doc)).Nodup :=
    fun w h => (mirrors_of_load h).keys
  have hrepeated : ∀ key, load settings doc = .error (.shape (.duplicateKey key)) →
      ¬ (keysOf (elementTables doc)).Nodup := fun key h => (duplicate_of_load h).not_nodup
  refine ⟨fun w h => mirrors_of_load h, ?_, fun key h => duplicate_of_load h, ?_⟩
  · intro hnot
    cases hload : load settings doc with
    | error error => exact ⟨error, rfl⟩
    | ok w => exact absurd (hkeys w hload) hnot
  · intro hsound
    rcases load_of_sound settings hsound with ⟨w, hload⟩ | ⟨key, hload⟩
    · have hfresh : ¬ ∃ key, load settings doc = .error (.shape (.duplicateKey key)) := by
        rintro ⟨key, h⟩
        exact hrepeated key h (hkeys w hload)
      exact ⟨iff_of_true ⟨w, hload⟩ (hkeys w hload), iff_of_false hfresh (not_not_intro (hkeys w hload))⟩
    · have hnone : ¬ ∃ w, load settings doc = .ok w := by
        rintro ⟨w, h⟩
        exact hrepeated key hload (hkeys w h)
      exact ⟨iff_of_false hnone (hrepeated key hload), iff_of_true ⟨key, hload⟩ (hrepeated key hload)⟩

end Load

end C4Model.Blueprint

/-! ### The blueprint of a bookshop -/

namespace C4Model.Bookshop

open Blueprint

/-- The table of an element with the given key, and what else it has. -/
def elementTable (key : Value) (name : String) (rest : Table) : Table :=
  ("key", key) :: ("name", .string name) :: ("description", .string "In the shop") :: rest

/-- The system has a number as its key. The parent of the shelf is there before it, that of the box only
after it. -/
def blueprint : Table :=
  [("people", .array [.table (elementTable (.string "reader") "Reader" [])]),
    ("systems", .array [.table (elementTable (.int 7) "Shop"
      [("containers", .array [.table (elementTable (.string "stock") "Stock" [])])])]),
    ("containers", .array [.table (elementTable (.string "attic") "Attic" [("parent", .string "7")])]),
    ("components", .array [
      .table (elementTable (.string "box") "Box" [("parent", .string "shelf")]),
      .table (elementTable (.string "shelf") "Shelf" [("parent", .string "stock")])]),
    ("relationships", .array [.table [("source", .string "reader"), ("target", .string "shelf"),
      ("description", .string "Looks at")]]),
    ("views", .array [.table [("type", .string "container"), ("element", .string "7"),
      ("include", .array [.string "box", .string "*"])]])]

/-- A second element with the key of the system. -/
def repeatedBlueprint : Table :=
  [("people", .array [.table (elementTable (.string "7") "Reader" [])]),
    ("systems", .array [.table (elementTable (.int 7) "Shop" [])])]

/-- Where the references of a workspace lead. -/
def endpoints (w : Workspace) : List (List Endpoint) :=
  [w.containerDeclarations.map (·.parent.endpoint), w.componentDeclarations.map (·.parent.endpoint),
    w.relationships.flatMap fun relationship => [relationship.source, relationship.target],
    w.views.flatMap fun view => (view.element.toList ++ view.included).map Reference.endpoint]

/-- Declared parents, ends of relationships, and what the view is about and includes. -/
def blueprintEndpoints : List (List Endpoint) :=
  [[.identity ⟨2, .softwareSystem, 3, "Shop"⟩],
    [.raw "shelf", .identity ⟨1, .container, 2, "Stock"⟩],
    [.identity ⟨0, .person, 1, "Reader"⟩, .identity ⟨5, .component, 6, "Shelf"⟩],
    [.identity ⟨2, .softwareSystem, 3, "Shop"⟩, .identity ⟨4, .component, 5, "Box"⟩, .raw "*"]]

theorem repeatedBlueprint_sound : BlueprintSound repeatedBlueprint where
  header := legibleAt_of_all (by decide)
  people := by
    refine eachSound_of_items [_] rfl (List.forall_mem_singleton.mpr ?_)
    exact {
      legible := legibleAt_of_all (by decide)
      location := fun written h => nomatch h
      texts := by rfl
      technology := by rfl }
  systems := by
    refine eachSound_of_items [_] rfl (List.forall_mem_singleton.mpr ?_)
    exact {
      legible := legibleAt_of_all (by decide +kernel)
      location := fun written h => nomatch h
      texts := by rfl
      containers := eachSound_of_items [] rfl (by simp) }
  containers := eachSound_of_items [] rfl (by simp)
  components := eachSound_of_items [] rfl (by simp)
  relationships := eachSound_of_items [] rfl (by simp)
  views := eachSound_of_items [] rfl (by simp)
  elementStyles := eachSound_of_items [] rfl (by simp)
  relationshipStyles := eachSound_of_items [] rfl (by simp)

end C4Model.Bookshop

namespace C4Model.Blueprint

open Bookshop

theorem load_mirrors_bookshop :
    (∃ w, load {} blueprint = .ok w ∧ Mirrors {} blueprint w ∧ endpoints w = blueprintEndpoints) ∧
      (∃ error, load {} repeatedBlueprint = .error error) ∧
      ∃ key, load {} repeatedBlueprint = .error (.shape (.duplicateKey key)) ∧
        List.Duplicate key (keysOf (elementTables repeatedBlueprint)) := by
  obtain ⟨-, hfails, hduplicate, hsound⟩ := load_mirrors {} repeatedBlueprint
  have hrepeated : ¬ (keysOf (elementTables repeatedBlueprint)).Nodup := by
    decide +kernel
  obtain ⟨key, hkey⟩ := (hsound repeatedBlueprint_sound).2.mpr hrepeated
  refine ⟨?_, hfails hrepeated, key, hkey, hduplicate key hkey⟩
  have hends : (load {} blueprint).toOption.map endpoints = some blueprintEndpoints := by
    decide +kernel
  cases hload : load {} blueprint with
  | error error =>
      rw [hload] at hends
      cases hends
  | ok w =>
      rw [hload] at hends
      exact ⟨w, rfl, (load_mirrors {} blueprint).1 w hload, Option.some.inj hends⟩

end C4Model.Blueprint
