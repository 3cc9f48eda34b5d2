import C4Model.Proofs.Blueprint.Failure
import C4Model.Proofs.Blueprint.Load

/-! The lists of a blueprint, on all its levels. What is no array where a list should be is passed over, as
if there were nothing. In an array no item is passed over: one that does not fit ends the reading. -/

namespace C4Model.Blueprint

open Outcome

variable {α : Type}

/-- The table with some of its values changed, each by what is given for its key. -/
def withParts (parts : List (String × (Value → Value))) (table : Table) : Table :=
  table.map fun entry => (entry.1, (parts.lookup entry.1).getD id entry.2)

/-- The item, if it is a table with what is kept of it. -/
def keepItem (kept : Table → Table) : Value → Value
  | .table entries => .table (kept entries)
  | item => item

/-- An array with what is kept of its tables. What is no array counts as nothing. -/
def keepArray (kept : Table → Table) : Value → Value
  | .array items => .array (items.map (keepItem kept))
  | _ => .null

/-- What is kept of a table. What is none counts as nothing. -/
def keepTable (kept : Table → Table) : Value → Value
  | .table entries => .table (kept entries)
  | _ => .null

def componentKept : Table → Table :=
  withParts [("responsibilities", keepArray id), ("code", keepArray id)]

def containerKept : Table → Table :=
  withParts [("components", keepArray componentKept)]

def systemKept : Table → Table :=
  withParts [("containers", keepArray containerKept)]

def viewKept : Table → Table :=
  withParts [("include", keepArray id), ("exclude", keepArray id)]

def stylesKept : Table → Table :=
  withParts [("elements", keepArray id), ("relationships", keepArray id)]

/-- What is kept of a blueprint: of its lists at all levels those that are arrays. -/
def blueprintKept : Table → Table :=
  withParts [("people", keepArray id), ("systems", keepArray systemKept),
    ("containers", keepArray containerKept), ("components", keepArray componentKept),
    ("relationships", keepArray id), ("views", keepArray viewKept), ("styles", keepTable stylesKept)]

section Parts

variable {parts : List (String × (Value → Value))} {table : Table} {key : String}

theorem get?_withParts :
    (withParts parts table).get? key = (table.get? key).map ((parts.lookup key).getD id) := by
  induction table with
  | nil => rfl
  | cons entry rest ih =>
      have hrest : (withParts parts rest).lookup key =
          (rest.lookup key).map ((parts.lookup key).getD id) := ih
      rw [withParts, List.map_cons, ← withParts, Table.get?, Table.get?, List.lookup_cons,
        List.lookup_cons, hrest]
      cases hkey : key == entry.1 with
      | true => rw [← eq_of_beq hkey]; rfl
      | false => rfl

/-- Under all other keys there is what was there before. -/
theorem get?_withParts_of_not_mem (hkey : key ∉ parts.map Prod.fst) :
    (withParts parts table).get? key = table.get? key := by
  rw [get?_withParts, Association.lookup_eq_none hkey, Option.getD_none, Option.map_id_fun, id]

theorem readText?_withParts (hkey : key ∉ parts.map Prod.fst) :
    readText? (withParts parts table) key = readText? table key := by
  rw [readText?, readText?, Table.text?, Table.text?, Table.string?, Table.string?,
    get?_withParts_of_not_mem hkey]

theorem readText_withParts (hkey : key ∉ parts.map Prod.fst) :
    readText (withParts parts table) key = readText table key := by
  rw [readText, readText, readText?_withParts hkey]

theorem chooseAt_withParts [Labelled α] {field : ChoiceField} {absent : α} (hkey : key ∉ parts.map Prod.fst) :
    chooseAt (withParts parts table) key field absent = chooseAt table key field absent := by
  rw [chooseAt, chooseAt, readText?_withParts hkey]

theorem makeKnown_withParts {element : α → Element}
    {build : Allocator → Except FieldError (α × Allocator)} (hkey : "key" ∉ parts.map Prod.fst) :
    makeKnown (withParts parts table) element build = makeKnown table element build := by
  have hremember : ∀ element, remember (withParts parts table) element = remember table element := by
    intro element
    rw [remember, remember, readText?_withParts hkey]
  simp only [makeKnown, hremember]

theorem valueAt_withParts (hkey : key ∉ parts.map Prod.fst) :
    valueAt (withParts parts table) key = valueAt table key := by
  rw [valueAt, valueAt, get?_withParts_of_not_mem hkey]

theorem items_withParts {kept : Table → Table} (hpart : parts.lookup key = some (keepArray kept)) :
    (withParts parts table).items key = (table.items key).map (keepItem kept) := by
  rw [Table.items, Table.items, get?_withParts, hpart, Option.getD_some]
  rcases table.get? key with - | value
  · rfl
  · cases value <;> rfl

theorem subtable_withParts (hkey : key ∉ parts.map Prod.fst) :
    (withParts parts table).subtable key = table.subtable key := by
  rw [Table.subtable, Table.subtable, get?_withParts_of_not_mem hkey]

theorem subtable_withParts_of_table {inner : List (String × (Value → Value))}
    (hpart : parts.lookup key = some (keepTable (withParts inner))) :
    (withParts parts table).subtable key = withParts inner (table.subtable key) := by
  rw [Table.subtable, Table.subtable, get?_withParts, hpart, Option.getD_some]
  rcases table.get? key with - | value
  · rfl
  · cases value <;> rfl

theorem keepItem_id (item : Value) : keepItem id item = item := by
  cases item <;> rfl

theorem items_withParts_id (hpart : parts.lookup key = some (keepArray id)) :
    (withParts parts table).items key = table.items key := by
  rw [items_withParts hpart, List.map_congr_left fun item _ => keepItem_id item, List.map_id']

theorem tablesFrom_keepItem (kept : Table → Table) (holder key : String) (index : Nat)
    (items : List Value) : tablesFrom holder key index (items.map (keepItem kept)) =
      (tablesFrom holder key index items).map (List.map kept) := by
  induction items generalizing index with
  | nil => rfl
  | cons item rest ih =>
      cases item with
      | table entries =>
          rw [List.map_cons, keepItem, tablesFrom, tablesFrom, ih]
          cases tablesFrom holder key (index + 1) rest <;> rfl
      | _ => rfl

theorem readEach_withParts {kept : Table → Table} {read : Table → Reading α} {holder : String}
    (hpart : parts.lookup key = some (keepArray kept))
    (hread : ∀ entries, read (kept entries) = read entries) :
    readEach (withParts parts table) key holder read = readEach table key holder read := by
  have hsame : read ∘ kept = read := funext hread
  rw [readEach, readEach, tables, tables, items_withParts hpart, tablesFrom_keepItem]
  cases tablesFrom holder key 0 (table.items key) with
  | error fault => rfl
  | ok found =>
      change (found.map kept).mapM read = found.mapM read
      rw [List.mapM_map, hsame]

end Parts

variable (table : Table)

theorem readComponent_kept : readComponent (componentKept table) = readComponent table := by
  have hcode : readEach (componentKept table) "code" "component" readCodeElement =
      readEach table "code" "component" readCodeElement :=
    readEach_withParts rfl fun _ => rfl
  have hresponsibilities : responsibilitiesOf (componentKept table) = responsibilitiesOf table := by
    rw [responsibilitiesOf, responsibilitiesOf, componentKept, items_withParts_id rfl]
  rw [readComponent, readComponent, hcode, hresponsibilities]
  simp (disch := decide) only [componentKept, locationOf, readText?_withParts, readText_withParts,
    chooseAt_withParts, makeKnown_withParts]

theorem readContainer_kept : readContainer (containerKept table) = readContainer table := by
  have hcomponents : readEach (containerKept table) "components" "container" readComponent =
      readEach table "components" "container" readComponent :=
    readEach_withParts rfl readComponent_kept
  rw [readContainer, readContainer, hcomponents]
  simp (disch := decide) only [containerKept, locationOf, readText?_withParts, readText_withParts,
    chooseAt_withParts, makeKnown_withParts]

theorem readSoftwareSystem_kept : readSoftwareSystem (systemKept table) = readSoftwareSystem table := by
  have hcontainers : readEach (systemKept table) "containers" "system" readContainer =
      readEach table "containers" "system" readContainer :=
    readEach_withParts rfl readContainer_kept
  rw [readSoftwareSystem, readSoftwareSystem, hcontainers]
  simp (disch := decide) only [systemKept, locationOf, readText_withParts, chooseAt_withParts,
    makeKnown_withParts]

theorem readView_kept : readView (viewKept table) = readView table := by
  have hincluded : (viewKept table).items "include" = table.items "include" := items_withParts_id rfl
  have hexcluded : (viewKept table).items "exclude" = table.items "exclude" := items_withParts_id rfl
  rw [readView, readView, scopeOf, scopeOf, hincluded, hexcluded]
  simp (disch := decide) only [viewKept, readText?_withParts, readText_withParts, valueAt_withParts]

theorem readDeclaration_withParts {parts : List (String × (Value → Value))} {read : Table → Reading α}
    (hparent : "parent" ∉ parts.map Prod.fst)
    (hread : ∀ entries, read (withParts parts entries) = read entries)
    (field : String) (table : Table) :
    readDeclaration field read (withParts parts table) = readDeclaration field read table := by
  rw [readDeclaration, readDeclaration, hread, valueAt_withParts hparent]

theorem readWorkspace_kept (settings : Settings) (doc : Table) :
    readWorkspace settings (blueprintKept doc) = readWorkspace settings doc := by
  have hheader : (blueprintKept doc).subtable "workspace" = doc.subtable "workspace" :=
    subtable_withParts (by decide)
  have hstyles : (blueprintKept doc).subtable "styles" = stylesKept (doc.subtable "styles") :=
    subtable_withParts_of_table rfl
  have hpeople : readEach (blueprintKept doc) "people" "document" readPerson =
      readEach doc "people" "document" readPerson :=
    readEach_withParts rfl fun _ => rfl
  have hsystems : readEach (blueprintKept doc) "systems" "document" readSoftwareSystem =
      readEach doc "systems" "document" readSoftwareSystem :=
    readEach_withParts rfl readSoftwareSystem_kept
  have hcontainers : readEach (blueprintKept doc) "containers" "document"
      (readDeclaration "container parent" readContainer) =
        readEach doc "containers" "document" (readDeclaration "container parent" readContainer) :=
    readEach_withParts rfl (readDeclaration_withParts (by decide) readContainer_kept _)
  have hcomponents : readEach (blueprintKept doc) "components" "document"
      (readDeclaration "component parent" readComponent) =
        readEach doc "components" "document" (readDeclaration "component parent" readComponent) :=
    readEach_withParts rfl (readDeclaration_withParts (by decide) readComponent_kept _)
  have hrelationships : readEach (blueprintKept doc) "relationships" "document" readRelationship =
      readEach doc "relationships" "document" readRelationship :=
    readEach_withParts rfl fun _ => rfl
  have hviews : readEach (blueprintKept doc) "views" "document" readView =
      readEach doc "views" "document" readView :=
    readEach_withParts rfl readView_kept
  have helementStyles : readEach (stylesKept (doc.subtable "styles")) "elements" "styles" readElementStyle =
      readEach (doc.subtable "styles") "elements" "styles" readElementStyle :=
    readEach_withParts rfl fun _ => rfl
  have hrelationshipStyles :
      readEach (stylesKept (doc.subtable "styles")) "relationships" "styles" readRelationshipStyle =
        readEach (doc.subtable "styles") "relationships" "styles" readRelationshipStyle :=
    readEach_withParts rfl fun _ => rfl
  simp only [readWorkspace, hheader, hstyles, hpeople, hsystems, hcontainers, hcomponents, hrelationships,
    hviews, helementStyles, hrelationshipStyles]

/-- All items under a key are tables. -/
def TablesOnly (table : Table) (key : String) : Prop :=
  EachSound (fun _ => True) table key

structure ComponentListed (table : Table) : Prop where
  responsibilities : ∀ item ∈ table.items "responsibilities", ∃ text, item = .string text
  codeElements : TablesOnly table "code"

def ContainerListed (table : Table) : Prop :=
  EachSound ComponentListed table "components"

def SoftwareSystemListed (table : Table) : Prop :=
  EachSound ContainerListed table "containers"

structure ViewListed (table : Table) : Prop where
  included : ∀ item ∈ table.items "include", ReferenceSound item
  excluded : ∀ item ∈ table.items "exclude", ReferenceSound item

/-- The items of all arrays in a blueprint, on all levels, are what they should be. -/
structure BlueprintListed (doc : Table) : Prop where
  people : TablesOnly doc "people"
  systems : EachSound SoftwareSystemListed doc "systems"
  containers : EachSound ContainerListed doc "containers"
  components : EachSound ComponentListed doc "components"
  relationships : TablesOnly doc "relationships"
  views : EachSound ViewListed doc "views"
  elementStyles : TablesOnly (doc.subtable "styles") "elements"
  relationshipStyles : TablesOnly (doc.subtable "styles") "relationships"

section Mirrors

variable {known : Known} {table} {key : String} {values : List α} {sound : Table → Prop}

/-- What a relation says of its left side alone holds of all items of that side. -/
theorem forall_mem_left {β γ : Type} {related : β → γ → Prop} {sound : β → Prop} {items : List β}
    {values : List γ} (h : List.Forall₂ related items values)
    (hsound : ∀ item value, related item value → sound item) : ∀ item ∈ items, sound item :=
  ((List.forall₂_and_left _ _).mp (h.imp fun item value hitem => ⟨hsound item value hitem, hitem⟩)).1

theorem EachOf.eachSound {described : Table → α → Prop} (h : EachOf described table key values)
    (hsound : ∀ entries value, described entries value → sound entries) : EachSound sound table key :=
  eachSound_of_items _ h.items (forall_mem_left h.described hsound)

theorem eachSound_of_rows {form : RecordForm α} (h : form.Rows known table key values)
    (hsound : ∀ known entries value, form.described known entries value → sound entries) :
    EachSound sound table key := by
  have hall : List.Forall₂ (fun entries _ => sound entries) (tablesAt table key) values :=
    h.inTurn.forall₂ (fun _ => True)
      (fun known entries value _ hentries => ⟨hsound known entries value hentries, trivial⟩) trivial
  exact EachOf.eachSound ⟨h.items, hall⟩ fun _ _ hentries => hentries

theorem ComponentOf.listed {component : Component} (h : ComponentOf table component) :
    ComponentListed table where
  responsibilities item hitem := by
    rw [h.responsibilities] at hitem
    obtain ⟨text, -, rfl⟩ := List.mem_map.mp hitem
    exact ⟨text, rfl⟩
  codeElements := h.codeElements.eachSound fun _ _ _ => trivial

theorem ContainerOf.listed {container : Container} (h : ContainerOf table container) :
    ContainerListed table :=
  h.components.eachSound fun _ _ => ComponentOf.listed

theorem SoftwareSystemOf.listed {system : SoftwareSystem} (h : SoftwareSystemOf table system) :
    SoftwareSystemListed table :=
  h.containers.eachSound fun _ _ => ContainerOf.listed

theorem referenceSound_of_bound (item : Value) (ref : Reference) (h : Bound known item ref) :
    ReferenceSound item := by
  obtain ⟨text, htext, hblank, -⟩ := h
  exact ⟨text, htext, hblank⟩

theorem ViewOf.listed {view : View} (h : ViewOf known table view) : ViewListed table where
  included := forall_mem_left h.included referenceSound_of_bound
  excluded := forall_mem_left h.excluded referenceSound_of_bound

theorem Mirrors.listed {settings : Settings} {doc : Table} {w : Workspace} (h : Mirrors settings doc w) :
    BlueprintListed doc where
  people := h.people.eachSound fun _ _ _ => trivial
  systems := h.systems.eachSound fun _ _ => SoftwareSystemOf.listed
  containers := eachSound_of_rows h.containers fun _ _ _ hdeclared => hdeclared.2.listed
  components := eachSound_of_rows h.components fun _ _ _ hdeclared => hdeclared.2.listed
  relationships := h.relationships.eachSound fun _ _ _ => trivial
  views := h.views.eachSound fun _ _ => ViewOf.listed
  elementStyles := h.elementStyles.eachSound fun _ _ _ => trivial
  relationshipStyles := h.relationshipStyles.eachSound fun _ _ _ => trivial

end Mirrors

/-- What is loaded has a record for every item of the arrays in a blueprint, and an item that does not fit
ends the loading, with an error that tells what is wrong unless some number is too large to be written. But
what is no array where a list should be has no effect, on any level: if all else is sound, the rest is
loaded. -/
theorem load_lists (settings : Settings) (doc : Table) :
    load settings (blueprintKept doc) = load settings doc ∧
      (∀ w, load settings doc = .ok w → BlueprintListed doc ∧ Mirrors settings (blueprintKept doc) w) ∧
      (¬ BlueprintListed doc → ∃ error, load settings doc = .error error ∧
        Expected (Value.writableEntries doc = true) error) ∧
      (BlueprintSound doc → (keysOf (elementTables doc)).Nodup → ∃ w, load settings doc = .ok w) := by
  have hkept : load settings (blueprintKept doc) = load settings doc := by
    rw [load, load, readWorkspace_kept]
  refine ⟨hkept, fun w h => ⟨(mirrors_of_load h).listed, mirrors_of_load (hkept.trans h)⟩,
    fun hnot => ?_, fun hsound hkeys => ?_⟩
  · cases hload : load settings doc with
    | ok w => exact absurd (mirrors_of_load hload).listed hnot
    | error error => exact ⟨error, rfl, expected_of_load hload⟩
  · rcases load_of_sound settings hsound with hloaded | ⟨key, htaken⟩
    · exact hloaded
    · exact absurd hkeys (duplicate_of_load htaken).not_nodup

end C4Model.Blueprint

/-! ### A bookshop without lists -/

namespace C4Model.Bookshop

open Blueprint

/-- There is one reader, who stands in no list; nor does the container of the shop, nor what the view
includes. -/
def unlistedBlueprint : Table :=
  [("people", .table (elementTable (.string "reader") "Reader" [])),
    ("systems", .array [.table (elementTable (.string "shop") "Shop"
      [("containers", .table (elementTable (.string "stock") "Stock" []))])]),
    ("views", .array [.table [("type", .string "container"), ("element", .string "shop"),
      ("include", .string "*")]])]

/-- An item among the people that is no table. -/
def numberedBlueprint : Table :=
  [("people", .array [.int 7])]

theorem unlistedBlueprint_sound : BlueprintSound unlistedBlueprint where
  header := legibleAt_of_all (by decide)
  people := eachSound_of_items [] rfl (by simp)
  systems := by
    refine eachSound_of_items [_] rfl (List.forall_mem_singleton.mpr ?_)
    exact {
      legible := legibleAt_of_all (by decide)
      location := fun written h => nomatch h
      texts := by rfl
      containers := eachSound_of_items [] rfl (by simp) }
  containers := eachSound_of_items [] rfl (by simp)
  components := eachSound_of_items [] rfl (by simp)
  relationships := eachSound_of_items [] rfl (by simp)
  views := by
    refine eachSound_of_items [_] rfl (List.forall_mem_singleton.mpr ?_)
    exact {
      legible := legibleAt_of_all (by decide)
      typed := nofun
      viewType := fun written h => ⟨.container, Option.some.inj h ▸ rfl⟩
      element := .inr ⟨"shop", rfl, by decide⟩
      included := List.forall_mem_nil _
      excluded := List.forall_mem_nil _ }
  elementStyles := eachSound_of_items [] rfl (by simp)
  relationshipStyles := eachSound_of_items [] rfl (by simp)

end C4Model.Bookshop

namespace C4Model.Blueprint

open Bookshop

/-- The reader, the container and what the view includes are lost without an error. A number among the people
is not. -/
theorem load_lists_bookshop :
    (∃ w, load {} unlistedBlueprint = .ok w ∧ w.people = [] ∧ w.systems.map (·.containers) = [[]] ∧
      w.views.map (·.included) = [[]]) ∧
      ∃ error, load {} numberedBlueprint = .error error ∧ Reported error := by
  constructor
  · have hkeys : (keysOf (elementTables unlistedBlueprint)).Nodup := by
      decide +kernel
    obtain ⟨w, hload⟩ := (load_lists {} unlistedBlueprint).2.2.2 unlistedBlueprint_sound hkeys
    have hmirrors := ((load_lists {} unlistedBlueprint).2.1 w hload).2
    have hpeople : w.people = [] := List.forall₂_nil_left_iff.mp hmirrors.people.described
    obtain ⟨system, _, hsystem, hrest, hsystems⟩ :=
      List.forall₂_cons_left_iff.mp hmirrors.systems.described
    obtain ⟨view, _, hview, hothers, hviews⟩ := List.forall₂_cons_left_iff.mp hmirrors.views.described
    obtain rfl := List.forall₂_nil_left_iff.mp hrest
    obtain rfl := List.forall₂_nil_left_iff.mp hothers
    have hcontainers : system.containers = [] := List.forall₂_nil_left_iff.mp hsystem.containers.described
    have hincluded : view.included = [] := List.forall₂_nil_left_iff.mp hview.included
    refine ⟨w, hload, hpeople, ?_, ?_⟩
    · rw [hsystems, List.map_singleton, hcontainers]
    · rw [hviews, List.map_singleton, hincluded]
  · have hunlisted : ¬ BlueprintListed numberedBlueprint := by
      intro hlisted
      obtain ⟨entries, hentries, -⟩ := hlisted.people (.int 7) List.mem_cons_self
      cases hentries
    obtain ⟨error, hload, hexpected⟩ := (load_lists {} numberedBlueprint).2.2.1 hunlisted
    have hwritable : Value.writableEntries numberedBlueprint = true := by decide +kernel
    exact ⟨error, hload, hexpected.resolve_right fun hlarge => hlarge.2 hwritable⟩

end C4Model.Blueprint
