import C4Model.Blueprint.Element
import C4Model.Proofs.Blueprint.Rows

/-! Elements as their tables describe them. Each reader makes the element that its table describes, after all
that the element holds, and leaves behind a catalogue that holds these elements in addition. -/

namespace C4Model.Blueprint

open Outcome FieldRule

/-- The tables under a key, and nothing else, describe the values one by one. -/
structure EachOf {α : Type} (described : Table → α → Prop) (table : Table) (key : String)
    (values : List α) : Prop where
  items : table.items key = (tablesAt table key).map .table
  described : List.Forall₂ described (tablesAt table key) values

/-- What the tables of all elements have in common. -/
structure CommonOf (table : Table) (element : Element) : Prop where
  name : element.name = textAt table "name"
  description : element.description = textAt table "description"
  location : ChoiceAt table "location" .internal element.location

structure CodeElementOf (table : Table) (code : CodeElement) : Prop where
  common : CommonOf table (.code code)
  codeType : ∃ written, table.string? "type" = some written ∧
    Labelled.ofText? written = some code.codeType
  language : code.language = optionalText (table.string? "language")
  filePath : code.filePath = optionalText (table.string? "file_path")

structure ComponentOf (table : Table) (component : Component) : Prop where
  common : CommonOf table (.component component)
  technology : component.technology = optionalText (table.string? "technology")
  responsibilities : table.items "responsibilities" = component.responsibilities.map .string
  codeElements : EachOf CodeElementOf table "code" component.codeElements

/-- A type that is no category is the container's own label. -/
structure ContainerOf (table : Table) (container : Container) : Prop where
  common : CommonOf table (.container container)
  category : match (table.string? "type").bind Labelled.ofText? with
    | some category => container.containerType = category ∧ container.typeLabel = none
    | none => container.containerType = .other ∧
        container.typeLabel = optionalText (table.string? "type")
  technology : container.technology = optionalText (table.string? "technology")
  components : EachOf ComponentOf table "components" container.components

structure SoftwareSystemOf (table : Table) (system : SoftwareSystem) : Prop where
  common : CommonOf table (.softwareSystem system)
  containers : EachOf ContainerOf table "containers" system.containers

structure PersonOf (table : Table) (person : Person) : Prop where
  common : CommonOf table (.person person)
  technology : person.technology = optionalText (table.string? "technology")

section Keeping

variable {α : Type} {known : Known} {before after : Catalogue} {table : Table}

/-- Checks fields and issues an identity to what they become. -/
def issuedBy (check : Except FieldError Unit) (kind : ElementKind) (name : String)
    (identified : Identity → α) (allocator : Allocator) : Except FieldError (α × Allocator) := do
  check
  let (identity, allocator) := allocator.mint kind name
  return (identified identity, allocator)

theorem run_make_eq_ok {build : Allocator → Except FieldError (α × Allocator)} {value : α}
    (h : (make build).run before = .ok (value, after)) :
    ∃ allocator, build before.allocator = .ok (value, allocator) ∧
      after = { before with allocator } := by
  obtain ⟨catalogue, between, hget, h⟩ := run_bind_eq_ok_iff.mp h
  obtain ⟨rfl, rfl⟩ := Prod.mk.inj (Except.ok.inj hget)
  obtain ⟨⟨made, allocator⟩, between, hbuild, h⟩ := run_bind_eq_ok_iff.mp h
  rw [run_liftM, map_eq_ok_iff] at hbuild
  obtain ⟨built, hbuild, hsame⟩ := hbuild
  obtain ⟨rfl, rfl⟩ := Prod.mk.inj hsame
  obtain ⟨_, last, hset, h⟩ := run_bind_eq_ok_iff.mp h
  obtain ⟨-, rfl⟩ := Prod.mk.inj (Except.ok.inj hset)
  obtain ⟨rfl, rfl⟩ := run_pure_eq_ok_iff.mp h
  exact ⟨allocator, mapError_eq_ok_iff.mp hbuild, rfl⟩

theorem keyless_make (build : Allocator → Except FieldError (α × Allocator)) :
    Keyless (make build) := by
  have hget : Keyless (get : Reading Catalogue) := fun _ _ h => nomatch h
  refine hget.bind fun catalogue => (Keyless.field _).bind fun made => ?_
  have hset : Keyless (set { catalogue with allocator := made.2 } : Reading PUnit) :=
    fun _ _ h => nomatch h
  exact hset.bind fun _ => .pure _

/-- An element is kept if its table has no key or a new one. -/
theorem run_remember_eq_ok {element : Element} {done : Unit}
    (h : (remember table element).run before = .ok (done, after)) :
    after = { before with keyed := before.keyed ++ Known.keyed [(table, element)] } ∧
      ∀ key, table.string? "key" = some key → before.keyed.lookup key = none := by
  have hpeeks : Peeks (fun _ => True) (readText? table "key") _ := peeks_readText? _ _
  obtain ⟨written, rfl, h⟩ := hpeeks.ok_bind trivial h
  cases hkey : table.string? "key" with
  | none =>
      rw [hkey] at h
      obtain ⟨-, rfl⟩ := run_pure_eq_ok_iff.mp h
      simp [Known.keyed, hkey]
  | some key =>
      simp only [hkey] at h
      obtain ⟨catalogue, between, hget, h⟩ := run_bind_eq_ok_iff.mp h
      obtain ⟨rfl, rfl⟩ := Prod.mk.inj (Except.ok.inj hget)
      cases hlookup : before.keyed.lookup key with
      | some found =>
          simp only [hlookup] at h
          cases h
      | none =>
          simp only [hlookup] at h
          obtain ⟨-, rfl⟩ := Prod.mk.inj (Except.ok.inj h)
          refine ⟨by simp [Known.keyed, hkey], fun other hother => ?_⟩
          obtain rfl := Option.some.inj hother
          exact hlookup

theorem Catalogue.Holds.remember_taken (hknown : before.Holds known) {allocator : Allocator}
    {element : Element} {key : String}
    (h : (remember table element).run { before with allocator } =
      .error (.shape (.duplicateKey key))) :
    List.Duplicate key (keysOf (known.tables ++ [table])) := by
  have hpeeks : Peeks (fun _ => True) (readText? table "key") _ := peeks_readText? _ _
  obtain ⟨written, rfl, h⟩ := hpeeks.taken_bind trivial h
  cases hkey : table.string? "key" with
  | none =>
      rw [hkey] at h
      cases h
  | some written =>
      simp only [hkey] at h
      rcases run_bind_eq_error_iff.mp h with h | ⟨catalogue, last, hget, h⟩
      · cases h
      · obtain ⟨rfl, rfl⟩ := Prod.mk.inj (Except.ok.inj hget)
        cases hlookup : before.keyed.lookup written with
        | none =>
            simp only [hlookup] at h
            cases h
        | some found =>
            simp only [hlookup] at h
            obtain rfl : written = key := by
              have hfault := (error_eq_shape_iff.mp (run_refuse_eq_error_iff.mp h)).2
              exact Fault.duplicateKey.inj hfault
            have hmem : written ∈ keysOf known.tables := by
              by_contra hfresh
              rw [hknown.lookup_eq_none_iff.mpr hfresh] at hlookup
              cases hlookup
            have htable : keysOf [table] = [written] := by
              simp [keysOf, hkey]
            rw [keysOf_append, htable, List.duplicate_iff_two_le_count, List.count_append,
              List.count_singleton_self]
            exact Nat.succ_le_succ (List.count_pos_iff.mpr hmem)

variable {check : Except FieldError Unit} {kind : ElementKind} {name : String}
  {identified : Identity → α} {element : α → Element} {described : α → Prop}

/-- The element that a reader ends with is known from then on. -/
theorem makes_makeKnown (hidentity : ∀ identity, (element (identified identity)).identity = identity)
    (hdescribed : ∀ identity, described (identified identity)) :
    Makes known [table] described (fun value => [(table, element value)])
      (makeKnown table element (issuedBy check kind name identified)) where
  ok := by
    intro before value after hknown h
    obtain ⟨made, between, hmake, h⟩ := run_bind_eq_ok_iff.mp h
    obtain ⟨_, last, hremember, h⟩ := run_bind_eq_ok_iff.mp h
    obtain ⟨rfl, rfl⟩ := run_pure_eq_ok_iff.mp h
    obtain ⟨allocator, hbuild, rfl⟩ := run_make_eq_ok hmake
    obtain ⟨-, -, hissued⟩ := bind_eq_ok_iff.mp hbuild
    obtain ⟨rfl, rfl⟩ := Prod.mk.inj (Except.ok.inj hissued)
    obtain ⟨rfl, hfresh⟩ := run_remember_eq_ok hremember
    refine ⟨hdescribed _, ?keyed, ?distinct, ?issued, ?tokens⟩
    case keyed => rw [hknown.keyed, Known.keyed, Known.keyed, Known.keyed, List.filterMap_append]
    case distinct =>
      rw [tables_append, keysOf_append]
      -- The lookup that found nothing is what keeps the keys distinct.
      refine List.nodup_append.mpr ⟨hknown.distinct, ?_, ?_⟩
      · cases hkey : table.string? "key" <;> simp [Known.tables, keysOf, hkey]
      · intro key hmem other hother hsame
        obtain ⟨written, htable, hkey⟩ := List.mem_filterMap.mp hother
        obtain rfl : written = table := by simpa [Known.tables] using htable
        exact hknown.lookup_eq_none_iff.mp (hfresh _ hkey) (hsame ▸ hmem)
    case issued => simp [hknown.issued]
    case tokens => simp [hknown.tokens, hidentity, hknown.issued, List.range_succ]
  taken := by
    intro before key hknown h
    rcases run_bind_eq_error_iff.mp h with h | ⟨made, between, hmake, h⟩
    · exact absurd h (keyless_make _ _ _)
    · obtain ⟨allocator, -, rfl⟩ := run_make_eq_ok hmake
      rcases run_bind_eq_error_iff.mp h with h | ⟨_, last, -, h⟩
      · exact hknown.remember_taken h
      · cases h

end Keeping

/-- The form of an element that is read after what it holds. -/
def elementForm {α : Type} (described : Table → α → Prop) (element : α → Element)
    (heldTables : Table → List Table) (held : α → List Element) : RecordForm α where
  described _ := described
  tables table := heldTables table ++ [table]
  made value := held value ++ [element value]

def codeForm : RecordForm CodeElement :=
  elementForm CodeElementOf .code (fun _ => []) fun _ => []

def componentForm : RecordForm Component :=
  elementForm ComponentOf .component (codeForm.tablesUnder · "code")
    fun component => component.codeElements.flatMap codeForm.made

def containerForm : RecordForm Container :=
  elementForm ContainerOf .container (componentForm.tablesUnder · "components")
    fun container => container.components.flatMap componentForm.made

def systemForm : RecordForm SoftwareSystem :=
  elementForm SoftwareSystemOf .softwareSystem (containerForm.tablesUnder · "containers")
    fun system => system.containers.flatMap containerForm.made

def personForm : RecordForm Person :=
  elementForm PersonOf .person (fun _ => []) fun _ => []

/-- What becomes known with an element is what it holds, and then itself. -/
theorem adds_elementForm {α : Type} {described : Table → α → Prop} {element : α → Element}
    {heldTables : Table → List Table} {held : α → List Element} {table : Table} {value : α}
    (hlength : (heldTables table).length = (held value).length) :
    (elementForm described element heldTables held).adds table value =
      (heldTables table).zip (held value) ++ [(table, element value)] := by
  rw [RecordForm.adds, elementForm, List.zip_append hlength]
  rfl

section Rows

variable {α : Type} {described : Table → α → Prop} {element : α → Element}
  {heldTables : Table → List Table} {held : α → List Element}

/-- Elements are described by their tables alone, whatever else is known. -/
theorem eachOf_of_rows {known : Known} {table : Table} {key : String} {values : List α}
    (h : (elementForm described element heldTables held).Rows known table key values) :
    EachOf described table key values := by
  refine ⟨h.items, h.inTurn.forall₂ (fun _ => True) ?_ trivial⟩
  exact fun _ _ _ _ hfirst => ⟨hfirst, trivial⟩

end Rows

section Owner

variable {α β : Type} {form : RecordForm β} {read : Table → Reading β} {known : Known} {table : Table}
  {key holder : String} {described : Table → α → Prop} {element : α → Element} {held : α → List Element}

/-- An element that is read after a row of elements that it holds. -/
theorem makes_owner (hread : form.ReadBy read) {next : List β → Reading α}
    (hnext : ∀ values, form.Rows known table key values →
      Makes (known ++ form.knownUnder table key values) [table]
        (fun value => described table value ∧ held value = values.flatMap form.made)
        (fun value => [(table, element value)]) (next values)) :
    Makes known (form.tablesUnder table key ++ [table]) (described table)
      ((elementForm described element (form.tablesUnder · key) held).adds table)
      (readEach table key holder read >>= next) where
  ok := by
    intro before value after hknown h
    obtain ⟨values, between, heach, h⟩ := run_bind_eq_ok_iff.mp h
    obtain ⟨hrows, hbetween⟩ := hread.each_ok hknown heach
    obtain ⟨⟨hdescribed, hheld⟩, hafter⟩ := (hnext values hrows).ok hbetween h
    refine ⟨hdescribed, ?_⟩
    rw [adds_elementForm (by rw [hheld]; exact hrows.length hread), hheld, ← List.append_assoc]
    exact hafter
  taken := by
    intro before taken hknown h
    rw [← List.append_assoc]
    rcases run_bind_eq_error_iff.mp h with h | ⟨values, between, heach, h⟩
    · exact duplicate_append _ (hread.each_taken hknown h)
    · obtain ⟨hrows, hbetween⟩ := hread.each_ok hknown heach
      have htaken := (hnext values hrows).taken hbetween h
      rwa [tables_append, hrows.tables_knownUnder hread] at htaken

end Owner

theorem readPerson_readBy : personForm.ReadBy readPerson where
  length _ _ _ _ := rfl
  makes known table := by
    refine .peek (peeks_readText _ _) fun name hname =>
      .peek (peeks_readText _ _) fun description hdescription =>
      .peek (peeks_chooseAt _ _ _ _) fun location hlocation =>
      .peek (peeks_readText? _ _) fun technology htechnology => ?_
    subst hname hdescription htechnology
    exact makes_makeKnown (fun _ => rfl) fun _ => ⟨⟨rfl, rfl, hlocation⟩, rfl⟩

theorem readCodeElement_readBy : codeForm.ReadBy readCodeElement where
  length _ _ _ _ := rfl
  makes known table := by
    refine .peek (peeks_readText? _ _) fun type htype => ?_
    cases type with
    | none => exact .refuse nofun
    | some written =>
        refine .peek (peeks_readText _ _) fun name hname =>
          .peek (peeks_readText _ _) fun description hdescription =>
          .peek (peeks_choose _ _) fun codeType hcodeType =>
          .peek (peeks_readText? _ _) fun language hlanguage =>
          .peek (peeks_readText? _ _) fun filePath hfilePath =>
          .peek (peeks_chooseAt _ _ _ _) fun location hlocation => ?_
        subst hname hdescription hlanguage hfilePath
        exact makes_makeKnown (fun _ => rfl) fun _ =>
          ⟨⟨rfl, rfl, hlocation⟩, ⟨written, htype, hcodeType⟩, rfl, rfl⟩

theorem peeks_responsibilitiesOf {fits : Catalogue → Prop} (table : Table) :
    Peeks fits (responsibilitiesOf table) fun responsibilities =>
      table.items "responsibilities" = responsibilities.map .string := by
  have hitems : Peeks fits (responsibilitiesOf table)
      (List.Forall₂ (fun item text => item = Value.string text) (table.items "responsibilities")) := by
    refine .mapM (fun item => ?_) _
    cases item with
    | string text => exact (Peeks.pure text).mono fun _ htext => htext ▸ rfl
    | _ => exact .refuse nofun
  refine hitems.mono fun responsibilities h => ?_
  rwa [← List.forall₂_map_right_iff, List.forall₂_eq_eq_eq] at h

theorem readComponent_readBy : componentForm.ReadBy readComponent where
  length := by
    intro known table component h
    have hcode := codeForm.length_flatMap (h.codeElements.described.imp fun _ _ _ => rfl)
    simp [componentForm, elementForm, RecordForm.tablesUnder, hcode]
  makes known table := by
    refine .peek (peeks_responsibilitiesOf _) fun responsibilities hresponsibilities =>
      makes_owner readCodeElement_readBy fun codeElements hrows =>
      .peek (peeks_readText _ _) fun name hname =>
      .peek (peeks_readText _ _) fun description hdescription =>
      .peek (peeks_readText? _ _) fun technology htechnology =>
      .peek (peeks_chooseAt _ _ _ _) fun location hlocation => ?_
    subst hname hdescription htechnology
    exact makes_makeKnown (fun _ => rfl) fun _ =>
      ⟨⟨⟨rfl, rfl, hlocation⟩, rfl, hresponsibilities, eachOf_of_rows hrows⟩, rfl⟩

theorem category_containerTypeOf (written : Option String) :
    match written.bind Labelled.ofText? with
    | some category => (containerTypeOf written).1 = category ∧
        optionalText (containerTypeOf written).2 = none
    | none => (containerTypeOf written).1 = .other ∧
        optionalText (containerTypeOf written).2 = optionalText written := by
  cases written with
  | none => simp [containerTypeOf]
  | some word =>
      cases hcategory : (Labelled.ofText? word : Option ContainerType) <;>
        simp [containerTypeOf, hcategory, optionalText]

theorem readContainer_readBy : containerForm.ReadBy readContainer where
  length := by
    intro known table container h
    have hcomponents := componentForm.length_flatMap
      (h.components.described.imp (readComponent_readBy.length []))
    simp [containerForm, elementForm, RecordForm.tablesUnder, hcomponents]
  makes known table := by
    refine .peek (peeks_readText? _ _) fun type htype =>
      makes_owner readComponent_readBy fun components hrows =>
      .peek (peeks_readText _ _) fun name hname =>
      .peek (peeks_readText _ _) fun description hdescription =>
      .peek (peeks_readText? _ _) fun technology htechnology =>
      .peek (peeks_chooseAt _ _ _ _) fun location hlocation => ?_
    subst htype hname hdescription htechnology
    exact makes_makeKnown (fun _ => rfl) fun _ =>
      ⟨⟨⟨rfl, rfl, hlocation⟩, category_containerTypeOf _, rfl, eachOf_of_rows hrows⟩, rfl⟩

theorem readSoftwareSystem_readBy : systemForm.ReadBy readSoftwareSystem where
  length := by
    intro known table system h
    have hcontainers := containerForm.length_flatMap
      (h.containers.described.imp (readContainer_readBy.length []))
    simp [systemForm, elementForm, RecordForm.tablesUnder, hcontainers]
  makes known table := by
    refine makes_owner readContainer_readBy fun containers hrows =>
      .peek (peeks_readText _ _) fun name hname =>
      .peek (peeks_readText _ _) fun description hdescription =>
      .peek (peeks_chooseAt _ _ _ _) fun location hlocation => ?_
    subst hname hdescription
    exact makes_makeKnown (fun _ => rfl) fun _ => ⟨⟨⟨rfl, rfl, hlocation⟩, eachOf_of_rows hrows⟩, rfl⟩

end C4Model.Blueprint
