import C4Model.Proofs.Blueprint.Record

/-! How reading a blueprint fails: for a fault in its shape, or because a field of an element or a
relationship is refused. A number that is too large to be written ends the reading too, where it is read as
a text or a message would show it. Two definitions of one name clash in a text only, never in the table that
has been read from it. -/

namespace C4Model.Blueprint

open Hierarchy Outcome

variable {α : Type}

/-- The errors that tell what is wrong with a blueprint. -/
def Reported : LoadError → Prop
  | .shape _ => True
  | .field _ => True
  | _ => False

/-- The errors that reading a table ends with. If it is clear of numbers that are too large, all are
reported. -/
def Expected (clear : Prop) (error : LoadError) : Prop :=
  Reported error ∨ error = .numeral .tooLarge ∧ ¬clear

section Parts

variable {table : Table} {key : String}

theorem writable_of_mem_items {items : List Value} (h : Value.writableItems items = true) :
    ∀ item ∈ items, item.writable = true := by
  induction items with
  | nil => exact nofun
  | cons item rest ih =>
      rw [Value.writableItems, Bool.and_eq_true] at h
      exact List.forall_mem_cons.mpr ⟨h.1, ih h.2⟩

theorem writable_of_get? {value : Value} (h : Value.writableEntries table = true)
    (hvalue : table.get? key = some value) : value.writable = true := by
  induction table with
  | nil => cases hvalue
  | cons entry rest ih =>
      obtain ⟨_, found⟩ := entry
      rw [Value.writableEntries, Value.writableEntry, Bool.and_eq_true] at h
      rw [Table.get?, List.lookup_cons] at hvalue
      split at hvalue
      · obtain rfl := Option.some.inj hvalue
        exact h.1
      · exact ih h.2 hvalue

theorem writable_valueAt (h : Value.writableEntries table = true) : (valueAt table key).writable = true := by
  rw [valueAt]
  cases hvalue : table.get? key with
  | none => rfl
  | some value => exact writable_of_get? h hvalue

theorem writable_items (h : Value.writableEntries table = true) :
    ∀ item ∈ table.items key, item.writable = true := by
  rw [Table.items]
  split
  case h_1 items hitems => exact writable_of_mem_items (writable_of_get? h hitems)
  case h_2 => exact nofun

theorem writable_subtable (h : Value.writableEntries table = true) :
    Value.writableEntries (table.subtable key) = true := by
  rw [Table.subtable]
  split
  case h_1 entries hentries => exact writable_of_get? h hentries
  case h_2 => rfl

end Parts

variable {clear : Prop} {table : Table}

theorem expected_error {fault : Fault} (h : clear → ∀ value ∈ fault.shown?, value.writable = true) :
    Expected clear fault.error := by
  rw [Fault.error]
  split
  case isTrue => exact .inl trivial
  case isFalse hunwritable =>
    refine .inr ⟨rfl, fun hclear => hunwritable ?_⟩
    rw [Option.all_eq_true]
    exact h hclear

theorem expected_refuse {fault : Fault} (h : clear → ∀ value ∈ fault.shown?, value.writable = true) :
    FailsWith (Expected clear) (refuse fault : Reading α) := by
  rintro before error herror
  rw [← run_refuse_eq_error_iff.mp herror]
  exact expected_error h

/-- A message that shows no value can always be given. -/
theorem expected_refuse_unshown {fault : Fault} (h : fault.shown? = none) :
    FailsWith (Expected clear) (refuse fault : Reading α) := by
  refine expected_refuse fun _ value hvalue => ?_
  rw [h] at hvalue
  cases hvalue

theorem expected_refuse_shown {fault : Fault} {shown : Value} (hshown : fault.shown? = some shown)
    (h : clear → shown.writable = true) : FailsWith (Expected clear) (refuse fault : Reading α) := by
  refine expected_refuse fun hclear value hvalue => ?_
  obtain rfl := Option.some.inj (hshown.symm.trans hvalue)
  exact h hclear

theorem expected_field (outcome : Except FieldError α) :
    FailsWith (Expected clear) (liftM (outcome.mapError LoadError.field) : Reading α) := by
  intro before error h
  rw [run_liftM, map_eq_error_iff, mapError_eq_error_iff] at h
  obtain ⟨cause, -, rfl⟩ := h
  exact .inl trivial

theorem expected_get : FailsWith (Expected clear) (get : Reading Catalogue) :=
  fun _ _ h => nomatch h

theorem expected_set (catalogue : Catalogue) : FailsWith (Expected clear) (set catalogue : Reading PUnit) :=
  fun _ _ h => nomatch h

theorem expected_choose [Labelled α] (field : ChoiceField) (written : String) :
    FailsWith (Expected clear) (choose field written : Reading α) := by
  rw [choose]
  cases Labelled.ofText? (α := α) written with
  | some member => exact .pure member
  | none => exact expected_refuse_unshown rfl

theorem expected_make (build : Allocator → Except FieldError (α × Allocator)) :
    FailsWith (Expected clear) (make build) :=
  expected_get.bind fun _ _ _ _ => (expected_field _).bind fun _ _ _ _ =>
    (expected_set _).bind fun _ _ _ _ => .pure _

theorem expected_reference (field : String) {written : Value} (h : clear → written.writable = true) :
    FailsWith (Expected clear) (reference field written) := by
  have hrefuse : FailsWith (Expected clear) (refuse (.notAReference field written) : Reading Reference) :=
    expected_refuse_shown rfl h
  cases written with
  | string text =>
      rw [reference]
      split
      · exact hrefuse
      · exact expected_get.bind fun _ _ _ _ => .pure _
  | _ => exact hrefuse

theorem expected_references (field : String) {items : List Value}
    (h : clear → ∀ item ∈ items, item.writable = true) :
    FailsWith (Expected clear) (items.mapM (reference field)) :=
  .mapM fun item hitem => expected_reference field fun hclear => h hclear item hitem

section Texts

variable (h : clear → Value.writableEntries table = true)

include h

theorem expected_readText? (key : String) : FailsWith (Expected clear) (readText? table key) := by
  intro before error herror
  rw [readText?, run_liftM, map_eq_error_iff, mapError_eq_error_iff] at herror
  obtain ⟨cause, hcause, rfl⟩ := herror
  obtain ⟨rfl, n, hvalue, hlarge⟩ := Table.text?_eq_error hcause
  refine .inr ⟨rfl, fun hclear => ?_⟩
  rw [writable_of_get? (h hclear) hvalue] at hlarge
  cases hlarge

theorem expected_readText (key : String) : FailsWith (Expected clear) (readText table key) :=
  (expected_readText? h key).map

theorem expected_chooseAt [Labelled α] (key : String) (field : ChoiceField) (absent : α) :
    FailsWith (Expected clear) (chooseAt table key field absent) := by
  refine (expected_readText? h key).bind fun written _ _ _ => ?_
  cases written with
  | none => exact .pure _
  | some written => exact expected_choose _ _

theorem expected_tables (key holder : String) : FailsWith (Expected clear) (tables table key holder) := by
  have hitems : ∀ index items fault, (clear → ∀ item ∈ items, item.writable = true) →
      tablesFrom holder key index items = .error fault → Expected clear fault.error := by
    intro index items fault hitems hfault
    induction items generalizing index with
    | nil => cases hfault
    | cons item rest ih =>
        cases item with
        | table entries =>
            rcases bind_eq_error_iff.mp hfault with hfault | ⟨_, -, hfault⟩
            · exact ih (index + 1) (fun hclear => (List.forall_mem_cons.mp (hitems hclear)).2) hfault
            · cases hfault
        | _ =>
            obtain rfl := Except.error.inj hfault
            refine expected_error fun hclear value hvalue => ?_
            obtain rfl := Option.some.inj hvalue
            exact hitems hclear _ List.mem_cons_self
  intro before error herror
  rw [tables, run_liftM, map_eq_error_iff, mapError_eq_error_iff] at herror
  obtain ⟨fault, hfault, rfl⟩ := herror
  exact hitems _ _ _ (fun hclear => writable_items (h hclear)) hfault

theorem expected_readEach {read : Table → Reading α}
    (hread : ∀ entries, (clear → Value.writableEntries entries = true) →
      FailsWith (Expected clear) (read entries))
    (key holder : String) : FailsWith (Expected clear) (readEach table key holder read) := by
  refine (expected_tables h key holder).bind fun found before after hfound => .mapM fun entries hentries => ?_
  obtain ⟨hitems, -⟩ := run_tables_eq_ok hfound
  refine hread entries fun hclear => ?_
  have hitem : Value.table entries ∈ table.items key := by
    rw [hitems]
    exact List.mem_map_of_mem hentries
  exact writable_items (h hclear) _ hitem

theorem expected_makeKnown (element : α → Element)
    (build : Allocator → Except FieldError (α × Allocator)) :
    FailsWith (Expected clear) (makeKnown table element build) := by
  have hremember : ∀ element, FailsWith (Expected clear) (remember table element) := by
    intro element
    refine (expected_readText? h "key").bind fun written _ _ _ => ?_
    cases written with
    | none => exact .pure _
    | some key =>
        refine expected_get.bind fun catalogue _ _ _ => ?_
        split
        · exact expected_refuse_unshown rfl
        · exact expected_set _
  exact (expected_make build).bind fun _ _ _ _ => (hremember _).bind fun _ _ _ _ => .pure _

theorem expected_readPerson : FailsWith (Expected clear) (readPerson table) :=
  (expected_readText h _).bind fun _ _ _ _ => (expected_readText h _).bind fun _ _ _ _ =>
    (expected_chooseAt h _ _ _).bind fun _ _ _ _ => (expected_readText? h _).bind fun _ _ _ _ =>
    expected_makeKnown h _ _

theorem expected_readCodeElement : FailsWith (Expected clear) (readCodeElement table) := by
  refine (expected_readText? h _).bind fun type _ _ _ => ?_
  cases type with
  | none => exact expected_refuse_shown rfl fun hclear => writable_valueAt (h hclear)
  | some written =>
      exact (expected_readText h _).bind fun _ _ _ _ => (expected_readText h _).bind fun _ _ _ _ =>
        (expected_choose _ _).bind fun _ _ _ _ => (expected_readText? h _).bind fun _ _ _ _ =>
        (expected_readText? h _).bind fun _ _ _ _ => (expected_chooseAt h _ _ _).bind fun _ _ _ _ =>
        expected_makeKnown h _ _

theorem expected_readComponent : FailsWith (Expected clear) (readComponent table) := by
  have hresponsibilities : FailsWith (Expected clear) (responsibilitiesOf table) := by
    refine .mapM fun item _ => ?_
    cases item with
    | string text => exact .pure _
    | _ => exact expected_refuse_unshown rfl
  exact hresponsibilities.bind fun _ _ _ _ =>
    (expected_readEach h (fun _ => expected_readCodeElement) _ _).bind fun _ _ _ _ =>
    (expected_readText h _).bind fun _ _ _ _ => (expected_readText h _).bind fun _ _ _ _ =>
    (expected_readText? h _).bind fun _ _ _ _ => (expected_chooseAt h _ _ _).bind fun _ _ _ _ =>
    expected_makeKnown h _ _

theorem expected_readContainer : FailsWith (Expected clear) (readContainer table) :=
  (expected_readText? h _).bind fun _ _ _ _ =>
    (expected_readEach h (fun _ => expected_readComponent) _ _).bind fun _ _ _ _ =>
    (expected_readText h _).bind fun _ _ _ _ => (expected_readText h _).bind fun _ _ _ _ =>
    (expected_readText? h _).bind fun _ _ _ _ => (expected_chooseAt h _ _ _).bind fun _ _ _ _ =>
    expected_makeKnown h _ _

theorem expected_readSoftwareSystem : FailsWith (Expected clear) (readSoftwareSystem table) :=
  (expected_readEach h (fun _ => expected_readContainer) _ _).bind fun _ _ _ _ =>
    (expected_readText h _).bind fun _ _ _ _ => (expected_readText h _).bind fun _ _ _ _ =>
    (expected_chooseAt h _ _ _).bind fun _ _ _ _ => expected_makeKnown h _ _

theorem expected_readDeclaration {read : Table → Reading α} (hread : FailsWith (Expected clear) (read table))
    (field : String) : FailsWith (Expected clear) (readDeclaration field read table) :=
  (expected_reference _ fun hclear => writable_valueAt (h hclear)).bind fun _ _ _ _ =>
    hread.bind fun _ _ _ _ => .pure _

theorem expected_readRelationship : FailsWith (Expected clear) (readRelationship table) :=
  (expected_chooseAt h _ _ _).bind fun _ _ _ _ =>
    (expected_reference _ fun hclear => writable_valueAt (h hclear)).bind fun _ _ _ _ =>
    (expected_reference _ fun hclear => writable_valueAt (h hclear)).bind fun _ _ _ _ =>
    (expected_readText h _).bind fun _ _ _ _ => (expected_readText? h _).bind fun _ _ _ _ =>
    expected_field _

theorem expected_scopeOf : FailsWith (Expected clear) (scopeOf table) := by
  rw [scopeOf]
  split
  · exact .pure _
  · exact (expected_reference _ fun hclear => writable_valueAt (h hclear)).map

theorem expected_readView : FailsWith (Expected clear) (readView table) := by
  refine (expected_readText? h _).bind fun type _ _ _ => ?_
  cases type with
  | none => exact expected_refuse_shown rfl fun hclear => writable_valueAt (h hclear)
  | some written =>
      exact (expected_choose _ _).bind fun _ _ _ _ => (expected_scopeOf h).bind fun _ _ _ _ =>
        (expected_readText h _).bind fun _ _ _ _ =>
        (expected_references _ fun hclear => writable_items (h hclear)).bind fun _ _ _ _ =>
        (expected_references _ fun hclear => writable_items (h hclear)).bind fun _ _ _ _ => .pure _

theorem expected_styleValueAt (key : String) : FailsWith (Expected clear) (styleValueAt table key) := by
  rw [styleValueAt]
  split
  · exact .pure _
  · exact .pure _
  · exact .pure _
  · exact expected_refuse_shown rfl fun hclear => writable_valueAt (h hclear)

theorem expected_readElementStyle : FailsWith (Expected clear) (readElementStyle table) := by
  refine (expected_readText h _).bind fun tag _ _ _ => ?_
  split
  · exact expected_refuse_unshown rfl
  · exact (expected_readText? h _).bind fun _ _ _ _ => (expected_readText? h _).bind fun _ _ _ _ =>
      (expected_readText? h _).bind fun _ _ _ _ => (expected_styleValueAt h _).bind fun _ _ _ _ =>
      (expected_readText? h _).bind fun _ _ _ _ => (expected_styleValueAt h _).bind fun _ _ _ _ => .pure _

theorem expected_readRelationshipStyle : FailsWith (Expected clear) (readRelationshipStyle table) :=
  (expected_readText h _).bind fun _ _ _ _ => (expected_styleValueAt h _).bind fun _ _ _ _ =>
    (expected_readText? h _).bind fun _ _ _ _ => (expected_readText? h _).bind fun _ _ _ _ => .pure _

theorem expected_readWorkspace (settings : Settings) :
    FailsWith (Expected clear) (readWorkspace settings table) := by
  have hheader : clear → Value.writableEntries (table.subtable "workspace") = true :=
    fun hclear => writable_subtable (h hclear)
  have hstyles : clear → Value.writableEntries (table.subtable "styles") = true :=
    fun hclear => writable_subtable (h hclear)
  exact (expected_readText? hheader _).bind fun _ _ _ _ => (expected_readText? hheader _).bind fun _ _ _ _ =>
    (expected_readEach h (fun _ => expected_readPerson) _ _).bind fun _ _ _ _ =>
    (expected_readEach h (fun _ => expected_readSoftwareSystem) _ _).bind fun _ _ _ _ =>
    (expected_readEach h (fun _ hentries =>
      expected_readDeclaration hentries (expected_readContainer hentries) _) _ _).bind fun _ _ _ _ =>
    (expected_readEach h (fun _ hentries =>
      expected_readDeclaration hentries (expected_readComponent hentries) _) _ _).bind fun _ _ _ _ =>
    (expected_readEach h (fun _ => expected_readRelationship) _ _).bind fun _ _ _ _ =>
    (expected_readEach h (fun _ => expected_readView) _ _).bind fun _ _ _ _ =>
    (expected_readEach hstyles (fun _ => expected_readElementStyle) _ _).bind fun _ _ _ _ =>
    (expected_readEach hstyles (fun _ => expected_readRelationshipStyle) _ _).bind fun _ _ _ _ => .pure _

end Texts

/-- An error that is not reported is due to a number somewhere in the blueprint that is too large to be
written. -/
theorem expected_of_load {settings : Settings} {doc : Table} {error : LoadError}
    (h : load settings doc = .error error) : Expected (Value.writableEntries doc = true) error :=
  expected_readWorkspace id settings {} error (map_eq_error_iff.mp h)

end C4Model.Blueprint
