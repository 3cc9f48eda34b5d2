import C4Model.Proofs.Blueprint.Reader

/-! Rows of records in a blueprint. A row is read record by record, and what is known grows with every element
that is made. So a row is described by its tables one by one, each record among what is known when its
table is read. -/

namespace C4Model.Blueprint

open Outcome

/-- From what is known on, reading gives what is described, and what it adds is known in addition. A key is found
to be taken only if it comes twice among the known tables and those that are read. -/
structure Makes {α : Type} (known : Known) (tables : List Table) (described : α → Prop) (adds : α → Known)
    (reading : Reading α) : Prop where
  ok : ∀ {before value after}, Catalogue.Holds before known → reading.run before = .ok (value, after) →
    described value ∧ after.Holds (known ++ adds value)
  taken : ∀ {before key}, Catalogue.Holds before known →
    reading.run before = .error (.shape (.duplicateKey key)) →
    List.Duplicate key (keysOf (known.tables ++ tables))

namespace Makes

variable {α β : Type} {known : Known} {tables : List Table} {described : α → Prop} {adds : α → Known}

theorem pure {value : α} (h : described value) :
    Makes known [] described (fun _ => []) (Pure.pure value) where
  ok := by
    intro before result after hknown hread
    obtain ⟨rfl, rfl⟩ := run_pure_eq_ok_iff.mp hread
    exact ⟨h, (List.append_nil known).symm ▸ hknown⟩
  taken _ h := nomatch h

theorem refuse {fault : Fault} (h : ∀ key, fault ≠ .duplicateKey key) :
    Makes known tables described adds (Blueprint.refuse fault) where
  ok _ h := nomatch h
  taken _ htaken := absurd htaken (Keyless.refuse h _ _)

/-- What is read before does not matter, if it leaves the catalogue as it is. -/
theorem peek {found : β → Prop} {first : Reading β} {next : β → Reading α}
    (hfirst : Peeks (·.Holds known) first found)
    (hnext : ∀ read, found read → Makes known tables described adds (next read)) :
    Makes known tables described adds (first >>= next) where
  ok := by
    intro before value after hknown h
    obtain ⟨read, hread, h⟩ := hfirst.ok_bind hknown h
    exact (hnext read hread).ok hknown h
  taken := by
    intro before key hknown h
    obtain ⟨read, hread, h⟩ := hfirst.taken_bind hknown h
    exact (hnext read hread).taken hknown h

end Makes

/-- How records of one kind are written. -/
structure RecordForm (α : Type) where
  /-- What a table says of a record, among what is known. -/
  described : Known → Table → α → Prop
  /-- The tables of elements in a table, in the order in which the elements are made. -/
  tables : Table → List Table := fun _ => []
  made : α → List Element := fun _ => []

namespace RecordForm

variable {α : Type} (form : RecordForm α)

/-- What is known in addition once the record has been read. -/
def adds (table : Table) (value : α) : Known :=
  (form.tables table).zip (form.made value)

/-- Tables in a row describe the records in a row, each among what is known before it. -/
inductive InTurn : Known → List Table → List α → Prop
  | nil {known : Known} : InTurn known [] []
  | cons {known : Known} {table : Table} {value : α} {tables : List Table} {values : List α}
      (first : form.described known table value)
      (rest : InTurn (known ++ form.adds table value) tables values) :
      InTurn known (table :: tables) (value :: values)

/-- The items under a key are tables, and they describe the records. -/
structure Rows (known : Known) (table : Table) (key : String) (values : List α) : Prop where
  items : table.items key = (tablesAt table key).map .table
  inTurn : form.InTurn known (tablesAt table key) values

/-- The tables of elements under a key. -/
def tablesUnder (table : Table) (key : String) : List Table :=
  (tablesAt table key).flatMap form.tables

/-- What is known in addition once the records under a key have been read. -/
def knownUnder (table : Table) (key : String) (values : List α) : Known :=
  (form.tablesUnder table key).zip (values.flatMap form.made)

/-- What a reader has to do for records of the form. -/
structure ReadBy (read : Table → Reading α) : Prop where
  length : ∀ known table value, form.described known table value →
    (form.tables table).length = (form.made value).length
  makes : ∀ known table, Makes known (form.tables table) (form.described known table) (form.adds table)
    (read table)

end RecordForm

theorem tables_zip {tables : List Table} {elements : List Element}
    (h : tables.length = elements.length) : Known.tables (tables.zip elements) = tables :=
  List.map_fst_zip (Nat.le_of_eq h)

/-- What comes twice among keys comes twice among more keys. -/
theorem duplicate_append {key : String} {first : List Table} (rest : List Table)
    (h : List.Duplicate key (keysOf first)) : List.Duplicate key (keysOf (first ++ rest)) := by
  rw [keysOf_append]
  exact h.mono_sublist (List.sublist_append_left _ _)

namespace RecordForm

variable {α : Type} {form : RecordForm α} {read : Table → Reading α} {known : Known}
  {tables : List Table} {values : List α} {before after : Catalogue}

/-- Where what is known does not matter, or stays, a row is described table by table. -/
theorem InTurn.forall₂ (relevant : Known → Prop) {described : Table → α → Prop}
    (hstep : ∀ known table value, relevant known → form.described known table value →
      described table value ∧ relevant (known ++ form.adds table value))
    (hknown : relevant known) (h : form.InTurn known tables values) :
    List.Forall₂ described tables values := by
  induction h with
  | nil => exact .nil
  | cons first _ ih =>
      obtain ⟨hdescribed, hnext⟩ := hstep _ _ _ hknown first
      exact .cons hdescribed (ih hnext)

/-- If every table has as many element tables as its record has elements, so has the row. -/
theorem length_flatMap (form : RecordForm α) {tables : List Table} {values : List α}
    (h : List.Forall₂ (fun table value => (form.tables table).length = (form.made value).length)
      tables values) :
    (tables.flatMap form.tables).length = (values.flatMap form.made).length := by
  induction h with
  | nil => rfl
  | cons first _ ih =>
      rw [List.flatMap_cons, List.flatMap_cons, List.length_append, List.length_append, ih, first]

theorem ReadBy.mapM_ok (hread : form.ReadBy read) (hknown : before.Holds known)
    (h : (tables.mapM read).run before = .ok (values, after)) :
    form.InTurn known tables values ∧
      after.Holds (known ++ (tables.flatMap form.tables).zip (values.flatMap form.made)) := by
  induction tables generalizing known values before with
  | nil =>
      obtain ⟨rfl, rfl⟩ := run_pure_eq_ok_iff.mp h
      exact ⟨.nil, by simpa using hknown⟩
  | cons table rest ih =>
      rw [List.mapM_cons] at h
      obtain ⟨value, between, hvalue, h⟩ := run_bind_eq_ok_iff.mp h
      obtain ⟨others, last, hothers, h⟩ := run_bind_eq_ok_iff.mp h
      obtain ⟨rfl, rfl⟩ := run_pure_eq_ok_iff.mp h
      obtain ⟨hfirst, hbetween⟩ := (hread.makes known table).ok hknown hvalue
      obtain ⟨hrest, hlast⟩ := ih hbetween hothers
      refine ⟨.cons hfirst hrest, ?_⟩
      rw [List.flatMap_cons, List.flatMap_cons, List.zip_append (hread.length _ _ _ hfirst)]
      simpa [adds] using hlast

theorem ReadBy.mapM_taken (hread : form.ReadBy read) (hknown : before.Holds known) {key : String}
    (h : (tables.mapM read).run before = .error (.shape (.duplicateKey key))) :
    List.Duplicate key (keysOf (known.tables ++ tables.flatMap form.tables)) := by
  induction tables generalizing known before with
  | nil => cases h
  | cons table rest ih =>
      rw [List.mapM_cons] at h
      rw [List.flatMap_cons, ← List.append_assoc]
      rcases run_bind_eq_error_iff.mp h with h | ⟨value, between, hvalue, h⟩
      · exact duplicate_append _ ((hread.makes known table).taken hknown h)
      · obtain ⟨hfirst, hbetween⟩ := (hread.makes known table).ok hknown hvalue
        rcases run_bind_eq_error_iff.mp h with h | ⟨others, last, -, h⟩
        · have hrest := ih hbetween h
          rwa [tables_append, adds, tables_zip (hread.length _ _ _ hfirst)] at hrest
        · cases h

variable {table : Table} {key holder : String}

theorem ReadBy.each_ok (hread : form.ReadBy read) (hknown : before.Holds known)
    (h : (readEach table key holder read).run before = .ok (values, after)) :
    form.Rows known table key values ∧ after.Holds (known ++ form.knownUnder table key values) := by
  obtain ⟨found, between, hfound, h⟩ := run_bind_eq_ok_iff.mp h
  obtain ⟨hitems, rfl⟩ := run_tables_eq_ok hfound
  obtain rfl := tablesAt_eq hitems
  obtain ⟨hrows, hafter⟩ := hread.mapM_ok hknown h
  exact ⟨⟨hitems, hrows⟩, hafter⟩

theorem ReadBy.each_taken (hread : form.ReadBy read) (hknown : before.Holds known) {taken : String}
    (h : (readEach table key holder read).run before = .error (.shape (.duplicateKey taken))) :
    List.Duplicate taken (keysOf (known.tables ++ form.tablesUnder table key)) := by
  rcases run_bind_eq_error_iff.mp h with h | ⟨found, between, hfound, h⟩
  · exact absurd h (keyless_tables _ _ _ _ _)
  · obtain ⟨hitems, rfl⟩ := run_tables_eq_ok hfound
    obtain rfl := tablesAt_eq hitems
    exact hread.mapM_taken hknown h

section Rows

variable (hread : form.ReadBy read) (h : form.Rows known table key values)

include hread h

theorem Rows.length :
    (form.tablesUnder table key).length = (values.flatMap form.made).length := by
  refine length_flatMap form (h.inTurn.forall₂ (fun _ => True) ?_ trivial)
  exact fun _ _ _ _ hfirst => ⟨hread.length _ _ _ hfirst, trivial⟩

theorem Rows.tables_knownUnder :
    (form.knownUnder table key values).tables = form.tablesUnder table key :=
  tables_zip (h.length hread)

theorem Rows.elements_knownUnder :
    (form.knownUnder table key values).map Prod.snd = values.flatMap form.made :=
  List.map_snd_zip (Nat.le_of_eq (h.length hread).symm)

end Rows

end RecordForm

end C4Model.Blueprint
