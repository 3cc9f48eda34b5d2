import C4Model.Proofs.Blueprint.Record

/-! Blueprints that are sound but for their keys. A table is sound if what is read as a text can be, its choices
are known words, its fields keep the rules for them, and what should be tables and references are. Then
nothing but a key that is taken can end the reading. -/

namespace C4Model.Blueprint

open Outcome FieldRule

variable {α β : Type} {table : Table}

/-- Reading ends with a value, unless a key is found to be taken. -/
def Completes (reading : Reading α) : Prop :=
  ∀ before, (∃ value after, reading.run before = .ok (value, after)) ∨
    ∃ key, reading.run before = .error (.shape (.duplicateKey key))

namespace Completes

theorem pure (value : α) : Completes (Pure.pure value) :=
  fun before => .inl ⟨value, before, rfl⟩

theorem bind {first : Reading α} {next : α → Reading β} (hfirst : Completes first)
    (hnext : ∀ value before after, first.run before = .ok (value, after) → Completes (next value)) :
    Completes (first >>= next) := by
  intro before
  rcases hfirst before with ⟨value, between, hvalue⟩ | ⟨key, hkey⟩
  · rcases hnext value before between hvalue between with ⟨result, after, hresult⟩ | ⟨key, hkey⟩
    · exact .inl ⟨result, after, run_bind_eq_ok_iff.mpr ⟨value, between, hvalue, hresult⟩⟩
    · exact .inr ⟨key, run_bind_eq_error_iff.mpr (.inr ⟨value, between, hvalue, hkey⟩)⟩
  · exact .inr ⟨key, run_bind_eq_error_iff.mpr (.inl hkey)⟩

theorem mapM {ι : Type} {read : ι → Reading α} {items : List ι}
    (hread : ∀ item ∈ items, Completes (read item)) : Completes (items.mapM read) := by
  induction items with
  | nil => exact pure _
  | cons item rest ih =>
      obtain ⟨hitem, hrest⟩ := List.forall_mem_cons.mp hread
      rw [List.mapM_cons]
      exact hitem.bind fun value _ _ _ => (ih hrest).bind fun others _ _ _ => pure _

theorem get : Completes (get : Reading Catalogue) :=
  fun before => .inl ⟨before, before, rfl⟩

theorem set (catalogue : Catalogue) : Completes (set catalogue : Reading PUnit) :=
  fun _ => .inl ⟨_, catalogue, rfl⟩

/-- Reading goes on with what is described. -/
theorem peek {described : α → Prop} {first : Reading α} {next : α → Reading β} (hfirst : Completes first)
    (hpeeks : Peeks (fun _ => True) first described) (hnext : ∀ value, described value → Completes (next value)) :
    Completes (first >>= next) :=
  hfirst.bind fun value _ _ hvalue => hnext value (hpeeks.ok trivial hvalue).1

theorem field {outcome : Except FieldError α} (h : ∃ value, outcome = .ok value) :
    Completes (liftM (outcome.mapError LoadError.field)) := by
  obtain ⟨value, rfl⟩ := h
  exact fun before => .inl ⟨value, before, rfl⟩

end Completes

/-- What is under a key can be read as a text: it is no number that is too large to be written. -/
def LegibleAt (table : Table) (key : String) : Prop :=
  ∃ text, table.text? key = .ok text

theorem legibleAt_of_all {keys : List String} (h : (keys.all fun key => (table.text? key).isOk) = true) :
    ∀ key ∈ keys, LegibleAt table key :=
  fun key hkey => exists_eq_ok_of_isOk (List.all_eq_true.mp h key hkey)

/-- What is written under a key, if anything is, is a word for a choice. -/
def ChoiceSound (α : Type) [Labelled α] (table : Table) (key : String) : Prop :=
  ∀ written, table.string? key = some written → ∃ chosen : α, Labelled.ofText? written = some chosen

/-- The value is a text that may be a reference. -/
def ReferenceSound (written : Value) : Prop :=
  ∃ text, written = .string text ∧ Text.isBlankText text = false

/-- All items under a key are sound tables. -/
def EachSound (sound : Table → Prop) (table : Table) (key : String) : Prop :=
  ∀ item ∈ table.items key, ∃ entries, item = .table entries ∧ sound entries

theorem eachSound_of_items {sound : Table → Prop} {key : String} (tables : List Table)
    (hitems : table.items key = tables.map .table) (hsound : ∀ entries ∈ tables, sound entries) :
    EachSound sound table key := by
  intro item hitem
  rw [hitems] at hitem
  obtain ⟨entries, hmem, rfl⟩ := List.mem_map.mp hitem
  exact ⟨entries, rfl, hsound entries hmem⟩

/-- The keys under which the table of an element has its texts. -/
def textKeys : ElementKind → List String
  | .person => ["key", "name", "description", "location", "technology"]
  | .softwareSystem => ["key", "name", "description", "location"]
  | .container => ["key", "name", "description", "location", "technology", "type"]
  | .component => ["key", "name", "description", "location", "technology"]
  | .code => ["key", "name", "description", "location", "type", "language", "file_path"]

structure CommonSound (kind : ElementKind) (table : Table) : Prop where
  legible : ∀ key ∈ textKeys kind, LegibleAt table key
  location : ChoiceSound Location table "location"
  texts : checkTexts (.element kind) (textAt table "name") (textAt table "description") = .ok ()

structure PersonSound (table : Table) : Prop extends CommonSound .person table where
  technology : checkOptionalLength (.element .person) "technology" (table.string? "technology")
    technologyLimit = .ok ()

structure CodeElementSound (table : Table) : Prop extends CommonSound .code table where
  typed : table.string? "type" ≠ none
  codeType : ChoiceSound CodeType table "type"
  language : checkOptionalLength (.element .code) "language" (table.string? "language")
    languageLimit = .ok ()
  filePath : checkOptionalLength (.element .code) "file_path" (table.string? "file_path")
    filePathLimit = .ok ()

structure ComponentSound (table : Table) : Prop extends CommonSound .component table where
  technology : checkOptionalLength (.element .component) "technology" (table.string? "technology")
    technologyLimit = .ok ()
  responsibilities : ∃ texts : List String, table.items "responsibilities" = texts.map .string ∧
    checkEachLength (.element .component) "responsibilities" responsibilityLimit 0 texts = .ok ()
  codeElements : EachSound CodeElementSound table "code"

structure ContainerSound (table : Table) : Prop extends CommonSound .container table where
  technology : checkOptionalLength (.element .container) "technology" (table.string? "technology")
    technologyLimit = .ok ()
  typeLabel : checkOptionalLength (.element .container) "type_label"
    (containerTypeOf (table.string? "type")).2 technologyLimit = .ok ()
  components : EachSound ComponentSound table "components"

structure SoftwareSystemSound (table : Table) : Prop extends CommonSound .softwareSystem table where
  containers : EachSound ContainerSound table "containers"

/-- A declared child is sound if the child is and it names a parent. -/
def DeclarationSound (child : Table → Prop) (table : Table) : Prop :=
  ReferenceSound (valueAt table "parent") ∧ child table

structure RelationshipSound (table : Table) : Prop where
  legible : ∀ key ∈ ["interaction", "description", "technology"], LegibleAt table key
  interaction : ChoiceSound InteractionStyle table "interaction"
  source : ReferenceSound (valueAt table "source")
  target : ReferenceSound (valueAt table "target")
  description : checkNotBlank .relationship "description" (textAt table "description") = .ok ()
  technology : checkOptionalLength .relationship "technology" (table.string? "technology")
    technologyLimit = .ok ()

structure ViewSound (table : Table) : Prop where
  legible : ∀ key ∈ ["type", "title"], LegibleAt table key
  typed : table.string? "type" ≠ none
  viewType : ChoiceSound ViewType table "type"
  element : valueAt table "element" = .null ∨ ReferenceSound (valueAt table "element")
  included : ∀ item ∈ table.items "include", ReferenceSound item
  excluded : ∀ item ∈ table.items "exclude", ReferenceSound item

/-- An attribute of a style is absent, a text or an integer. -/
def StyleValueSound (written : Value) : Prop :=
  ∃ value, StyleValueOf written value

structure ElementStyleSound (table : Table) : Prop where
  legible : ∀ key ∈ ["tag", "background", "color", "shape", "stroke"], LegibleAt table key
  tag : textAt table "tag" ≠ ""
  size : StyleValueSound (valueAt table "size")
  strokeWidth : StyleValueSound (valueAt table "stroke_width")

structure RelationshipStyleSound (table : Table) : Prop where
  legible : ∀ key ∈ ["tag", "color", "router"], LegibleAt table key
  thickness : StyleValueSound (valueAt table "thickness")

/-- All tables of a blueprint are sound. -/
structure BlueprintSound (doc : Table) : Prop where
  header : ∀ key ∈ ["name", "description"], LegibleAt (doc.subtable "workspace") key
  people : EachSound PersonSound doc "people"
  systems : EachSound SoftwareSystemSound doc "systems"
  containers : EachSound (DeclarationSound ContainerSound) doc "containers"
  components : EachSound (DeclarationSound ComponentSound) doc "components"
  relationships : EachSound RelationshipSound doc "relationships"
  views : EachSound ViewSound doc "views"
  elementStyles : EachSound ElementStyleSound (doc.subtable "styles") "elements"
  relationshipStyles : EachSound RelationshipStyleSound (doc.subtable "styles") "relationships"

theorem completes_readText? {key : String} (h : LegibleAt table key) : Completes (readText? table key) := by
  obtain ⟨text, htext⟩ := h
  refine fun before => .inl ⟨text, before, ?_⟩
  rw [readText?, run_liftM, htext]
  rfl

/-- Reading goes on with the text under a key. -/
theorem Completes.text? {key : String} {next : Option String → Reading α} (h : LegibleAt table key)
    (hnext : Completes (next (table.string? key))) : Completes (readText? table key >>= next) :=
  (completes_readText? h).peek (peeks_readText? _ _) fun _ htext => htext ▸ hnext

theorem Completes.text {key : String} {next : String → Reading α} (h : LegibleAt table key)
    (hnext : Completes (next (textAt table key))) : Completes (readText table key >>= next) := by
  rw [readText, bind_map_left]
  exact .text? h hnext

theorem completes_choose [Labelled α] {field : ChoiceField} {written : String}
    (h : ∃ chosen : α, Labelled.ofText? written = some chosen) :
    Completes (choose field written : Reading α) := by
  obtain ⟨chosen, hchosen⟩ := h
  simp only [choose, hchosen]
  exact .pure _

theorem completes_chooseAt [Labelled α] {key : String} {field : ChoiceField} {absent : α}
    (hlegible : LegibleAt table key) (h : ChoiceSound α table key) :
    Completes (chooseAt table key field absent) := by
  refine .text? hlegible ?_
  cases hwritten : table.string? key with
  | none => exact .pure _
  | some written => exact completes_choose (h written hwritten)

theorem completes_reference {field : String} {written : Value} (h : ReferenceSound written) :
    Completes (reference field written) := by
  obtain ⟨text, rfl, hblank⟩ := h
  simp only [reference, hblank]
  exact Completes.get.bind fun _ _ _ _ => .pure _

theorem exists_tablesFrom {holder key : String} {index : Nat} {items : List Value}
    (h : ∀ item ∈ items, ∃ entries, item = .table entries) :
    ∃ found, tablesFrom holder key index items = .ok found := by
  induction items generalizing index with
  | nil => exact ⟨[], rfl⟩
  | cons item rest ih =>
      obtain ⟨⟨entries, rfl⟩, hrest⟩ := List.forall_mem_cons.mp h
      obtain ⟨others, hothers⟩ := ih hrest
      exact ⟨entries :: others, bind_eq_ok_iff.mpr ⟨others, hothers, rfl⟩⟩

theorem completes_readEach {sound : Table → Prop} {read : Table → Reading α} {key holder : String}
    (hread : ∀ entries, sound entries → Completes (read entries)) (h : EachSound sound table key) :
    Completes (readEach table key holder read) := by
  have htables : Completes (tables table key holder) := by
    intro before
    obtain ⟨found, hfound⟩ := exists_tablesFrom fun item hitem =>
      (h item hitem).imp fun _ hsound => hsound.1
    refine .inl ⟨found, before, ?_⟩
    rw [tables, run_liftM, hfound]
    rfl
  refine htables.bind fun found before after hfound => .mapM fun entries hmem => ?_
  obtain ⟨hitems, -⟩ := run_tables_eq_ok hfound
  have hitem : Value.table entries ∈ table.items key := by
    rw [hitems]
    exact List.mem_map_of_mem hmem
  obtain ⟨_, hsame, hsound⟩ := h _ hitem
  obtain rfl := Value.table.inj hsame
  exact hread entries hsound

/-- An element is made if its fields keep the rules for them. -/
theorem completes_makeKnown {element : α → Element} {check : Except FieldError Unit} {kind : ElementKind}
    {name : String} {identified : Identity → α} (hlegible : LegibleAt table "key") (hcheck : check = .ok ()) :
    Completes (makeKnown table element (issuedBy check kind name identified)) := by
  have hmake : Completes (make (issuedBy check kind name identified)) := by
    refine Completes.get.bind fun catalogue _ _ _ => ?_
    refine (Completes.field ⟨(identified (catalogue.allocator.mint kind name).1,
      (catalogue.allocator.mint kind name).2), ?_⟩).bind fun _ _ _ _ =>
        (Completes.set _).bind fun _ _ _ _ => .pure _
    rw [issuedBy, hcheck]
    rfl
  have hremember : ∀ element, Completes (remember table element) := by
    intro element
    refine .text? hlegible ?_
    cases table.string? "key" with
    | none => exact .pure _
    | some key =>
        refine Completes.get.bind fun catalogue _ _ _ => ?_
        split
        · exact fun _ => .inr ⟨_, rfl⟩
        · exact .set _
  exact hmake.bind fun _ _ _ _ => (hremember _).bind fun _ _ _ _ => .pure _

theorem completes_readPerson (h : PersonSound table) : Completes (readPerson table) := by
  refine .text (h.legible _ (by decide)) (.text (h.legible _ (by decide)) ?_)
  refine (completes_chooseAt (h.legible _ (by decide)) h.location).bind fun location _ _ _ => ?_
  refine .text? (h.legible _ (by decide)) ?_
  exact completes_makeKnown (h.legible _ (by decide)) (bind_eq_ok_iff.mpr ⟨(), h.texts, h.technology⟩)

theorem completes_readCodeElement (h : CodeElementSound table) :
    Completes (readCodeElement table) := by
  refine .text? (h.legible _ (by decide)) ?_
  cases htype : table.string? "type" with
  | none => exact absurd htype h.typed
  | some written =>
      refine .text (h.legible _ (by decide)) (.text (h.legible _ (by decide)) ?_)
      refine (completes_choose (h.codeType written htype)).bind fun codeType _ _ _ => ?_
      refine .text? (h.legible _ (by decide)) (.text? (h.legible _ (by decide)) ?_)
      refine (completes_chooseAt (h.legible _ (by decide)) h.location).bind fun location _ _ _ => ?_
      exact completes_makeKnown (h.legible _ (by decide)) (bind_eq_ok_iff.mpr ⟨(), h.texts,
        bind_eq_ok_iff.mpr ⟨(), h.language, h.filePath⟩⟩)

theorem completes_readComponent (h : ComponentSound table) : Completes (readComponent table) := by
  obtain ⟨texts, hitems, hlengths⟩ := h.responsibilities
  have hresponsibilities : Completes (responsibilitiesOf table) := by
    refine .mapM fun item hitem => ?_
    rw [hitems] at hitem
    obtain ⟨text, -, rfl⟩ := List.mem_map.mp hitem
    exact .pure _
  refine hresponsibilities.peek (peeks_responsibilitiesOf _) fun responsibilities hwritten => ?_
  obtain rfl : texts = responsibilities :=
    List.map_injective_iff.mpr (fun _ _ => Value.string.inj) (hitems.symm.trans hwritten)
  refine (completes_readEach (fun _ => completes_readCodeElement) h.codeElements).bind
    fun _ _ _ _ => ?_
  refine .text (h.legible _ (by decide)) (.text (h.legible _ (by decide)) ?_)
  refine .text? (h.legible _ (by decide)) ?_
  refine (completes_chooseAt (h.legible _ (by decide)) h.location).bind fun location _ _ _ => ?_
  exact completes_makeKnown (h.legible _ (by decide)) (bind_eq_ok_iff.mpr ⟨(), h.texts,
    bind_eq_ok_iff.mpr ⟨(), h.technology, hlengths⟩⟩)

theorem completes_readContainer (h : ContainerSound table) : Completes (readContainer table) := by
  refine .text? (h.legible _ (by decide)) ?_
  refine (completes_readEach (fun _ => completes_readComponent) h.components).bind fun _ _ _ _ => ?_
  refine .text (h.legible _ (by decide)) (.text (h.legible _ (by decide)) ?_)
  refine .text? (h.legible _ (by decide)) ?_
  refine (completes_chooseAt (h.legible _ (by decide)) h.location).bind fun location _ _ _ => ?_
  exact completes_makeKnown (h.legible _ (by decide)) (bind_eq_ok_iff.mpr ⟨(), h.texts,
    bind_eq_ok_iff.mpr ⟨(), h.technology, h.typeLabel⟩⟩)

theorem completes_readSoftwareSystem (h : SoftwareSystemSound table) :
    Completes (readSoftwareSystem table) := by
  refine (completes_readEach (fun _ => completes_readContainer) h.containers).bind fun _ _ _ _ => ?_
  refine .text (h.legible _ (by decide)) (.text (h.legible _ (by decide)) ?_)
  refine (completes_chooseAt (h.legible _ (by decide)) h.location).bind fun location _ _ _ => ?_
  exact completes_makeKnown (h.legible _ (by decide)) h.texts

theorem completes_readDeclaration {sound : Table → Prop} {read : Table → Reading α}
    (hread : ∀ {table}, sound table → Completes (read table)) (field : String)
    (h : DeclarationSound sound table) : Completes (readDeclaration field read table) :=
  (completes_reference h.1).bind fun _ _ _ _ => (hread h.2).bind fun _ _ _ _ => .pure _

/-- A reference that is read is not blank, so a relationship may end at it. -/
theorem check_of_reference {field end_ : String} {written : Value} {ref : Reference}
    {before after : Catalogue} (h : (reference field written).run before = .ok (ref, after)) :
    ref.endpoint.check end_ = .ok () := by
  cases written with
  | string text =>
      cases hblank : Text.isBlankText text with
      | true =>
          simp only [reference, hblank] at h
          cases h
      | false =>
          simp only [reference, hblank] at h
          obtain ⟨catalogue, between, -, h⟩ := run_bind_eq_ok_iff.mp h
          obtain ⟨rfl, -⟩ := run_pure_eq_ok_iff.mp h
          rw [Catalogue.resolve]
          split
          · rfl
          · simp [Reference.endpoint, Endpoint.check, checkNotBlank, hblank]
  | _ => cases h

theorem completes_readRelationship (h : RelationshipSound table) :
    Completes (readRelationship table) := by
  refine (completes_chooseAt (h.legible _ (by decide)) h.interaction).bind fun interaction _ _ _ => ?_
  refine (completes_reference h.source).bind fun source _ _ hsource => ?_
  refine (completes_reference h.target).bind fun target _ _ htarget => ?_
  refine .text (h.legible _ (by decide)) (.text? (h.legible _ (by decide)) ?_)
  exact .field ⟨_, bind_eq_ok_iff.mpr ⟨(), h.description, bind_eq_ok_iff.mpr ⟨(), h.technology,
    bind_eq_ok_iff.mpr ⟨(), check_of_reference hsource,
      bind_eq_ok_iff.mpr ⟨(), check_of_reference htarget, rfl⟩⟩⟩⟩⟩

theorem completes_readView (h : ViewSound table) : Completes (readView table) := by
  have hscope : Completes (scopeOf table) := by
    rw [scopeOf]
    split
    case h_1 => exact .pure _
    case h_2 hwritten =>
      rw [map_eq_pure_bind]
      exact (completes_reference (h.element.resolve_left hwritten)).bind fun _ _ _ _ => .pure _
  refine .text? (h.legible _ (by decide)) ?_
  cases htype : table.string? "type" with
  | none => exact absurd htype h.typed
  | some written =>
      refine (completes_choose (h.viewType written htype)).bind fun viewType _ _ _ => ?_
      refine hscope.bind fun scope _ _ _ => .text (h.legible _ (by decide)) ?_
      refine (Completes.mapM fun item hitem => completes_reference (h.included item hitem)).bind
        fun included _ _ _ => ?_
      exact (Completes.mapM fun item hitem => completes_reference (h.excluded item hitem)).bind
        fun excluded _ _ _ => .pure _

theorem completes_styleValueAt {key : String} (h : StyleValueSound (valueAt table key)) :
    Completes (styleValueAt table key) := by
  obtain ⟨value, hvalue⟩ := h
  rw [styleValueAt]
  cases hfound : valueAt table key with
  | null | string | int => exact .pure _
  | _ =>
      rw [hfound] at hvalue
      exact hvalue.elim

theorem completes_readElementStyle (h : ElementStyleSound table) :
    Completes (readElementStyle table) := by
  refine .text (h.legible _ (by decide)) ?_
  rw [if_neg (by simpa using h.tag)]
  refine .text? (h.legible _ (by decide)) (.text? (h.legible _ (by decide))
    (.text? (h.legible _ (by decide)) ?_))
  refine (completes_styleValueAt h.size).bind fun _ _ _ _ => .text? (h.legible _ (by decide)) ?_
  exact (completes_styleValueAt h.strokeWidth).bind fun _ _ _ _ => .pure _

theorem completes_readRelationshipStyle (h : RelationshipStyleSound table) :
    Completes (readRelationshipStyle table) := by
  refine .text (h.legible _ (by decide)) ?_
  refine (completes_styleValueAt h.thickness).bind fun _ _ _ _ => ?_
  exact .text? (h.legible _ (by decide)) (.text? (h.legible _ (by decide)) (.pure _))

theorem completes_readWorkspace (settings : Settings) {doc : Table} (h : BlueprintSound doc) :
    Completes (readWorkspace settings doc) := by
  refine .text? (h.header _ (by decide)) (.text? (h.header _ (by decide)) ?_)
  refine (completes_readEach (fun _ => completes_readPerson) h.people).bind fun _ _ _ _ => ?_
  refine (completes_readEach (fun _ => completes_readSoftwareSystem) h.systems).bind fun _ _ _ _ => ?_
  refine (completes_readEach (fun _ => completes_readDeclaration completes_readContainer _)
    h.containers).bind fun _ _ _ _ => ?_
  refine (completes_readEach (fun _ => completes_readDeclaration completes_readComponent _)
    h.components).bind fun _ _ _ _ => ?_
  refine (completes_readEach (fun _ => completes_readRelationship) h.relationships).bind
    fun _ _ _ _ => ?_
  refine (completes_readEach (fun _ => completes_readView) h.views).bind fun _ _ _ _ => ?_
  refine (completes_readEach (fun _ => completes_readElementStyle) h.elementStyles).bind
    fun _ _ _ _ => ?_
  exact (completes_readEach (fun _ => completes_readRelationshipStyle) h.relationshipStyles).bind
    fun _ _ _ _ => .pure _

end C4Model.Blueprint
