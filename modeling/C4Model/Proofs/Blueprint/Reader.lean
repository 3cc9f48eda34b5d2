import C4Model.Blueprint.Reader
import C4Model.Proofs.Association
import C4Model.Proofs.Outcome
import Mathlib.Data.List.Duplicate

/-! What reading a blueprint knows of its elements. The catalogue holds the elements that are made so far under
the keys of their tables, so a reference is bound to the element whose table has it as its key, and no
other. A key that is there already ends the reading. -/

namespace C4Model.Blueprint

open Outcome

variable {α β : Type} {before after : Catalogue}

theorem run_bind_eq_ok_iff {first : Reading α} {next : α → Reading β} {result : β} :
    (first >>= next).run before = .ok (result, after) ↔
      ∃ value between, first.run before = .ok (value, between) ∧
        (next value).run between = .ok (result, after) := by
  rw [StateT.run_bind, bind_eq_ok_iff, Prod.exists]

theorem run_bind_eq_error_iff {first : Reading α} {next : α → Reading β} {error : LoadError} :
    (first >>= next).run before = .error error ↔
      first.run before = .error error ∨
        ∃ value between, first.run before = .ok (value, between) ∧
          (next value).run between = .error error := by
  rw [StateT.run_bind, bind_eq_error_iff, Prod.exists]

theorem run_pure_eq_ok_iff {given value : α} :
    (pure given : Reading α).run before = .ok (value, after) ↔ given = value ∧ before = after := by
  change Except.ok (given, before) = Except.ok (value, after) ↔ _
  rw [Except.ok.injEq, Prod.mk.injEq]

theorem run_liftM (outcome : Except LoadError α) :
    (liftM outcome : Reading α).run before = outcome.map (·, before) := by
  cases outcome <;> rfl

theorem error_eq_shape_iff {fault found : Fault} :
    fault.error = .shape found ↔ fault.shown?.all Value.writable = true ∧ fault = found := by
  rw [Fault.error]
  split <;> simp [*]

theorem run_refuse_eq_error_iff {fault : Fault} {error : LoadError} :
    (refuse fault : Reading α).run before = .error error ↔ fault.error = error := by
  change Except.error fault.error = Except.error error ↔ _
  rw [Except.error.injEq]

/-- If reading something fails, the error is of the kind. -/
def FailsWith (kind : LoadError → Prop) (reading : Reading α) : Prop :=
  ∀ before error, reading.run before = .error error → kind error

namespace FailsWith

variable {kind : LoadError → Prop}

theorem pure (value : α) : FailsWith kind (Pure.pure value : Reading α) :=
  fun _ _ h => nomatch h

theorem bind {first : Reading α} {next : α → Reading β} (hfirst : FailsWith kind first)
    (hnext : ∀ value before after, first.run before = .ok (value, after) → FailsWith kind (next value)) :
    FailsWith kind (first >>= next) := by
  intro before error h
  rcases run_bind_eq_error_iff.mp h with h | ⟨value, between, hvalue, h⟩
  · exact hfirst before error h
  · exact hnext value before between hvalue between error h

theorem map {change : α → β} {reading : Reading α} (h : FailsWith kind reading) :
    FailsWith kind (change <$> reading) := by
  rw [map_eq_pure_bind]
  exact h.bind fun _ _ _ _ => pure _

theorem mapM {ι : Type} {read : ι → Reading α} {items : List ι}
    (hread : ∀ item ∈ items, FailsWith kind (read item)) : FailsWith kind (items.mapM read) := by
  induction items with
  | nil => exact pure _
  | cons item rest ih =>
      obtain ⟨hitem, hrest⟩ := List.forall_mem_cons.mp hread
      rw [List.mapM_cons]
      exact hitem.bind fun _ _ _ _ => (ih hrest).bind fun _ _ _ _ => pure _

end FailsWith

/-- Reading something never finds a key taken. -/
def Keyless (reading : Reading α) : Prop :=
  ∀ before key, reading.run before ≠ .error (.shape (.duplicateKey key))

theorem Keyless.pure (value : α) : Keyless (Pure.pure value) :=
  fun _ _ h => nomatch h

theorem Keyless.bind {first : Reading α} {next : α → Reading β} (hfirst : Keyless first)
    (hnext : ∀ value, Keyless (next value)) : Keyless (first >>= next) := by
  intro before key h
  rcases run_bind_eq_error_iff.mp h with h | ⟨value, between, -, h⟩
  · exact hfirst before key h
  · exact hnext value between key h

theorem Keyless.refuse {fault : Fault} (h : ∀ key, fault ≠ .duplicateKey key) :
    Keyless (Blueprint.refuse fault : Reading α) :=
  fun _ key htaken => h key (error_eq_shape_iff.mp (run_refuse_eq_error_iff.mp htaken)).2

theorem Keyless.field (outcome : Except FieldError α) :
    Keyless (liftM (outcome.mapError LoadError.field)) := by
  intro before key h
  cases outcome with
  | ok value => cases h
  | error error => cases h

/-- Where the catalogue fits, reading leaves it as it is, gives what is described, and finds no key taken. -/
structure Peeks (fits : Catalogue → Prop) (reading : Reading α) (described : α → Prop) : Prop where
  ok : ∀ {before value after}, fits before → reading.run before = .ok (value, after) →
    described value ∧ before = after
  keyless : ∀ {before key}, fits before → reading.run before ≠ .error (.shape (.duplicateKey key))

namespace Peeks

variable {fits : Catalogue → Prop} {described : α → Prop} {first : Reading α} {next : α → Reading β}

theorem pure (value : α) : Peeks fits (Pure.pure value) (value = ·) where
  ok _ h := run_pure_eq_ok_iff.mp h
  keyless _ := Keyless.pure value _ _

theorem refuse {fault : Fault} (h : ∀ key, fault ≠ .duplicateKey key) :
    Peeks fits (Blueprint.refuse fault : Reading α) described where
  ok _ h := nomatch h
  keyless _ := Keyless.refuse h _ _

theorem mono {other : α → Prop} {reading : Reading α} (h : Peeks fits reading described)
    (hother : ∀ value, described value → other value) : Peeks fits reading other where
  ok hfits hread := (h.ok hfits hread).imp_left (hother _)
  keyless := h.keyless

/-- What comes after it is read from the same catalogue. -/
theorem ok_bind (hfirst : Peeks fits first described) (hfits : fits before) {value : β}
    (h : (first >>= next).run before = .ok (value, after)) :
    ∃ read, described read ∧ (next read).run before = .ok (value, after) := by
  obtain ⟨read, between, hread, h⟩ := run_bind_eq_ok_iff.mp h
  obtain ⟨hdescribed, rfl⟩ := hfirst.ok hfits hread
  exact ⟨read, hdescribed, h⟩

theorem taken_bind (hfirst : Peeks fits first described) (hfits : fits before) {key : String}
    (h : (first >>= next).run before = .error (.shape (.duplicateKey key))) :
    ∃ read, described read ∧ (next read).run before = .error (.shape (.duplicateKey key)) := by
  rcases run_bind_eq_error_iff.mp h with h | ⟨read, between, hread, h⟩
  · exact absurd h (hfirst.keyless hfits)
  · obtain ⟨hdescribed, rfl⟩ := hfirst.ok hfits hread
    exact ⟨read, hdescribed, h⟩

theorem bind {result : β → Prop} (hfirst : Peeks fits first described)
    (hnext : ∀ value, described value → Peeks fits (next value) result) :
    Peeks fits (first >>= next) result where
  ok hfits h := by
    obtain ⟨read, hdescribed, h⟩ := hfirst.ok_bind hfits h
    exact (hnext read hdescribed).ok hfits h
  keyless hfits h := by
    obtain ⟨read, hdescribed, h⟩ := hfirst.taken_bind hfits h
    exact (hnext read hdescribed).keyless hfits h

/-- What is read becomes something else. -/
theorem map {result : β → Prop} {change : α → β} {reading : Reading α} (h : Peeks fits reading described)
    (hchange : ∀ value, described value → result (change value)) : Peeks fits (change <$> reading) result := by
  rw [map_eq_pure_bind]
  exact h.bind fun value hvalue => (Peeks.pure _).mono fun _ hsame => hsame ▸ hchange value hvalue

/-- Reading items in turn. -/
theorem mapM {ι : Type} {read : ι → Reading α} {described : ι → α → Prop}
    (hread : ∀ item, Peeks fits (read item) (described item)) (items : List ι) :
    Peeks fits (items.mapM read) (List.Forall₂ described items) := by
  induction items with
  | nil => exact (Peeks.pure []).mono fun _ hsame => hsame ▸ .nil
  | cons item rest ih =>
      rw [List.mapM_cons]
      exact (hread item).bind fun value hvalue => ih.bind fun others hothers =>
        (Peeks.pure _).mono fun _ hsame => hsame ▸ .cons hvalue hothers

end Peeks

section Choices

variable {fits : Catalogue → Prop}

/-- The text under a key as it is written; an empty one if there is none. -/
def textAt (table : Table) (key : String) : String :=
  (table.string? key).getD ""

theorem peeks_readText? (table : Table) (key : String) :
    Peeks fits (readText? table key) (table.string? key = ·) where
  ok := by
    intro before text after _ h
    rw [readText?, run_liftM, map_eq_ok_iff] at h
    obtain ⟨read, hread, h⟩ := h
    obtain ⟨rfl, rfl⟩ := Prod.mk.inj h
    exact ⟨(Table.text?_eq_ok_iff.mp (mapError_eq_ok_iff.mp hread)).2, rfl⟩
  keyless := by
    intro before taken _ h
    rw [readText?, run_liftM, map_eq_error_iff, mapError_eq_error_iff] at h
    obtain ⟨_, -, h⟩ := h
    cases h

theorem peeks_readText (table : Table) (key : String) :
    Peeks fits (readText table key) (textAt table key = ·) := by
  refine (peeks_readText? table key).map fun text htext => ?_
  rw [textAt, htext]

/-- What is written under a key chooses the member; if there is nothing, it is the given one. -/
def ChoiceAt [Labelled α] (table : Table) (key : String) (absent chosen : α) : Prop :=
  match table.string? key with
  | none => chosen = absent
  | some written => Labelled.ofText? written = some chosen

theorem peeks_choose [Labelled α] (field : ChoiceField) (written : String) :
    Peeks fits (choose field written : Reading α) (Labelled.ofText? written = some ·) := by
  rw [choose]
  split
  case h_1 member hmember => exact (Peeks.pure member).mono fun chosen hchosen => hchosen ▸ hmember
  case h_2 => exact .refuse nofun

theorem peeks_chooseAt [Labelled α] (table : Table) (key : String) (field : ChoiceField) (absent : α) :
    Peeks fits (chooseAt table key field absent) (ChoiceAt table key absent) := by
  refine (peeks_readText? table key).bind fun written hwritten => ?_
  subst hwritten
  unfold ChoiceAt
  cases table.string? key with
  | none => exact (Peeks.pure absent).mono fun chosen => Eq.symm
  | some written => exact peeks_choose field written

end Choices

/-- The tables among the items under a key. -/
def tablesAt (table : Table) (key : String) : List Table :=
  (table.items key).filterMap fun
    | .table entries => some entries
    | _ => none

theorem tablesAt_eq {table : Table} {key : String} {tables : List Table}
    (h : table.items key = tables.map .table) : tablesAt table key = tables := by
  rw [tablesAt, h, List.filterMap_map]
  exact List.filterMap_some

theorem tablesFrom_eq_ok {holder key : String} {index : Nat} {items : List Value}
    {tables : List Table} (h : tablesFrom holder key index items = .ok tables) :
    items = tables.map .table := by
  induction items generalizing index tables with
  | nil =>
      obtain rfl := Except.ok.inj h
      rfl
  | cons item rest ih =>
      cases item with
      | table entries =>
          obtain ⟨others, hothers, h⟩ := bind_eq_ok_iff.mp h
          obtain rfl := Except.ok.inj h
          rw [List.map_cons, ← ih hothers]
      | _ => cases h

theorem run_tables_eq_ok {table : Table} {key holder : String} {found : List Table}
    (h : (tables table key holder).run before = .ok (found, after)) :
    table.items key = found.map .table ∧ before = after := by
  rw [tables, run_liftM, map_eq_ok_iff] at h
  obtain ⟨found, hfound, h⟩ := h
  obtain ⟨rfl, rfl⟩ := Prod.mk.inj h
  exact ⟨tablesFrom_eq_ok (mapError_eq_ok_iff.mp hfound), rfl⟩

theorem tablesFrom_ne_duplicate (holder key : String) (index : Nat) (items : List Value)
    (taken : String) : tablesFrom holder key index items ≠ .error (.duplicateKey taken) := by
  induction items generalizing index with
  | nil => exact nofun
  | cons item rest ih =>
      cases item with
      | table entries =>
          intro h
          rcases bind_eq_error_iff.mp h with h | ⟨others, -, h⟩
          · exact ih _ h
          · cases h
      | _ => exact nofun

theorem keyless_tables (table : Table) (key holder : String) : Keyless (tables table key holder) := by
  intro before taken h
  rw [tables, run_liftM, map_eq_error_iff, mapError_eq_error_iff] at h
  obtain ⟨fault, hfault, h⟩ := h
  obtain rfl := (error_eq_shape_iff.mp h).2
  exact tablesFrom_ne_duplicate _ _ _ _ _ hfault

/-- Tables of elements with the elements made from them, in the order in which they are made. -/
abbrev Known := List (Table × Element)

def Known.tables (known : Known) : List Table :=
  known.map Prod.fst

/-- The known elements that have keys, each with its key. -/
def Known.keyed (known : Known) : List (String × Element) :=
  known.filterMap fun entry => (entry.1.string? "key").map (·, entry.2)

/-- The keys of tables, as texts. -/
def keysOf (tables : List Table) : List String :=
  tables.filterMap fun table => table.string? "key"

theorem keys_keyed (known : Known) : known.keyed.map Prod.fst = keysOf known.tables := by
  rw [Known.keyed, keysOf, Known.tables, List.map_filterMap, List.filterMap_map]
  refine List.filterMap_congr fun entry _ => ?_
  cases hkey : entry.1.string? "key" <;> simp [hkey]

theorem keysOf_append (first second : List Table) :
    keysOf (first ++ second) = keysOf first ++ keysOf second :=
  List.filterMap_append

theorem tables_append (first second : Known) :
    Known.tables (first ++ second) = first.tables ++ second.tables :=
  List.map_append

/-- What a value refers to. A text that is the key of a known table stands for the element made from it, and
any other text for itself. -/
def Bound (known : Known) (written : Value) (ref : Reference) : Prop :=
  ∃ text, written = .string text ∧ Text.isBlankText text = false ∧
    (∀ entry ∈ known, entry.1.string? "key" = some text → ref = .element entry.2) ∧
    ((∀ entry ∈ known, entry.1.string? "key" ≠ some text) → ref = .raw text)

/-- The catalogue holds exactly what is known, and the known elements were issued one after another. -/
structure Catalogue.Holds (catalogue : Catalogue) (known : Known) : Prop where
  keyed : catalogue.keyed = known.keyed
  distinct : (keysOf known.tables).Nodup
  issued : catalogue.allocator.issuedEver = known.length
  tokens : known.map (·.2.identity.token) = List.range known.length

theorem holds_empty : Catalogue.Holds {} [] where
  keyed := rfl
  distinct := List.nodup_nil
  issued := rfl
  tokens := rfl

namespace Catalogue.Holds

variable {known : Known}

theorem lookup_of_key (h : before.Holds known) {entry : Table × Element} (hmem : entry ∈ known)
    {key : String} (hkey : entry.1.string? "key" = some key) :
    before.keyed.lookup key = some entry.2 := by
  have hdistinct := h.distinct
  rw [← keys_keyed] at hdistinct
  rw [h.keyed]
  refine Association.lookup_of_mem hdistinct (List.mem_filterMap.mpr ⟨entry, hmem, ?_⟩)
  rw [hkey, Option.map_some]

theorem lookup_eq_none_iff (h : before.Holds known) {key : String} :
    before.keyed.lookup key = none ↔ key ∉ keysOf known.tables := by
  rw [h.keyed, ← keys_keyed]
  constructor
  · intro hnone hmem
    obtain ⟨entry, hentry, rfl⟩ := List.mem_map.mp hmem
    have hne := List.lookup_eq_none_iff.mp hnone entry hentry
    simp at hne
  · exact Association.lookup_eq_none

/-- Identities that are issued one after another differ. -/
theorem distinct_identities (h : before.Holds known) :
    ((known.map Prod.snd).map Element.identity).Nodup := by
  have htokens : (((known.map Prod.snd).map Element.identity).map Identity.token).Nodup := by
    rw [List.map_map, List.map_map]
    exact h.tokens ▸ List.nodup_range
  exact List.Nodup.of_map _ htokens

theorem bound_of_resolve (h : before.Holds known) {text : String} (hblank : Text.isBlankText text = false) :
    Bound known (.string text) (before.resolve text) := by
  refine ⟨text, rfl, hblank, ?_, ?_⟩
  · intro entry hentry hkey
    rw [resolve, h.lookup_of_key hentry hkey]
  · intro hnone
    have hfresh : text ∉ keysOf known.tables := by
      intro hmem
      obtain ⟨table, htable, hkey⟩ := List.mem_filterMap.mp hmem
      obtain ⟨entry, hentry, rfl⟩ := List.mem_map.mp htable
      exact hnone entry hentry hkey
    rw [resolve, h.lookup_eq_none_iff.mpr hfresh]

end Catalogue.Holds

theorem peeks_reference (known : Known) (field : String) (written : Value) :
    Peeks (·.Holds known) (reference field written) (Bound known written) := by
  cases written with
  | string text =>
      rw [reference]
      cases hblank : Text.isBlankText text with
      | true => exact .refuse nofun
      | false =>
          constructor
          case ok =>
            intro before ref after hknown h
            obtain ⟨catalogue, between, hread, h⟩ := run_bind_eq_ok_iff.mp h
            obtain ⟨rfl, rfl⟩ := Prod.mk.inj (Except.ok.inj hread)
            obtain ⟨rfl, rfl⟩ := run_pure_eq_ok_iff.mp h
            exact ⟨hknown.bound_of_resolve hblank, rfl⟩
          case keyless => exact fun _ h => nomatch h
  | _ => exact .refuse nofun

end C4Model.Blueprint
