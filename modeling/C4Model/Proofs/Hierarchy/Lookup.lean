import C4Model.Proofs.Hierarchy.Registry

/-! Finding registered elements again. Elements are registered under their names as they are, while a
reference is looked up without the blanks around it. So an element is found by its own name, or the first
one of that name is, unless the name begins or ends with a blank; then the name finds another element or
none. Whatever a reference has found, it finds ever after, for registering only adds elements behind those
that are there. -/

namespace C4Model.Hierarchy

/-- The first of some elements that has a name. -/
def FirstNamed (elements : List Element) (name : String) (first : Element) : Prop :=
  ∃ before after, elements = before ++ first :: after ∧ first.name = name ∧
    ∀ earlier ∈ before, earlier.name ≠ name

theorem firstNamed_iff {elements : List Element} {name : String} {first : Element} :
    elements.find? (fun element => element.name == name) = some first ↔
      FirstNamed elements name first := by
  rw [List.find?_eq_some_iff_append]
  simp only [FirstNamed, beq_iff_eq, Bool.not_eq_true', beq_eq_false_iff_ne, ne_eq]
  constructor
  · rintro ⟨hname, before, after, hsplit, hbefore⟩
    exact ⟨before, after, hsplit, hname, hbefore⟩
  · rintro ⟨before, after, hsplit, hname, hbefore⟩
    exact ⟨hname, before, after, hsplit, hbefore⟩

theorem resolveAmong_append (first second : List Element) (ref : Reference) :
    resolveAmong (first ++ second) ref = (resolveAmong first ref).or (resolveAmong second ref) := by
  cases ref <;> exact List.find?_append

namespace Registry

variable {registry : Registry}

/-- A call registers its elements up to the first one that is there already. -/
theorem exists_registerEach (registry : Registry) (entries : List Entry) :
    ∃ done rest, entries = done ++ rest ∧
      (registry.registerEach entries).1 = registry.extend done ∧
      (registry.identities.Nodup → (registry.extend done).identities.Nodup) := by
  induction entries generalizing registry with
  | nil => exact ⟨[], [], rfl, by simp [registerEach, extend], by simp [extend]⟩
  | cons entry rest ih =>
      rw [registerEach, register_eq]
      by_cases hmem : entry.element.identity ∈ registry.identities
      · exact ⟨[], entry :: rest, rfl, by simp [hmem, extend], by simp [extend]⟩
      · obtain ⟨done, left, hrest, hdone, hdistinct⟩ := ih (registry.extend [entry])
        rw [if_neg hmem]
        refine ⟨entry :: done, left, by rw [hrest, List.cons_append], ?_, fun hnodup => ?_⟩
        · rw [hdone, extend_extend, List.singleton_append]
        · rw [extend_extend, List.singleton_append] at hdistinct
          exact hdistinct (nodup_extend_singleton hnodup hmem)

/-- Calls, refused or not, add elements behind those that are there, and none of them twice. -/
theorem exists_after (registry : Registry) (calls : List Registration) :
    ∃ added, registry.after calls = registry.extend added ∧
      (registry.identities.Nodup → (registry.extend added).identities.Nodup) := by
  induction calls generalizing registry with
  | nil => exact ⟨[], by simp [after, extend], by simp [extend]⟩
  | cons call rest ih =>
      obtain ⟨done, -, -, hdone, hfirst⟩ := registry.exists_registerEach call.entries
      obtain ⟨added, hadded, hrest⟩ := ih (registry.extend done)
      rw [extend_extend] at hadded hrest
      exact ⟨done ++ added, by rw [after, hdone, hadded], fun hdistinct => hrest (hfirst hdistinct)⟩

/-- A written reference finds the first element whose name it is without the blanks around it. -/
theorem lookup_raw_eq_some_iff {text : String} {found : Element} :
    registry.lookup (.raw text) = some found ↔
      FirstNamed registry.elements (Text.strip text) found := by
  rw [lookup_eq, ← firstNamed_iff]
  rfl

theorem lookup_raw_eq_none_iff {text : String} :
    registry.lookup (.raw text) = none ↔
      ∀ element ∈ registry.elements, element.name ≠ Text.strip text := by
  rw [lookup_eq]
  simp [resolveAmong, Reference.endpoint]

/-- What a reference finds does not depend on what is registered later. -/
theorem lookup_extend {ref : Reference} {found : Element} (h : registry.lookup ref = some found)
    (added : List Entry) : (registry.extend added).lookup ref = some found := by
  rw [lookup_eq] at h ⊢
  rw [elements_extend, resolveAmong_append, h, Option.some_or]

/-- Some element is found by the name of a registered one, the first of that name, exactly if the name has no
blanks around it. -/
theorem exists_lookup_name_iff {element : Element} (h : element ∈ registry.elements) :
    (∃ first, registry.lookup (.raw element.name) = some first ∧
      FirstNamed registry.elements element.name first) ↔ Text.strip element.name = element.name := by
  constructor
  · rintro ⟨first, hfound, -, -, -, hname, -⟩
    obtain ⟨-, -, -, hstripped, -⟩ := lookup_raw_eq_some_iff.mp hfound
    rw [← hstripped, hname]
  · intro hstrip
    cases hfound : registry.lookup (.raw element.name) with
    | none =>
        rw [lookup_raw_eq_none_iff, hstrip] at hfound
        exact absurd rfl (hfound element h)
    | some first =>
        rw [lookup_raw_eq_some_iff, hstrip] at hfound
        exact ⟨first, rfl, hfound⟩

/-- After any calls, refused ones among them: every registered element is found by its identity, and its
name finds the first element of that name exactly if there are no blanks around the name. Else it finds
the first one that is called by the name without its blanks, if there is any. What a reference has found
once, it finds after all further calls. -/
theorem lookup_after (calls : List Registration) :
    (∀ element ∈ (({} : Registry).after calls).elements,
      ((∃ first, (({} : Registry).after calls).lookup (.raw element.name) = some first ∧
          FirstNamed (({} : Registry).after calls).elements element.name first) ↔
        Text.strip element.name = element.name) ∧
      (({} : Registry).after calls).lookup (.identity element.identity) = some element ∧
      (({} : Registry).after calls).lookup (.element element) = some element) ∧
    (∀ text found, (({} : Registry).after calls).lookup (.raw text) = some found ↔
      FirstNamed (({} : Registry).after calls).elements (Text.strip text) found) ∧
    ∀ ref found, (({} : Registry).after calls).lookup ref = some found →
      ∀ later, ((({} : Registry).after calls).after later).lookup ref = some found := by
  obtain ⟨added, hadded, hdistinct⟩ := ({} : Registry).exists_after calls
  have hnodup : (({} : Registry).after calls).identities.Nodup := by
    rw [hadded]
    exact hdistinct List.nodup_nil
  refine ⟨fun element helement => ⟨exists_lookup_name_iff helement, ?_, ?_⟩,
    fun _ _ => lookup_raw_eq_some_iff, fun ref found hfound later => ?_⟩
  · exact lookup_of_mem hnodup helement rfl
  · exact lookup_of_mem hnodup helement rfl
  · obtain ⟨more, hmore, -⟩ := (({} : Registry).after calls).exists_after later
    rw [hmore]
    exact lookup_extend hfound more

/-! ### A register in which a name begins with a blank -/

def quay : SoftwareSystem where
  identity := ⟨0, .softwareSystem, 1, " Quay"⟩
  name := " Quay"
  description := "Takes ships"

def pilot : Person where
  identity := ⟨1, .person, 2, "Quay"⟩
  name := "Quay"
  description := "Knows the way"

def hook : Component where
  identity := ⟨2, .component, 3, "Hook"⟩
  name := "Hook"
  description := "Holds nets"

def mast : Container where
  identity := ⟨3, .container, 4, "Mast"⟩
  name := "Mast"
  description := "Stands upright"
  components := [hook]

/-- The last call is refused, since the hook is there already; the mast stays registered. -/
def landing : List Registration :=
  [.withContainers quay, .alone (.component hook) none, .alone (.person pilot) none,
    .withComponents mast (some (.softwareSystem quay))]

/-- The name of the quay finds the pilot, who is called so without the blank; the mast is found by its name,
also when one more of that name comes after it. -/
theorem lookup_after_landing :
    ((({} : Registry).after landing.dropLast).registerEach
      (containerEntries (some quay.identity) mast)).2 = some (.duplicate .component "Hook") ∧
    (({} : Registry).after landing).lookup (.raw " Quay") = some (.person pilot) ∧
    (({} : Registry).after landing).lookup (.identity quay.identity) = some (.softwareSystem quay) ∧
    (¬ ∃ first, (({} : Registry).after landing).lookup (.raw " Quay") = some first ∧
      FirstNamed (({} : Registry).after landing).elements " Quay" first) ∧
    (({} : Registry).after landing).lookup (.raw "Mast") = some (.container mast) ∧
    ((({} : Registry).after landing).after [.alone (.person { pilot with
      identity := ⟨4, .person, 5, "Mast"⟩, name := "Mast" }) none]).lookup (.raw "Mast") =
        some (.container mast) := by
  obtain ⟨hregistered, hwritten, hlater⟩ := lookup_after landing
  have hquay : Element.softwareSystem quay ∈ (({} : Registry).after landing).elements :=
    List.mem_cons_self
  have hmast : (({} : Registry).after landing).lookup (.raw "Mast") = some (.container mast) := by
    refine (hwritten _ _).mpr ⟨[.softwareSystem quay, .component hook, .person pilot], [], rfl, ?_, ?_⟩
    · decide
    · decide
  refine ⟨rfl, ?_, (hregistered _ hquay).2.1, ?_, hmast, hlater _ _ hmast _⟩
  · refine (hwritten _ _).mpr ⟨[.softwareSystem quay, .component hook], [.container mast], rfl, ?_, ?_⟩
    · decide
    · decide
  · exact fun hfound => absurd ((hregistered _ hquay).1.mp hfound) (by decide)

end Registry

end C4Model.Hierarchy
