import C4Model.Proofs.Hierarchy.Placement
import C4Model.Workspace.Serialize

/-! The elements that a workspace places, in the order in which they are registered: people, systems with
all they own, declared containers with their components, declared components. The checks on declarations
succeed exactly if none of them is placed twice and every declared parent is found among the elements
before. -/

namespace C4Model.Workspace

open Hierarchy Outcome

/-- People, and systems with all they own. -/
def topElements (w : Workspace) : List Element :=
  w.people.map .person ++ w.systems.flatMap SoftwareSystem.elements

/-- Declared containers, each with its components. -/
def declaredContainers (w : Workspace) : List Element :=
  w.containerDeclarations.flatMap fun declaration => containerChildren.elements declaration.child

def declaredComponents (w : Workspace) : List Element :=
  w.componentDeclarations.flatMap fun declaration => componentChildren.elements declaration.child

/-- All elements of the workspace. -/
def placed (w : Workspace) : List Element :=
  w.topElements ++ w.declaredContainers ++ w.declaredComponents

theorem distinct_topAndContainers {w : Workspace} (h : (w.placed.map Element.identity).Nodup) :
    ((w.topElements ++ w.declaredContainers).map Element.identity).Nodup := by
  rw [placed, List.map_append] at h
  exact (List.nodup_append.mp h).1

theorem distinct_topElements {w : Workspace} (h : (w.placed.map Element.identity).Nodup) :
    (w.topElements.map Element.identity).Nodup := by
  have hboth := distinct_topAndContainers h
  rw [List.map_append] at hboth
  exact (List.nodup_append.mp hboth).1

/-- What the checks on declarations have found once they succeed. -/
structure AttachesAs (w : Workspace) (attachments : Attachments) : Prop where
  distinct : (w.placed.map Element.identity).Nodup
  containerParents : ParentsResolve containerChildren w.topElements w.containerDeclarations
  componentParents : ParentsResolve componentChildren (w.topElements ++ w.declaredContainers)
    w.componentDeclarations
  containers : List.Forall₂ (AttachedTo containerChildren w.placed) w.containerDeclarations
    attachments.containers
  components : List.Forall₂ (AttachedTo componentChildren w.placed) w.componentDeclarations
    attachments.components

/-- What is registered before any declaration is looked at. -/
def topEntries (w : Workspace) : List Entry :=
  w.people.map (⟨.person ·, none⟩) ++ w.systems.flatMap systemEntries

theorem elements_systemEntries (system : SoftwareSystem) :
    (systemEntries system).map (·.element) = system.elements := by
  have hcontainer : ∀ container : Container,
      (containerEntries (some system.identity) container).map (·.element) =
        .container container :: container.components.map .component :=
    fun container => elements_entries containerChildren _ container
  simp only [systemEntries, SoftwareSystem.elements, List.map_cons, List.map_flatMap, hcontainer]

theorem elements_topEntries (w : Workspace) : w.topEntries.map (·.element) = w.topElements := by
  simp only [topEntries, topElements, List.map_append, List.map_map, List.map_flatMap,
    elements_systemEntries]
  rfl

theorem grounded_append_containers {entries : List Entry} (hgrounded : Grounded entries)
    {parent : Identity} (hparent : parent ∈ entries.map Entry.identity)
    (containers : List Container) :
    Grounded (entries ++ containers.flatMap (containerEntries (some parent))) := by
  induction containers generalizing entries with
  | nil => simpa using hgrounded
  | cons container rest ih =>
      rw [List.flatMap_cons, ← List.append_assoc]
      refine ih (hgrounded.append_entries hparent container) ?_
      rw [List.map_append]
      exact List.mem_append_left _ hparent

theorem grounded_append_system {entries : List Entry} (hgrounded : Grounded entries)
    (system : SoftwareSystem) : Grounded (entries ++ systemEntries system) := by
  have hsystem : Grounded (entries ++ [⟨.softwareSystem system, none⟩]) :=
    hgrounded.snoc fun above habove => by cases habove
  rw [systemEntries, List.append_cons]
  exact grounded_append_containers hsystem (by simp [Entry.identity, Element.identity]) _

theorem grounded_topEntries (w : Workspace) : Grounded w.topEntries := by
  have hpeople : Grounded (w.people.map fun person => (⟨.person person, none⟩ : Entry)) := by
    refine Grounded.empty.append fun entry hentry above habove => ?_
    obtain ⟨person, -, rfl⟩ := List.mem_map.mp hentry
    cases habove
  have hsystems : ∀ (entries : List Entry) (systems : List SoftwareSystem), Grounded entries →
      Grounded (entries ++ systems.flatMap systemEntries) := by
    intro entries systems hgrounded
    induction systems generalizing entries with
    | nil => simpa using hgrounded
    | cons system rest ih =>
        rw [List.flatMap_cons, ← List.append_assoc]
        exact ih _ (grounded_append_system hgrounded system)
  exact hsystems _ _ hpeople

/-- The register after the elements that are not declared. -/
def topRegistry (w : Workspace) : Registry :=
  ⟨w.topEntries⟩

theorem elements_topRegistry (w : Workspace) : w.topRegistry.elements = w.topElements :=
  w.elements_topEntries

theorem registerAll_topEntries {w : Workspace} {registry : Registry} :
    ({} : Registry).registerAll w.topEntries = .ok registry ↔
      (w.topElements.map Element.identity).Nodup ∧ registry = w.topRegistry := by
  have hempty : ({} : Registry).identities.Nodup := List.nodup_nil
  have hextend : ({} : Registry).extend w.topEntries = w.topRegistry := by
    simp [Registry.extend, topRegistry]
  rw [Registry.registerAll_eq_ok_iff hempty, hextend, Registry.identities_eq, elements_topRegistry]

theorem sound_topRegistry {w : Workspace} (hdistinct : (w.topElements.map Element.identity).Nodup) :
    w.topRegistry.Sound := by
  refine ⟨?_, w.grounded_topEntries⟩
  rwa [Registry.identities_eq, elements_topRegistry]

theorem attachments_eq_ok {w : Workspace} {attachments : Attachments} :
    w.attachments = .ok attachments ↔
      ∃ registry, ({} : Registry).registerAll w.topEntries = .ok registry ∧
        ∃ first, attach containerChildren registry w.containerDeclarations = .ok first ∧
          ∃ second, attach componentChildren first.1 w.componentDeclarations = .ok second ∧
            ⟨first.2, second.2⟩ = attachments := by
  simp only [Workspace.attachments, resolveDeclarations, bind_eq_ok_iff, pure, Except.pure,
    Except.ok.injEq, topEntries]

theorem attachesAs_of_attachments {w : Workspace} {attachments : Attachments}
    (h : w.attachments = .ok attachments) : w.AttachesAs attachments := by
  obtain ⟨registry, hregistry, ⟨first, containers⟩, hfirst, ⟨second, components⟩, hsecond, rfl⟩ :=
    attachments_eq_ok.mp h
  obtain ⟨htop, rfl⟩ := registerAll_topEntries.mp hregistry
  have hcontainers := attaches_of_attach (sound_topRegistry htop) hfirst
  have hcomponents := attaches_of_attach hcontainers.sound hsecond
  have hfirstelements : first.elements = w.topElements ++ w.declaredContainers := by
    rw [hcontainers.elements, elements_topRegistry]
    rfl
  have hsecondelements : second.elements = w.placed := by
    rw [hcomponents.elements, hfirstelements]
    rfl
  refine ⟨?_, ?_, ?_, ?_, ?_⟩
  · simpa only [Registry.identities_eq, hsecondelements] using hcomponents.sound.distinct
  · simpa only [elements_topRegistry] using hcontainers.parents
  · simpa only [hfirstelements] using hcomponents.parents
  · refine hcontainers.attached.imp fun declaration entry hentry => hentry.mono ?_
    rw [hfirstelements]
    exact List.subset_append_left _ _
  · simpa only [hsecondelements] using hcomponents.attached

theorem attachments_of_parentsResolve {w : Workspace}
    (hdistinct : (w.placed.map Element.identity).Nodup)
    (hcontainers : ParentsResolve containerChildren w.topElements w.containerDeclarations)
    (hcomponents : ParentsResolve componentChildren (w.topElements ++ w.declaredContainers)
      w.componentDeclarations) :
    ∃ attachments, w.attachments = .ok attachments := by
  have htop := distinct_topElements hdistinct
  have hsound := sound_topRegistry htop
  obtain ⟨first, containers, hfirst⟩ := attach_of_parentsResolve hsound
    (by rw [elements_topRegistry]; exact distinct_topAndContainers hdistinct)
    (by rwa [elements_topRegistry])
  have hattaches := attaches_of_attach hsound hfirst
  have hfirstelements : first.elements = w.topElements ++ w.declaredContainers := by
    rw [hattaches.elements, elements_topRegistry]
    rfl
  obtain ⟨second, components, hsecond⟩ := attach_of_parentsResolve hattaches.sound
    (by rw [hfirstelements]; exact hdistinct) (by rwa [hfirstelements])
  exact ⟨_, attachments_eq_ok.mpr ⟨_, registerAll_topEntries.mpr ⟨htop, rfl⟩, _, hfirst, _,
    hsecond, rfl⟩⟩

theorem attachments_error {w : Workspace} {error : HierarchyError}
    (h : w.attachments = .error error) : error ≠ .unregisteredAncestor := by
  rcases bind_eq_error_iff.mp h with h | ⟨registry, hregistry, h⟩
  · obtain ⟨_, _, rfl⟩ := Registry.registerAll_error h
    simp
  · obtain ⟨htop, rfl⟩ := registerAll_topEntries.mp hregistry
    rcases bind_eq_error_iff.mp h with h | ⟨⟨first, containers⟩, hfirst, h⟩
    · exact attach_error (sound_topRegistry htop) h
    · have hattaches := attaches_of_attach (sound_topRegistry htop) hfirst
      rcases bind_eq_error_iff.mp h with h | ⟨_, -, h⟩
      · exact attach_error hattaches.sound h
      · cases h

end C4Model.Workspace
