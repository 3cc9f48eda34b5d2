import C4Model.Proofs.Naming.PathMap
import C4Model.Proofs.Workspace.Placement
import Mathlib.Data.List.Perm.Basic

/-! The elements that are written are those that are placed, in another order: a declared child is written
with its parent, after what the parent owns. Since the parents have different identities, every child is
written under one of them and under no other. So nothing is written twice, and every element gets its
path. -/

namespace C4Model

open Hierarchy
open scoped List

namespace Hierarchy

variable {α β : Type}

theorem childrenOf_eq (attached : List (Identity × α)) (parent : Identity) :
    childrenOf attached parent =
      (attached.filter fun entry => decide (entry.1 = parent)).map Prod.snd := by
  induction attached with
  | nil => rfl
  | cons entry rest ih =>
      rw [childrenOf] at ih
      by_cases hparent : entry.1 = parent <;> simp [childrenOf, hparent, ih]

/-- What is attached to other parents does not matter. -/
theorem childrenOf_filter_ne {attached : List (Identity × α)} {parent other : Identity}
    (hne : other ≠ parent) :
    childrenOf (attached.filter fun entry => !decide (entry.1 = parent)) other =
      childrenOf attached other := by
  rw [childrenOf_eq, childrenOf_eq, List.filter_filter]
  congr 1
  refine List.filter_congr fun entry _ => ?_
  by_cases hother : entry.1 = other
  · simp [hother, hne]
  · simp [hother]

/-- If the parents differ and all are there, the children of all parents are all attached children. -/
theorem flatMap_childrenOf_perm {parents : List β} {key : β → Identity}
    {attached : List (Identity × α)} (hdistinct : (parents.map key).Nodup)
    (hknown : ∀ entry ∈ attached, entry.1 ∈ parents.map key) :
    (parents.flatMap fun parent => childrenOf attached (key parent)).Perm
      (attached.map Prod.snd) := by
  induction parents generalizing attached with
  | nil =>
      have hnone : attached = [] :=
        List.eq_nil_iff_forall_not_mem.mpr fun entry hentry => by simpa using hknown entry hentry
      simp [hnone]
  | cons parent rest ih =>
      obtain ⟨hfresh, hrest⟩ := List.nodup_cons.mp hdistinct
      let others := attached.filter fun entry => !decide (entry.1 = key parent)
      have hothers : ∀ entry ∈ others, entry.1 ∈ rest.map key := by
        intro entry hentry
        obtain ⟨hmem, hne⟩ := List.mem_filter.mp hentry
        rcases List.mem_cons.mp (hknown entry hmem) with hsame | hlater
        · simp [hsame] at hne
        · exact hlater
      have hsame : (rest.flatMap fun other => childrenOf attached (key other)) =
          rest.flatMap fun other => childrenOf others (key other) := by
        refine List.flatMap_congr fun other hother => (childrenOf_filter_ne ?_).symm
        intro heq
        exact hfresh (heq ▸ List.mem_map_of_mem hother)
      rw [List.flatMap_cons, hsame, childrenOf_eq]
      calc _ ++ (rest.flatMap fun other => childrenOf others (key other))
        _ ~ _ ++ others.map Prod.snd := (ih hrest hothers).append_left _
        _ = (_ ++ others).map Prod.snd := List.map_append.symm
        _ ~ attached.map Prod.snd := (List.filter_append_perm _ attached).map _

end Hierarchy

namespace Workspace

/-- All containers, the owned ones before the declared ones. -/
def containers (w : Workspace) : List Container :=
  w.systems.flatMap (·.containers) ++ w.containerDeclarations.map (·.child)

def components (w : Workspace) : List Component :=
  w.containers.flatMap (·.components) ++ w.componentDeclarations.map (·.child)

/-- The placed elements, kind by kind. -/
def byKind (w : Workspace) : List Element :=
  w.people.map .person ++ (w.systems.map .softwareSystem ++
    (w.containers.map .container ++ w.components.map .component))

/-- The elements in the order in which they are written. -/
def walked (w : Workspace) (attachments : Attachments) : List Element :=
  w.people.map .person ++ w.systems.flatMap fun system =>
    .softwareSystem system :: (attachments.containersOf system).flatMap fun container =>
      .container container :: (attachments.componentsOf container).map .component

variable {w : Workspace} {attachments : Attachments}

theorem flatMap_container_perm (containers : List Container)
    (componentsOf : Container → List Component) :
    (containers.flatMap fun container =>
        Element.container container :: (componentsOf container).map .component) ~
      containers.map .container ++ (containers.flatMap componentsOf).map .component := by
  rw [List.map_flatMap]
  exact (List.map_append_flatMap_perm _ _ _).symm

theorem flatMap_system_perm (systems : List SoftwareSystem)
    (containersOf : SoftwareSystem → List Container) (componentsOf : Container → List Component) :
    (systems.flatMap fun system =>
        Element.softwareSystem system :: (containersOf system).flatMap fun container =>
          Element.container container :: (componentsOf container).map .component) ~
      systems.map .softwareSystem ++ ((systems.flatMap containersOf).map .container ++
        ((systems.flatMap containersOf).flatMap componentsOf).map .component) := by
  refine (List.map_append_flatMap_perm _ _ _).symm.trans (List.Perm.append_left _ ?_)
  rw [← List.flatMap_assoc]
  exact flatMap_container_perm _ _

theorem placed_perm_byKind (w : Workspace) : w.placed ~ w.byKind := by
  have hdeclared : w.declaredContainers =
      (w.containerDeclarations.map (·.child)).flatMap fun container =>
        .container container :: container.components.map .component := by
    rw [declaredContainers, List.flatMap_map]
    rfl
  have hcomponents : w.declaredComponents =
      (w.componentDeclarations.map (·.child)).map .component := by
    rw [declaredComponents, List.map_map, List.map_eq_flatMap]
    rfl
  have hsystems := flatMap_system_perm w.systems (·.containers) (·.components)
  have hcontainers := flatMap_container_perm (w.containerDeclarations.map (·.child)) (·.components)
  rw [placed, topElements, byKind, hdeclared, hcomponents, List.append_assoc, List.append_assoc]
  refine List.Perm.append_left _ ((hsystems.append (hcontainers.append_right _)).trans ?_)
  simp only [containers, components, List.map_append, List.flatMap_append, List.append_assoc]
  exact ((List.perm_append_comm_assoc _ _ _).append_left _).append_left _

theorem mem_systems_of_mem_placed {system : SoftwareSystem} (h : .softwareSystem system ∈ w.placed) :
    system ∈ w.systems := by
  rw [w.placed_perm_byKind.mem_iff, byKind] at h
  simpa using h

theorem mem_containers_of_mem_placed {container : Container} (h : .container container ∈ w.placed) :
    container ∈ w.containers := by
  rw [w.placed_perm_byKind.mem_iff, byKind] at h
  simpa using h

end Workspace

namespace Hierarchy

theorem map_snd_eq_of_attachedTo {α : Type} {kind : ChildKind α} {placed : List Element}
    {declarations : List (Declaration α)} {attached : List (Identity × α)}
    (h : List.Forall₂ (AttachedTo kind placed) declarations attached) :
    attached.map Prod.snd = declarations.map (·.child) := by
  induction h with
  | nil => rfl
  | cons hentry _ ih => rw [List.map_cons, List.map_cons, ih, hentry.1]

theorem exists_parent_of_attachedTo {α : Type} {kind : ChildKind α} {placed : List Element}
    {declarations : List (Declaration α)} {attached : List (Identity × α)}
    (h : List.Forall₂ (AttachedTo kind placed) declarations attached) {entry : Identity × α}
    (hentry : entry ∈ attached) :
    ∃ parent ∈ placed, parent.identity = entry.1 ∧ parent.kind = kind.expected := by
  induction h with
  | nil => simp at hentry
  | cons hfirst _ ih =>
      rcases List.mem_cons.mp hentry with rfl | hlater
      · obtain ⟨-, parent, hmem, hidentity, hkind, -⟩ := hfirst
        exact ⟨parent, hmem, hidentity, hkind⟩
      · exact ih hlater

end Hierarchy

namespace Workspace

variable {w : Workspace} {attachments : Attachments}

namespace AttachesAs

theorem systems_known (h : w.AttachesAs attachments) {entry : Identity × Container}
    (hentry : entry ∈ attachments.containers) : entry.1 ∈ w.systems.map (·.identity) := by
  obtain ⟨parent, hmem, hidentity, hkind⟩ := exists_parent_of_attachedTo h.containers hentry
  cases parent with
  | softwareSystem system =>
      exact List.mem_map.mpr ⟨system, mem_systems_of_mem_placed hmem, hidentity⟩
  | person | container | component | code => cases hkind

theorem containers_known (h : w.AttachesAs attachments) {entry : Identity × Component}
    (hentry : entry ∈ attachments.components) : entry.1 ∈ w.containers.map (·.identity) := by
  obtain ⟨parent, hmem, hidentity, hkind⟩ := exists_parent_of_attachedTo h.components hentry
  cases parent with
  | container container =>
      exact List.mem_map.mpr ⟨container, mem_containers_of_mem_placed hmem, hidentity⟩
  | person | softwareSystem | component | code => cases hkind

theorem distinct_byKind (h : w.AttachesAs attachments) : (w.byKind.map Element.identity).Nodup :=
  (w.placed_perm_byKind.map _).nodup_iff.mp h.distinct

theorem distinct_systems (h : w.AttachesAs attachments) :
    (w.systems.map (·.identity)).Nodup := by
  have hdistinct := h.distinct_byKind
  simp only [byKind, List.map_append, List.map_map] at hdistinct
  exact (List.nodup_append.mp (List.nodup_append.mp hdistinct).2.1).1

theorem distinct_containers (h : w.AttachesAs attachments) :
    (w.containers.map (·.identity)).Nodup := by
  have hdistinct := h.distinct_byKind
  simp only [byKind, List.map_append, List.map_map] at hdistinct
  exact (List.nodup_append.mp
    (List.nodup_append.mp (List.nodup_append.mp hdistinct).2.1).2.1).1

theorem flatMap_containersOf_perm (h : w.AttachesAs attachments) :
    w.systems.flatMap attachments.containersOf ~ w.containers := by
  have hdeclared := flatMap_childrenOf_perm h.distinct_systems fun _ => h.systems_known
  rw [map_snd_eq_of_attachedTo h.containers] at hdeclared
  exact (List.flatMap_append_perm _ _ _).symm.trans (hdeclared.append_left _)

theorem flatMap_componentsOf_perm (h : w.AttachesAs attachments) :
    w.containers.flatMap attachments.componentsOf ~ w.components := by
  have hdeclared := flatMap_childrenOf_perm h.distinct_containers fun _ => h.containers_known
  rw [map_snd_eq_of_attachedTo h.components] at hdeclared
  exact (List.flatMap_append_perm _ _ _).symm.trans (hdeclared.append_left _)

/-- Nothing that is placed is left out, and nothing is written that is not placed. -/
theorem walked_perm_placed (h : w.AttachesAs attachments) : w.walked attachments ~ w.placed := by
  have hcontainers := h.flatMap_containersOf_perm
  have hcomponents : (w.systems.flatMap attachments.containersOf).flatMap attachments.componentsOf ~
      w.components := (hcontainers.flatMap_right _).trans h.flatMap_componentsOf_perm
  refine List.Perm.trans ?_ w.placed_perm_byKind.symm
  refine List.Perm.append_left _ ((flatMap_system_perm _ _ _).trans (List.Perm.append_left _ ?_))
  exact (hcontainers.map _).append (hcomponents.map _)

theorem distinct_walked (h : w.AttachesAs attachments) :
    ((w.walked attachments).map Element.identity).Nodup :=
  (h.walked_perm_placed.map _).nodup_iff.mpr h.distinct

end AttachesAs

end Workspace

end C4Model
