import C4Model.Proofs.Workspace.Success

/-! Declared children and owned children. Once the declarations of a workspace have been checked, every
declared child may as well be owned by the parent that it was declared for: the same elements are written
in the same order, so they get the same identifiers and the same paths, and the document is the same. -/

namespace C4Model

open Hierarchy Outcome

namespace Hierarchy.Attachments

/-- The container with the components declared for it among its own. -/
def ownedContainer (attachments : Attachments) (container : Container) : Container :=
  { container with components := attachments.componentsOf container }

/-- The system with all that is declared for it and for its containers among what it owns. -/
def ownedSystem (attachments : Attachments) (system : SoftwareSystem) : SoftwareSystem :=
  { system with containers := (attachments.containersOf system).map attachments.ownedContainer }

/-- Without declarations a system holds what it owns. -/
theorem containersOf_nothing (system : SoftwareSystem) :
    ({} : Attachments).containersOf system = system.containers :=
  List.append_nil _

theorem componentsOf_nothing (container : Container) :
    ({} : Attachments).componentsOf container = container.components :=
  List.append_nil _

end Hierarchy.Attachments

namespace Outline

theorem ofContainer_owned (attachments : Attachments) (container : Container) :
    ofContainer {} (attachments.ownedContainer container) = ofContainer attachments container := by
  rw [ofContainer, Attachments.componentsOf_nothing]
  rfl

theorem ofSystem_owned (attachments : Attachments) (system : SoftwareSystem) :
    ofSystem {} (attachments.ownedSystem system) = ofSystem attachments system := by
  have hcontainers : ((attachments.containersOf system).map attachments.ownedContainer).map
      (ofContainer {}) = (attachments.containersOf system).map (ofContainer attachments) := by
    rw [List.map_map]
    exact List.map_congr_left fun container _ => ofContainer_owned attachments container
  rw [ofSystem, Attachments.containersOf_nothing, Attachments.ownedSystem, hcontainers]
  rfl

end Outline

namespace Workspace

/-- The workspace with every declared child owned by the parent that it was declared for. -/
def absorbed (w : Workspace) (attachments : Attachments) : Workspace :=
  { w with
    systems := w.systems.map attachments.ownedSystem
    containerDeclarations := []
    componentDeclarations := [] }

variable {w : Workspace} {attachments : Attachments}

theorem ofWorkspace_absorbed (w : Workspace) (attachments : Attachments) :
    Outline.ofWorkspace (w.absorbed attachments) {} = Outline.ofWorkspace w attachments := by
  have hsystems : (w.systems.map attachments.ownedSystem).map (Outline.ofSystem {}) =
      w.systems.map (Outline.ofSystem attachments) := by
    rw [List.map_map]
    exact List.map_congr_left fun system _ => Outline.ofSystem_owned attachments system
  rw [Outline.ofWorkspace, absorbed, hsystems]
  rfl

theorem named_absorbed (w : Workspace) (attachments : Attachments) :
    (w.absorbed attachments).named {} = w.named attachments := by
  rw [named, ofWorkspace_absorbed]
  rfl

theorem walked_absorbed (w : Workspace) (attachments : Attachments) :
    ((w.absorbed attachments).walked {}).map Element.identity =
      (w.walked attachments).map Element.identity := by
  rw [← identities_named, ← identities_named, named_absorbed]

/-- Without declarations the elements are written in the order in which they are placed. -/
theorem walked_nothing (w : Workspace) : w.walked {} = w.topElements := by
  simp only [walked, topElements, Attachments.containersOf_nothing, Attachments.componentsOf_nothing]
  rfl

theorem attachments_absorbed (h : w.attachments = .ok attachments) :
    (w.absorbed attachments).attachments = .ok {} := by
  have hplaced : (w.absorbed attachments).placed = (w.absorbed attachments).topElements := by
    rw [placed, declaredContainers, declaredComponents, absorbed]
    simp
  have hdistinct : ((w.absorbed attachments).placed.map Element.identity).Nodup := by
    rw [hplaced, ← walked_nothing, walked_absorbed]
    exact (attachesAs_of_attachments h).distinct_walked
  obtain ⟨found, hfound⟩ := attachments_of_parentsResolve hdistinct (parentsResolve_nil _ _)
    (parentsResolve_nil _ _)
  have hattaches := attachesAs_of_attachments hfound
  obtain ⟨containers, components⟩ := found
  obtain rfl : containers = [] := List.forall₂_nil_left_iff.mp hattaches.containers
  obtain rfl : components = [] := List.forall₂_nil_left_iff.mp hattaches.components
  exact hfound

/-- What is declared for a parent may as well be owned by it. -/
theorem serialize_absorbed {text : String} (h : w.serialize = .ok text) :
    ∃ attachments, w.attachments = .ok attachments ∧
      (w.absorbed attachments).serialize = .ok text := by
  obtain ⟨attachments, hattachments, views, hviews, rfl⟩ := serialize_eq_ok_iff.mp h
  refine ⟨attachments, hattachments, serialize_eq_ok_iff.mpr
    ⟨{}, attachments_absorbed hattachments, views, ?_, ?_⟩⟩
  · rw [named_absorbed]
    exact hviews
  · rw [named_absorbed]
    rfl

theorem serialize_absorbed_bookshop :
    ∃ text, Bookshop.workspace.serialize = .ok text ∧
      (Bookshop.workspace.absorbed ⟨[(Bookshop.shop.identity, Bookshop.stock)],
        [(Bookshop.stock.identity, Bookshop.shelf)]⟩).serialize = .ok text := by
  obtain ⟨text, htext⟩ := Bookshop.exists_document
  obtain ⟨attachments, hattachments, habsorbed⟩ := serialize_absorbed htext
  obtain rfl := Except.ok.inj (Bookshop.attachments_eq.symm.trans hattachments)
  exact ⟨text, htext, habsorbed⟩

end Workspace

end C4Model
