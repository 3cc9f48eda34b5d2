import C4Model.Proofs.Reading.Document

/-! What a document says of a workspace. Apart from the identifiers, which the names determine, it says
exactly what the workspace holds: every element once, at its place and with its texts as they are, and
every relationship in its order. -/

namespace C4Model

open Hierarchy Outline
open scoped List

/-- What a declaration says of an element, apart from the identifier. -/
structure Reading.Described where
  keyword : Keyword
  name : String
  description : String
  technology : Option String
  external : Bool

def Reading.Declared.described (declared : Reading.Declared) : Reading.Described :=
  ⟨declared.keyword, declared.name, declared.description, declared.technology, declared.external⟩

/-! What there is to say of the elements of a workspace. A technology is said of components only, and only
if it is not empty; whether it is external, of people and systems only. -/

def Person.described (person : Person) : Tree Reading.Described :=
  .node ⟨.person, person.name, person.description, none, person.location = .external⟩ []

def Component.described (component : Component) : Tree Reading.Described :=
  .node ⟨.component, component.name, component.description,
    component.technology.filter fun text => !text.isEmpty, false⟩ []

def Container.described (attachments : Attachments) (container : Container) :
    Tree Reading.Described :=
  .node ⟨.container, container.name, container.description, none, false⟩
    ((attachments.componentsOf container).map Component.described)

def SoftwareSystem.described (attachments : Attachments) (system : SoftwareSystem) :
    Tree Reading.Described :=
  .node ⟨.softwareSystem, system.name, system.description, none, system.location = .external⟩
    ((attachments.containersOf system).map (Container.described attachments))

def Placed.described (placed : Placed) : Reading.Described :=
  ⟨placed.keyword, placed.name, placed.description, Layout.Line.present placed.technology,
    placed.external⟩

namespace Tree

variable {α β γ : Type}

mutual

theorem map_map (f : α → β) (g : β → γ) (tree : Tree α) :
    (tree.map f).map g = tree.map fun value => g (f value) := by
  cases tree with
  | node value children => rw [Tree.map, Tree.map, Tree.map, mapAll_mapAll]

theorem mapAll_mapAll (f : α → β) (g : β → γ) (forest : List (Tree α)) :
    mapAll g (mapAll f forest) = mapAll (fun value => g (f value)) forest := by
  cases forest with
  | nil => rfl
  | cons tree rest => rw [mapAll, mapAll, mapAll, map_map, mapAll_mapAll]

end

end Tree

namespace Outline

theorem described_ofContainer (attachments : Attachments) (container : Container) :
    (ofContainer attachments container).map Placed.described = container.described attachments := by
  rw [ofContainer, Tree.map, Tree.mapAll_eq, List.map_map]
  rfl

theorem described_ofSystem (attachments : Attachments) (system : SoftwareSystem) :
    (ofSystem attachments system).map Placed.described = system.described attachments := by
  have hcontainers : (attachments.containersOf system).map
      (Tree.map Placed.described ∘ ofContainer attachments) =
        (attachments.containersOf system).map (Container.described attachments) :=
    List.map_congr_left fun container _ => described_ofContainer attachments container
  rw [ofSystem, Tree.map, Tree.mapAll_eq, List.map_map, hcontainers]
  rfl

theorem described_ofWorkspace (w : Workspace) (attachments : Attachments) :
    Tree.mapAll Placed.described (ofWorkspace w attachments) =
      w.people.map Person.described ++ w.systems.map (SoftwareSystem.described attachments) := by
  have hsystems : w.systems.map (Tree.map Placed.described ∘ ofSystem attachments) =
      w.systems.map (SoftwareSystem.described attachments) :=
    List.map_congr_left fun system _ => described_ofSystem attachments system
  rw [Tree.mapAll_eq, ofWorkspace, List.map_append, List.map_map, List.map_map, hsystems]
  rfl

end Outline

namespace Workspace

theorem described_contents (w : Workspace) (attachments : Attachments) :
    (w.contents attachments).declarations.map (Tree.map Reading.Declared.described) =
      w.people.map Person.described ++ w.systems.map (SoftwareSystem.described attachments) := by
  have hplaces : Tree.mapAll Named.toPlaced (w.named attachments) = ofWorkspace w attachments :=
    mapAll_nameForest _ _ _ _
  rw [contents, ← Tree.mapAll_eq, ← Tree.mapAll_eq, Tree.mapAll_mapAll, ← described_ofWorkspace,
    ← hplaces, Tree.mapAll_mapAll]
  rfl

/-- From a document its header, its elements and its relationships are read back. Every declared child is
found under its parent, and no element is missing or there twice. -/
theorem decode_serialize {w : Workspace} {text : String} (h : w.serialize = .ok text) :
    ∃ attachments contents, w.attachments = .ok attachments ∧ w.AttachesAs attachments ∧
      Reading.decode text = some contents ∧
      contents.title = w.name.getD w.settings.defaultName ∧
      contents.summary = w.description.getD w.settings.defaultDescription ∧
      contents.declarations.map (Tree.map Reading.Declared.described) =
        w.people.map Person.described ++ w.systems.map (SoftwareSystem.described attachments) ∧
      (w.systems.flatMap attachments.containersOf ~ w.containers ∧
        w.containers.flatMap attachments.componentsOf ~ w.components ∧
        w.walked attachments ~ w.placed) ∧
      contents.relationships =
        w.relationships.map (Relationship.arrow (pathMap (w.named attachments))) := by
  obtain ⟨attachments, hattachments, hdecode⟩ := decode_of_serialize h
  have hattaches := attachesAs_of_attachments hattachments
  exact ⟨attachments, w.contents attachments, hattachments, hattaches, hdecode, rfl, rfl,
    w.described_contents attachments, ⟨hattaches.flatMap_containersOf_perm,
      hattaches.flatMap_componentsOf_perm, hattaches.walked_perm_placed⟩, rfl⟩

/-- The declared container is read back inside the system, and the declared component inside it. -/
theorem decode_bookshop :
    ∃ text contents, Bookshop.workspace.serialize = .ok text ∧ Reading.decode text = some contents ∧
      contents.declarations.map (Tree.map Reading.Declared.described) =
        [.node ⟨.person, "Reader", "Reads \"books\"", none, true⟩ [],
          .node ⟨.softwareSystem, "Shop", "Sells books", none, false⟩
            [.node ⟨.container, "Stock", "Holds shelves", none, false⟩
              [.node ⟨.component, "Shelf", "Holds books", some "Wood", false⟩ []]]] := by
  obtain ⟨text, htext⟩ := Bookshop.exists_document
  obtain ⟨attachments, contents, hattachments, -, hdecode, -, -, hdeclarations, -⟩ :=
    decode_serialize htext
  obtain rfl := Except.ok.inj (Bookshop.attachments_eq.symm.trans hattachments)
  exact ⟨text, contents, htext, hdecode, hdeclarations⟩

end Workspace

end C4Model
