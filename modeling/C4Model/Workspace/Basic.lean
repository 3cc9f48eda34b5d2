import C4Model.Hierarchy.Attachment
import C4Model.Settings.Basic
import C4Model.View.Basic
import C4Model.View.Style

/-! A workspace: a model with the views and styles that present it. Texts rendered elsewhere may stand in
for its own styles or for its whole views, or add a configuration. -/

namespace C4Model

open Hierarchy

structure Workspace where
  settings : Settings := {}
  name : Option String := none
  description : Option String := none
  people : List Person := []
  systems : List SoftwareSystem := []
  containerDeclarations : List (Declaration Container) := []
  componentDeclarations : List (Declaration Component) := []
  relationships : List Relationship := []
  views : List View := []
  elementStyles : List ElementStyle := []
  relationshipStyles : List RelationshipStyle := []
  stylesText : Option String := none
  viewsText : Option String := none
  configurationText : Option String := none

namespace Workspace

def addPerson (w : Workspace) (person : Person) : Workspace :=
  { w with people := w.people ++ [person] }

def addSoftwareSystem (w : Workspace) (system : SoftwareSystem) : Workspace :=
  { w with systems := w.systems ++ [system] }

/-- Declares a container for the system that the reference stands for. -/
def addContainer (w : Workspace) (parent : Reference) (container : Container) : Workspace :=
  { w with containerDeclarations := w.containerDeclarations ++ [⟨container, parent⟩] }

/-- Declares a component for the container that the reference stands for. -/
def addComponent (w : Workspace) (parent : Reference) (component : Component) : Workspace :=
  { w with componentDeclarations := w.componentDeclarations ++ [⟨component, parent⟩] }

def addRelationship (w : Workspace) (relationship : Relationship) : Workspace :=
  { w with relationships := w.relationships ++ [relationship] }

def addView (w : Workspace) (view : View) : Workspace :=
  { w with views := w.views ++ [view] }

def addElementStyle (w : Workspace) (style : ElementStyle) : Workspace :=
  { w with elementStyles := w.elementStyles ++ [style] }

def addRelationshipStyle (w : Workspace) (style : RelationshipStyle) : Workspace :=
  { w with relationshipStyles := w.relationshipStyles ++ [style] }

/-- Takes styles rendered elsewhere in the place of its own. -/
def withStylesText (w : Workspace) (text : String) : Workspace :=
  { w with stylesText := some text }

/-- The name that is written. -/
def title (w : Workspace) : String :=
  w.name.getD w.settings.defaultName

/-- The description that is written. -/
def summary (w : Workspace) : String :=
  w.description.getD w.settings.defaultDescription

end Workspace

end C4Model
