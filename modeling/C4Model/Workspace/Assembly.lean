import C4Model.Element.Factory
import C4Model.Workspace.Basic

/-! Putting a workspace together, one addition after another. Every addition goes behind those of its kind.
Only a relationship may be refused, for its fields are checked as it is added; the workspace then stays as
it was, and further additions may follow. -/

namespace C4Model

/-- What can be added to a workspace. -/
inductive Addition where
  | person (person : Person)
  | softwareSystem (system : SoftwareSystem)
  | container (parent : Reference) (container : Container)
  | component (parent : Reference) (component : Component)
  | relationship (source target : Reference) (description : String) (technology : Option String)
      (interaction : InteractionStyle)
  | view (view : View)
  | elementStyle (style : ElementStyle)
  | relationshipStyle (style : RelationshipStyle)

namespace Workspace

def add (w : Workspace) : Addition → Except FieldError Workspace
  | .person person => .ok (w.addPerson person)
  | .softwareSystem system => .ok (w.addSoftwareSystem system)
  | .container parent container => .ok (w.addContainer parent container)
  | .component parent component => .ok (w.addComponent parent component)
  | .relationship source target description technology interaction =>
      (Relationship.make source target description technology interaction).map w.addRelationship
  | .view view => .ok (w.addView view)
  | .elementStyle style => .ok (w.addElementStyle style)
  | .relationshipStyle style => .ok (w.addRelationshipStyle style)

/-- Adds one thing after another and goes on after those that are refused. -/
def addAll (w : Workspace) : List Addition → Workspace
  | [] => w
  | addition :: rest =>
      match w.add addition with
      | .ok next => next.addAll rest
      | .error _ => w.addAll rest

end Workspace

end C4Model
