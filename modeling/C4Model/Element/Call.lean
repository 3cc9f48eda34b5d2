import C4Model.Element.Factory

/-! Calls of a factory, one after the other. A factory has one allocator for all that it makes; what a call
does to it stays, also if the call fails. Between calls the numbering may be reset. -/

namespace C4Model.Factory

/-- What the factory is asked to make. -/
inductive Call where
  | person (draft : Person.Draft)
  | softwareSystem (draft : SoftwareSystem.Draft)
  | container (draft : Container.Draft)
  | component (draft : Component.Draft)
  | code (draft : CodeElement.Draft)
  | relationship (source target : Reference) (description : String) (technology : Option String)
      (interaction : InteractionStyle)

/-- What it makes. -/
inductive Made where
  | element (element : Element)
  | relationship (relationship : Relationship)

/-- Making something, which may be refused. -/
abbrev Making := ExceptT FieldError (StateM Allocator)

def mint (kind : ElementKind) (name : String) : Making Identity :=
  modifyGet fun allocator => allocator.mint kind name

/-- All elements are made alike: the fields are checked, and then an identity is issued. -/
def makeElement (check : Except FieldError Unit) (kind : ElementKind) (name : String)
    (identified : Identity → Element) : Making Made := do
  liftM check
  let identity ← mint kind name
  return .element (identified identity)

def make : Call → Making Made
  | .person draft => makeElement draft.check .person draft.name (.person <| draft.identified ·)
  | .softwareSystem draft =>
      makeElement draft.check .softwareSystem draft.name (.softwareSystem <| draft.identified ·)
  | .container draft => makeElement draft.check .container draft.name (.container <| draft.identified ·)
  | .component draft => makeElement draft.check .component draft.name (.component <| draft.identified ·)
  | .code draft => makeElement draft.check .code draft.name (.code <| draft.identified ·)
  | .relationship source target description technology interaction => do
      return .relationship (← liftM (Relationship.make source target description technology interaction))

/-- The outcome of a call, and the allocator after it. -/
def outcome (allocator : Allocator) (call : Call) : Except FieldError Made × Allocator :=
  (make call).run.run allocator

inductive Event where
  | call (call : Call)
  | reset (start : Option Int)

/-- The allocator after an event. -/
def afterEvent (allocator : Allocator) : Event → Allocator
  | .call call => (outcome allocator call).2
  | .reset start => allocator.reset start

/-- The allocator after events in turn. -/
def after (allocator : Allocator) (history : List Event) : Allocator :=
  history.foldl afterEvent allocator

end C4Model.Factory
