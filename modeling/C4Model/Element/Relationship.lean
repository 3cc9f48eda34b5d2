import C4Model.Element.Basic

/-! References to elements, and relationships between them. A relationship keeps no element: its ends
are identities, or written references to something declared elsewhere. -/

namespace C4Model

/-- What a relationship keeps of its ends. -/
inductive Endpoint where
  | raw (text : String)
  | identity (identity : Identity)
  deriving DecidableEq

/-- A way of naming an element. -/
inductive Reference where
  | raw (text : String)
  | identity (identity : Identity)
  | element (element : Element)

def Reference.endpoint : Reference → Endpoint
  | .raw text => .raw text
  | .identity who => .identity who
  | .element e => .identity e.identity

/-- The kind of an end, if it is an element of the model. -/
def Endpoint.kind? : Endpoint → Option ElementKind
  | .raw _ => none
  | .identity who => some who.kind

/-- The text of a written reference, or the name in an identity. -/
def Endpoint.name : Endpoint → String
  | .raw text => text
  | .identity who => who.name

structure Relationship where
  source : Endpoint
  target : Endpoint
  description : String
  technology : Option String := none
  interaction : InteractionStyle := .synchronous

end C4Model
