import C4Model.Element.Identity

/-! The elements of a model. A software system owns containers, a container owns components, a component
owns code elements; children stand in the order in which they are written out. -/

namespace C4Model

structure CodeElement where
  identity : Identity
  name : String
  description : String
  codeType : CodeType
  language : Option String := none
  filePath : Option String := none
  location : Location := .internal

structure Component where
  identity : Identity
  name : String
  description : String
  technology : Option String := none
  responsibilities : List String := []
  codeElements : List CodeElement := []
  location : Location := .internal

structure Container where
  identity : Identity
  name : String
  description : String
  containerType : ContainerType := .other
  typeLabel : Option String := none
  technology : Option String := none
  components : List Component := []
  location : Location := .internal

structure SoftwareSystem where
  identity : Identity
  name : String
  description : String
  containers : List Container := []
  location : Location := .internal

structure Person where
  identity : Identity
  name : String
  description : String
  technology : Option String := none
  location : Location := .internal

/-- The type of a container for readers: its own label if it has no category and the label is not
empty. -/
def Container.typeName (container : Container) : String :=
  match container.containerType, container.typeLabel with
  | .other, some label => if label.isEmpty then ContainerType.other.displayName else label
  | category, _ => category.displayName

/-- An element of any kind. -/
inductive Element where
  | person (person : Person)
  | softwareSystem (system : SoftwareSystem)
  | container (container : Container)
  | component (component : Component)
  | code (code : CodeElement)

namespace Element

def identity : Element → Identity
  | .person e => e.identity
  | .softwareSystem e => e.identity
  | .container e => e.identity
  | .component e => e.identity
  | .code e => e.identity

def name : Element → String
  | .person e => e.name
  | .softwareSystem e => e.name
  | .container e => e.name
  | .component e => e.name
  | .code e => e.name

def description : Element → String
  | .person e => e.description
  | .softwareSystem e => e.description
  | .container e => e.description
  | .component e => e.description
  | .code e => e.description

def location : Element → Location
  | .person e => e.location
  | .softwareSystem e => e.location
  | .container e => e.location
  | .component e => e.location
  | .code e => e.location

def kind : Element → ElementKind
  | .person _ => .person
  | .softwareSystem _ => .softwareSystem
  | .container _ => .container
  | .component _ => .component
  | .code _ => .code

def person? : Element → Option Person
  | .person e => some e
  | _ => none

def softwareSystem? : Element → Option SoftwareSystem
  | .softwareSystem e => some e
  | _ => none

def container? : Element → Option Container
  | .container e => some e
  | _ => none

def component? : Element → Option Component
  | .component e => some e
  | _ => none

def code? : Element → Option CodeElement
  | .code e => some e
  | _ => none

end Element

end C4Model
