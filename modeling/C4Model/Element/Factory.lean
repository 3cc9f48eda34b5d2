import C4Model.Element.Relationship
import C4Model.Text.Blank

/-! Making elements. The fields of an element are checked one after another before an identity is issued
to it, so that a refused element uses up no number. A blank optional text counts as none. -/

namespace C4Model

/-- What is being made when a field is refused. -/
inductive RecordKind where
  | element (kind : ElementKind)
  | relationship
  deriving DecidableEq

def RecordKind.label : RecordKind → String
  | .element kind => kind.label
  | .relationship => "Relationship"

/-- The rule that a field breaks. -/
inductive FieldRule where
  | notEmpty
  | atMost (limit actual : Nat)
  deriving DecidableEq

def FieldRule.message : FieldRule → String
  | .notEmpty => "cannot be empty"
  | .atMost limit actual =>
      "exceeds maximum length of " ++ toString limit ++ " characters (actual: "
        ++ toString actual ++ ")"

structure FieldError where
  record : RecordKind
  field : String
  rule : FieldRule
  deriving DecidableEq

def FieldError.message (error : FieldError) : String :=
  "invalid " ++ error.record.label ++ ": " ++ error.field ++ " " ++ error.rule.message

namespace FieldRule

def nameLimit : Nat := 255
def descriptionLimit : Nat := 1000
def technologyLimit : Nat := 255
def languageLimit : Nat := 255
def filePathLimit : Nat := 512
def responsibilityLimit : Nat := 500

def checkNotBlank (record : RecordKind) (field value : String) : Except FieldError Unit :=
  if Text.isBlankText value then .error ⟨record, field, .notEmpty⟩ else .ok ()

def checkLength (record : RecordKind) (field value : String) (limit : Nat) :
    Except FieldError Unit :=
  if limit < value.length then .error ⟨record, field, .atMost limit value.length⟩ else .ok ()

def checkOptionalLength (record : RecordKind) (field : String) (value : Option String)
    (limit : Nat) : Except FieldError Unit :=
  match value with
  | none => .ok ()
  | some value => checkLength record field value limit

/-- Checks the items of a list in order, `index` being the place of the first. -/
def checkEachLength (record : RecordKind) (field : String) (limit index : Nat) :
    List String → Except FieldError Unit
  | [] => .ok ()
  | value :: rest => do
      checkLength record (field ++ "[" ++ toString index ++ "]") value limit
      checkEachLength record field limit (index + 1) rest

/-- The rules on name and description that all elements share. -/
def checkTexts (record : RecordKind) (name description : String) : Except FieldError Unit := do
  checkNotBlank record "name" name
  checkLength record "name" name nameLimit
  checkNotBlank record "description" description
  checkLength record "description" description descriptionLimit

/-- A blank text counts as none. -/
def optionalText (value : Option String) : Option String :=
  value.filter fun text => !Text.isBlankText text

end FieldRule

open FieldRule

/-- A person without an identity. -/
structure Person.Draft where
  name : String
  description : String
  location : Location := .internal
  technology : Option String := none

structure SoftwareSystem.Draft where
  name : String
  description : String
  location : Location := .internal
  containers : List Container := []

structure Container.Draft where
  name : String
  description : String
  containerType : ContainerType := .other
  typeLabel : Option String := none
  technology : Option String := none
  location : Location := .internal
  components : List Component := []

structure Component.Draft where
  name : String
  description : String
  technology : Option String := none
  responsibilities : List String := []
  location : Location := .internal
  codeElements : List CodeElement := []

structure CodeElement.Draft where
  name : String
  description : String
  codeType : CodeType
  language : Option String := none
  filePath : Option String := none
  location : Location := .internal

def Person.Draft.check (draft : Person.Draft) : Except FieldError Unit := do
  checkTexts (.element .person) draft.name draft.description
  checkOptionalLength (.element .person) "technology" draft.technology technologyLimit

/-- The person that a draft becomes once it has an identity. -/
def Person.Draft.identified (draft : Person.Draft) (identity : Identity) : Person where
  identity
  name := draft.name
  description := draft.description
  technology := optionalText draft.technology
  location := draft.location

/-- Checks the draft and issues an identity to what it becomes. -/
def Person.make (draft : Person.Draft) (allocator : Allocator) :
    Except FieldError (Person × Allocator) := do
  draft.check
  let (identity, allocator) := allocator.mint .person draft.name
  return (draft.identified identity, allocator)

def SoftwareSystem.Draft.check (draft : SoftwareSystem.Draft) : Except FieldError Unit :=
  checkTexts (.element .softwareSystem) draft.name draft.description

/-- The software system that a draft becomes once it has an identity. -/
def SoftwareSystem.Draft.identified (draft : SoftwareSystem.Draft) (identity : Identity) :
    SoftwareSystem where
  identity
  name := draft.name
  description := draft.description
  containers := draft.containers
  location := draft.location

/-- Checks the draft and issues an identity to what it becomes. -/
def SoftwareSystem.make (draft : SoftwareSystem.Draft) (allocator : Allocator) :
    Except FieldError (SoftwareSystem × Allocator) := do
  draft.check
  let (identity, allocator) := allocator.mint .softwareSystem draft.name
  return (draft.identified identity, allocator)

def Container.Draft.check (draft : Container.Draft) : Except FieldError Unit := do
  checkTexts (.element .container) draft.name draft.description
  checkOptionalLength (.element .container) "technology" draft.technology technologyLimit
  checkOptionalLength (.element .container) "type_label" draft.typeLabel technologyLimit

/-- The container that a draft becomes once it has an identity. -/
def Container.Draft.identified (draft : Container.Draft) (identity : Identity) : Container where
  identity
  name := draft.name
  description := draft.description
  containerType := draft.containerType
  typeLabel := optionalText draft.typeLabel
  technology := optionalText draft.technology
  components := draft.components
  location := draft.location

/-- Checks the draft and issues an identity to what it becomes. -/
def Container.make (draft : Container.Draft) (allocator : Allocator) :
    Except FieldError (Container × Allocator) := do
  draft.check
  let (identity, allocator) := allocator.mint .container draft.name
  return (draft.identified identity, allocator)

def Component.Draft.check (draft : Component.Draft) : Except FieldError Unit := do
  checkTexts (.element .component) draft.name draft.description
  checkOptionalLength (.element .component) "technology" draft.technology technologyLimit
  checkEachLength (.element .component) "responsibilities" responsibilityLimit 0
    draft.responsibilities

/-- The component that a draft becomes once it has an identity. -/
def Component.Draft.identified (draft : Component.Draft) (identity : Identity) : Component where
  identity
  name := draft.name
  description := draft.description
  technology := optionalText draft.technology
  responsibilities := draft.responsibilities
  codeElements := draft.codeElements
  location := draft.location

/-- Checks the draft and issues an identity to what it becomes. -/
def Component.make (draft : Component.Draft) (allocator : Allocator) :
    Except FieldError (Component × Allocator) := do
  draft.check
  let (identity, allocator) := allocator.mint .component draft.name
  return (draft.identified identity, allocator)

def CodeElement.Draft.check (draft : CodeElement.Draft) : Except FieldError Unit := do
  checkTexts (.element .code) draft.name draft.description
  checkOptionalLength (.element .code) "language" draft.language languageLimit
  checkOptionalLength (.element .code) "file_path" draft.filePath filePathLimit

/-- The code element that a draft becomes once it has an identity. -/
def CodeElement.Draft.identified (draft : CodeElement.Draft) (identity : Identity) : CodeElement where
  identity
  name := draft.name
  description := draft.description
  codeType := draft.codeType
  language := optionalText draft.language
  filePath := optionalText draft.filePath
  location := draft.location

/-- Checks the draft and issues an identity to what it becomes. -/
def CodeElement.make (draft : CodeElement.Draft) (allocator : Allocator) :
    Except FieldError (CodeElement × Allocator) := do
  draft.check
  let (identity, allocator) := allocator.mint .code draft.name
  return (draft.identified identity, allocator)

/-- Refuses a blank written reference; an element is always fine. -/
def Endpoint.check (field : String) : Endpoint → Except FieldError Unit
  | .raw text => checkNotBlank .relationship field text
  | .identity _ => .ok ()

/-- Makes a relationship, which gets no identity. -/
def Relationship.make (source target : Reference) (description : String)
    (technology : Option String) (interaction : InteractionStyle) :
    Except FieldError Relationship := do
  checkNotBlank .relationship "description" description
  checkOptionalLength .relationship "technology" technology technologyLimit
  source.endpoint.check "source"
  target.endpoint.check "target"
  return {
    source := source.endpoint
    target := target.endpoint
    description
    technology := optionalText technology
    interaction }

end C4Model
