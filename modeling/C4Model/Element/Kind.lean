import C4Model.Text.Labelled

/-! The kinds of things in a model, and the categories that describe them further. -/

namespace C4Model

inductive ElementKind where
  | person
  | softwareSystem
  | container
  | component
  | code
  deriving DecidableEq

inductive Location where
  | internal
  | external
  deriving DecidableEq

/-- What kind of technology a container is; `other` goes with a label of its own. -/
inductive ContainerType where
  | webApplication
  | desktopApplication
  | mobileApplication
  | database
  | fileSystem
  | api
  | messageBus
  | other
  deriving DecidableEq

inductive InteractionStyle where
  | synchronous
  | asynchronous
  | bidirectional
  deriving DecidableEq

inductive CodeType where
  | classType
  | struct
  | function
  | trait
  | module
  | enum
  deriving DecidableEq

instance : Labelled ElementKind where
  all := [.person, .softwareSystem, .container, .component, .code]
  label
    | .person => "Person"
    | .softwareSystem => "SoftwareSystem"
    | .container => "Container"
    | .component => "Component"
    | .code => "Code"

def ElementKind.label (kind : ElementKind) : String :=
  Labelled.label kind

instance : Labelled Location where
  all := [.internal, .external]
  label
    | .internal => "internal"
    | .external => "external"

instance : Labelled ContainerType where
  all := [.webApplication, .desktopApplication, .mobileApplication, .database, .fileSystem, .api,
    .messageBus, .other]
  label
    | .webApplication => "web_application"
    | .desktopApplication => "desktop_application"
    | .mobileApplication => "mobile_application"
    | .database => "database"
    | .fileSystem => "file_system"
    | .api => "api"
    | .messageBus => "message_bus"
    | .other => "other"

/-- The name of a container type for readers. -/
def ContainerType.displayName : ContainerType → String
  | .webApplication => "Web Application"
  | .desktopApplication => "Desktop Application"
  | .mobileApplication => "Mobile Application"
  | .database => "Database"
  | .fileSystem => "File System"
  | .api => "API"
  | .messageBus => "Message Bus"
  | .other => "Other"

instance : Labelled InteractionStyle where
  all := [.synchronous, .asynchronous, .bidirectional]
  label
    | .synchronous => "synchronous"
    | .asynchronous => "asynchronous"
    | .bidirectional => "bidirectional"

instance : Labelled CodeType where
  all := [.classType, .struct, .function, .trait, .module, .enum]
  label
    | .classType => "class"
    | .struct => "struct"
    | .function => "function"
    | .trait => "trait"
    | .module => "module"
    | .enum => "enum"

end C4Model
