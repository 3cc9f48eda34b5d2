import C4Model.Layout.Template
import C4Model.Text.Literal

/-! The lines of a workspace document. Each is given as a template and as the text that filling the
template gives; texts between quotes are escaped first, so no field can end its own literal. -/

namespace C4Model.Layout

namespace Template

def workspaceOpen : Template :=
  [.text "workspace \"", .field "name", .text "\" \"", .field "description", .text "\" \x7b"]

def element : Template :=
  [.field "identifier", .text " = ", .field "keyword", .text " \"", .field "name", .text "\" \"",
    .field "description", .text "\""]

def elementWithTechnology : Template :=
  [.field "identifier", .text " = ", .field "keyword", .text " \"", .field "name", .text "\" \"",
    .field "description", .text "\" \"", .field "technology", .text "\""]

def tags : Template :=
  [.text "tags \"", .field "tags", .text "\""]

def relationship : Template :=
  [.field "source", .text " -> ", .field "target", .text " \"", .field "description", .text "\""]

def relationshipWithTechnology : Template :=
  [.field "source", .text " -> ", .field "target", .text " \"", .field "description",
    .text "\" \"", .field "technology", .text "\""]

def viewOpen : Template :=
  [.field "view_type", .text " ", .field "identifier", .text " \"", .field "title", .text "\" \x7b"]

def viewOpenWithoutIdentifier : Template :=
  [.field "view_type", .text " \"", .field "title", .text "\" \x7b"]

def viewInclude : Template :=
  [.text "include ", .field "reference"]

def viewExclude : Template :=
  [.text "exclude ", .field "reference"]

def elementStyleOpen : Template :=
  [.text "element \"", .field "tag", .text "\" \x7b"]

def relationshipStyleOpen : Template :=
  [.text "relationship \"", .field "tag", .text "\" \x7b"]

def styleAttribute : Template :=
  [.field "attribute", .text " ", .field "value"]

/-- The templates with the names that messages give them. -/
def named : List (String × Template) :=
  [("workspace", workspaceOpen), ("element", element), ("element", elementWithTechnology),
    ("tags", tags), ("relationship", relationship), ("relationship", relationshipWithTechnology),
    ("view", viewOpen), ("view", viewOpenWithoutIdentifier), ("view include", viewInclude),
    ("view exclude", viewExclude), ("element style", elementStyleOpen),
    ("relationship style", relationshipStyleOpen), ("style attribute", styleAttribute)]

/-- What a message calls the template with a pattern: its name, or else the pattern itself. -/
def nameOf (pattern : String) : String :=
  match named.find? fun entry => entry.2.pattern == pattern with
  | some (name, _) => name
  | none => Text.quoted pattern

end Template

namespace Statement

def quote (text : String) : String :=
  "\"" ++ (Literal.escape text ++ "\"")

def workspaceOpen (name description : String) : String :=
  "workspace " ++ (quote name ++ (" " ++ (quote description ++ " \x7b")))

/-- References are written by points from the outermost element inwards. -/
def identifiersDirective : String := "!identifiers hierarchical"

def modelOpen : String := "model \x7b"

def viewsOpen : String := "views \x7b"

def stylesOpen : String := "styles \x7b"

/-- The tag of elements outside the enterprise. -/
def externalTag : String := "External"

def externalTags : String :=
  "tags " ++ quote externalTag

/-- A further literal, present exactly if the text is not empty. -/
def optional (text : Option String) : String :=
  match text with
  | none => ""
  | some text => if text.isEmpty then "" else " " ++ quote text

def element (identifier keyword name description : String) (technology : Option String) : String :=
  identifier ++ (" = " ++ (keyword ++ (" " ++ (quote name ++ (" " ++ (quote description
    ++ optional technology))))))

def relationship (source target description : String) (technology : Option String) : String :=
  source ++ (" -> " ++ (target ++ (" " ++ (quote description ++ optional technology))))

/-- The header of a view. The title is a key, whose escapes are in place already. -/
def viewOpen (viewType : String) (scope : Option String) (key : String) : String :=
  viewType ++ (" " ++ ((scope.map (· ++ " ")).getD "" ++ ("\"" ++ (key ++ "\" \x7b"))))

def viewInclude (reference : String) : String :=
  "include " ++ reference

def viewExclude (reference : String) : String :=
  "exclude " ++ reference

def elementStyleOpen (tag : String) : String :=
  "element " ++ (quote tag ++ " \x7b")

def relationshipStyleOpen (tag : String) : String :=
  "relationship " ++ (quote tag ++ " \x7b")

def styleAttribute (name value : String) : String :=
  name ++ (" " ++ value)

end Statement

end C4Model.Layout
