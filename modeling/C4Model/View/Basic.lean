import C4Model.Layout.Item
import C4Model.Layout.Statement
import C4Model.Naming.PathMap
import C4Model.Text.Labelled

/-! Views of a model. Every view but a landscape is about one element. What it includes and excludes is
named by elements, which are written as their paths, or by expressions, which are written as they
are. -/

namespace C4Model

inductive ViewType where
  | systemLandscape
  | systemContext
  | container
  | component
  | filtered
  | dynamic
  | deployment
  | custom
  deriving DecidableEq

instance : Labelled ViewType where
  all := [.systemLandscape, .systemContext, .container, .component, .filtered, .dynamic,
    .deployment, .custom]
  label
    | .systemLandscape => "systemLandscape"
    | .systemContext => "systemContext"
    | .container => "container"
    | .component => "component"
    | .filtered => "filtered"
    | .dynamic => "dynamic"
    | .deployment => "deployment"
    | .custom => "custom"
  otherWord
    | .systemLandscape => some "system_landscape"
    | .systemContext => some "system_context"
    | _ => none

def ViewType.keyword (viewType : ViewType) : String :=
  Labelled.label viewType

/-- Whether views of the type are about one element. -/
def ViewType.takesScope : ViewType → Bool
  | .systemLandscape => false
  | _ => true

structure View where
  viewType : ViewType
  title : String
  element : Option Reference := none
  included : List Reference := []
  excluded : List Reference := []

/-- Why a line cannot be rendered. -/
inductive RenderError where
  | template (name : String) (fault : Layout.TemplateFault)
  | scopeMissing (viewType : ViewType) (title : String)

/-- What the message calls the line. -/
def RenderError.subject : RenderError → String
  | .template name _ => name
  | .scopeMissing _ _ => "view"

def RenderError.reason (surrogates : Surrogates) : RenderError → String
  | .template _ fault => fault.message
  | .scopeMissing viewType title =>
      viewType.keyword ++ " view " ++ surrogates.quoted title ++ " needs a scoping element"

def RenderError.message (surrogates : Surrogates) (error : RenderError) : String :=
  "failed to render " ++ error.subject ++ " template: " ++ error.reason surrogates

/-- Fills the template that a pattern describes. -/
def renderPattern (pattern : String) (fields : List (String × String)) : Except RenderError String :=
  ((Layout.Template.ofPattern pattern).fill fields).mapError
    (.template (Layout.Template.nameOf pattern))

namespace View

open Layout

/-- What is included or excluded: an expression as it is, without the blanks around it, and an element
by its path. -/
def entryText (paths : Naming.PathMap) : Reference → String
  | .raw text => Text.strip text
  | ref => paths.resolve ref

def header (paths : Naming.PathMap) (view : View) : Except RenderError String :=
  let key := Naming.viewKey view.title
  if view.viewType.takesScope then
    match view.element with
    | none => .error (.scopeMissing view.viewType view.title)
    | some element =>
        .ok (Statement.viewOpen view.viewType.keyword (some (paths.resolve element)) key)
  else .ok (Statement.viewOpen view.viewType.keyword none key)

def entryItems (paths : Naming.PathMap) (view : View) : List Item :=
  view.included.map (fun ref => .line (Statement.viewInclude (entryText paths ref)))
    ++ view.excluded.map (fun ref => .line (Statement.viewExclude (entryText paths ref)))

def item (paths : Naming.PathMap) (view : View) : Except RenderError Item :=
  (view.header paths).map fun header => .block header (view.entryItems paths)

/-- The fragments in a row, with a blank line before each but a first thing in its block. -/
def fragmentItems (separate : Bool) : List String → List Item
  | [] => []
  | fragment :: rest =>
      if fragment.isEmpty then fragmentItems separate rest
      else (if separate then [.blank] else []) ++ spliced fragment ++ fragmentItems true rest

/-- The block of views with the finished fragments for styles and configuration in it, or an empty text
if there is nothing to show. -/
def renderAll (width : Int) (paths : Naming.PathMap) (views : List View)
    (styles configuration : String) : Except RenderError String := do
  if views.isEmpty && styles.isEmpty && configuration.isEmpty then return ""
  let items ← views.mapM (item paths)
  let fragments := fragmentItems (!views.isEmpty) [styles, configuration]
  return Layout.render width [.block Statement.viewsOpen (items ++ fragments)]

end View

end C4Model
