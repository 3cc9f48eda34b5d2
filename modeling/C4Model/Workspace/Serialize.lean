import C4Model.Layout.Reindent
import C4Model.Workspace.Outline

/-! The document of a workspace. The declarations of children are checked before anything else; then the
model is written with its elements and relationships, and after it the views, if there is anything to
show. -/

namespace C4Model

/-- Why a workspace has no document. -/
inductive SerializeError where
  | hierarchy (error : Hierarchy.HierarchyError)
  | twicePlaced (error : Naming.PathMap.TwicePlaced)
  | numeral (error : NumeralError)
  | render (error : RenderError)

namespace Document

open Layout

/-- The line that declares an element. -/
def declarationLine (named : Named) : String :=
  Statement.element named.identifier named.keyword.text named.name named.description
    named.technology

/-- What stands after the line of an element that holds nothing. -/
def emptyBody : Keyword → String
  | .softwareSystem => " \x7b\x7d"
  | .container => " \x7b\x7d"
  | .person => ""
  | .component => ""

/-- The declaration of an element around the declarations of what it holds. -/
def declarationItem (named : Named) (children : List Item) : Item :=
  let tags := if named.external then [Item.line Statement.externalTags] else []
  let body := tags ++ children
  if body.isEmpty then .line (declarationLine named ++ emptyBody named.keyword)
  else .block (declarationLine named ++ " \x7b") body

mutual

def treeItem : Tree Named → Item
  | .node named children => declarationItem named (forestItems children)

def forestItems : List (Tree Named) → List Item
  | [] => []
  | tree :: rest => treeItem tree :: forestItems rest

end

def relationshipItem (paths : Naming.PathMap) (relationship : Relationship) : Item :=
  .line (Statement.relationship (paths.resolveEndpoint relationship.source)
    (paths.resolveEndpoint relationship.target) relationship.description relationship.technology)

/-- A text rendered elsewhere, indented anew; an absent one is empty. -/
def reindented (width : Int) (text : Option String) : String :=
  reindent width (text.getD "")

/-- The styles of a workspace: those rendered elsewhere if there are any, else its own. -/
def stylesFragment (w : Workspace) : Except NumeralError String :=
  let width := w.settings.indentWidth
  let own := Style.render width w.elementStyles w.relationshipStyles
  match w.stylesText with
  | some text => if text.isEmpty then own else .ok (reindent width text)
  | none => own

/-- The views of a workspace with its styles and configuration, or the text that stands for them. -/
def viewsFragment (w : Workspace) (paths : Naming.PathMap) : Except SerializeError String :=
  let width := w.settings.indentWidth
  let own : Except SerializeError String := do
    let styles ← (stylesFragment w).mapError .numeral
    let configuration := reindented width w.configurationText
    (View.renderAll width paths w.views styles configuration).mapError .render
  match w.viewsText with
  | some text => if text.isEmpty then own else .ok (reindent width text)
  | none => own

/-- The views at the end of the document, after a blank line. -/
def viewsSection (w : Workspace) (paths : Naming.PathMap) : Except SerializeError (List Item) := do
  let fragment ← viewsFragment w paths
  return if fragment.isEmpty then [] else .blank :: spliced fragment

/-- The block of the model. -/
def modelItem (w : Workspace) (forest : List (Tree Named)) (paths : Naming.PathMap) : Item :=
  .block Statement.modelOpen
    (forestItems forest ++ w.relationships.map (relationshipItem paths))

end Document

namespace Workspace

open Document

/-- The elements of the workspace with their identifiers and paths. -/
def named (w : Workspace) (attachments : Hierarchy.Attachments) : List (Tree Named) :=
  (Outline.nameForest w.settings.identifierScope none {} (Outline.ofWorkspace w attachments)).1

/-- Checks the declarations of children. -/
def attachments (w : Workspace) : Except Hierarchy.HierarchyError Hierarchy.Attachments :=
  Hierarchy.resolveDeclarations w.people w.systems w.containerDeclarations w.componentDeclarations

/-- The document as items. -/
def items (w : Workspace) : Except SerializeError (List Layout.Item) := do
  let attachments ← w.attachments.mapError .hierarchy
  let forest := w.named attachments
  let paths ← (Outline.registerPaths forest).mapError .twicePlaced
  let views ← viewsSection w paths
  return [.block (Layout.Statement.workspaceOpen w.title w.summary)
    (.line Layout.Statement.identifiersDirective :: .blank :: modelItem w forest paths :: views)]

/-- The document as text, without a line end after its last line. -/
def serialize (w : Workspace) : Except SerializeError String :=
  w.items.map (Layout.render w.settings.indentWidth)

end Workspace

end C4Model
