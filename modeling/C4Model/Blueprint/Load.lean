import C4Model.Blueprint.Element
import C4Model.Workspace.Basic

/-! The workspace that a blueprint describes. Elements come first, so that relationships and views can
refer to any of them; a declared child can refer only to a parent that is written before it. -/

namespace C4Model.Blueprint

open Hierarchy

/-- A child with the reference to the parent that its table names. -/
def readDeclaration {α : Type} (field : String) (read : Table → Reading α) (table : Table) :
    Reading (Declaration α) := do
  let parent ← reference field (valueAt table "parent")
  let child ← read table
  return ⟨child, parent⟩

def interactionOf (table : Table) : Reading InteractionStyle :=
  chooseAt table "interaction" .interaction .synchronous

def readRelationship (table : Table) : Reading Relationship := do
  let interaction ← interactionOf table
  let source ← reference "relationship source" (valueAt table "source")
  let target ← reference "relationship target" (valueAt table "target")
  let description ← readText table "description"
  let technology ← readText? table "technology"
  liftM ((Relationship.make source target description technology interaction).mapError LoadError.field)

/-- The element that a view is about, if its table names one. -/
def scopeOf (table : Table) : Reading (Option Reference) :=
  match valueAt table "element" with
  | .null => pure none
  | written => some <$> reference "view element" written

def readView (table : Table) : Reading View := do
  match ← readText? table "type" with
  | none => refuse (.typeMissing "view" (valueAt table "title"))
  | some written =>
      let viewType ← choose .viewType written
      let element ← scopeOf table
      let title ← readText table "title"
      let included ← (table.items "include").mapM (reference "view include")
      let excluded ← (table.items "exclude").mapM (reference "view exclude")
      return {
        viewType
        title := if title.isEmpty then viewType.keyword else title
        element
        included
        excluded }

def styleValueAt (table : Table) (key : String) : Reading (Option StyleValue) :=
  match valueAt table key with
  | .null => pure none
  | .string text => pure (some (.text text))
  | .int n => pure (some (.number n))
  | found => refuse (.notAStyleValue key found)

def readElementStyle (table : Table) : Reading ElementStyle := do
  let tag ← readText table "tag"
  if tag.isEmpty then refuse .tagMissing
  else
    let background ← readText? table "background"
    let color ← readText? table "color"
    let shape ← readText? table "shape"
    let size ← styleValueAt table "size"
    let stroke ← readText? table "stroke"
    let strokeWidth ← styleValueAt table "stroke_width"
    return { tag, background, color, shape, size, stroke, strokeWidth }

/-- A style that names no tag is for all relationships. -/
def readRelationshipStyle (table : Table) : Reading RelationshipStyle := do
  let tag ← readText table "tag"
  let thickness ← styleValueAt table "thickness"
  let color ← readText? table "color"
  let router ← readText? table "router"
  return {
    tag := if tag.isEmpty then everyRelationshipTag else tag
    thickness
    color
    router
    dashed := table.bool? "dashed" }

def readWorkspace (settings : Settings) (table : Table) : Reading Workspace := do
  let header := table.subtable "workspace"
  let name ← readText? header "name"
  let description ← readText? header "description"
  let people ← readEach table "people" "document" readPerson
  let systems ← readEach table "systems" "document" readSoftwareSystem
  let containerDeclarations ←
    readEach table "containers" "document" (readDeclaration "container parent" readContainer)
  let componentDeclarations ←
    readEach table "components" "document" (readDeclaration "component parent" readComponent)
  let relationships ← readEach table "relationships" "document" readRelationship
  let views ← readEach table "views" "document" readView
  let styles := table.subtable "styles"
  let elementStyles ← readEach styles "elements" "styles" readElementStyle
  let relationshipStyles ← readEach styles "relationships" "styles" readRelationshipStyle
  return {
    settings
    name
    description
    people
    systems
    containerDeclarations
    componentDeclarations
    relationships
    views
    elementStyles
    relationshipStyles }

/-- The workspace that the table of a blueprint describes. -/
def load (settings : Settings) (table : Table) : Except LoadError Workspace :=
  ((readWorkspace settings table).run {}).map Prod.fst

/-- The workspace that the text of a blueprint describes. -/
def loadText (surrogates : Surrogates) (settings : Settings) (format : Format) (text : String) :
    Except LoadError Workspace := do
  let table ← readTable surrogates format text
  load settings table

end C4Model.Blueprint
