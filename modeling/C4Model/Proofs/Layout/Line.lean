import C4Model.Layout.Statement
import Mathlib.Logic.Basic

/-! The lines of a document and the templates behind them. Every template finds all its fields, whatever
texts stand in them, and the filled template is the line that is written. -/

namespace C4Model.Layout

/-- A line with a template, and the texts that go into it. -/
inductive Line where
  | workspaceOpen (name description : String)
  | element (identifier keyword name description : String) (technology : Option String)
  | externalTags
  | relationship (source target description : String) (technology : Option String)
  | viewOpen (viewType : String) (scope : Option String) (key : String)
  | viewInclude (reference : String)
  | viewExclude (reference : String)
  | elementStyleOpen (tag : String)
  | relationshipStyleOpen (tag : String)
  | styleAttribute (name value : String)

namespace Line

/-- An absent technology and an empty one give the same line. -/
def present (technology : Option String) : Option String :=
  technology.filter fun text => !text.isEmpty

/-- The template of a line. One with a technology has a place more than one without. -/
def template : Line → Template
  | .workspaceOpen _ _ => Template.workspaceOpen
  | .element _ _ _ _ technology =>
      if (present technology).isSome then Template.elementWithTechnology else Template.element
  | .externalTags => Template.tags
  | .relationship _ _ _ technology =>
      if (present technology).isSome then Template.relationshipWithTechnology
      else Template.relationship
  | .viewOpen _ scope _ =>
      if scope.isSome then Template.viewOpen else Template.viewOpenWithoutIdentifier
  | .viewInclude _ => Template.viewInclude
  | .viewExclude _ => Template.viewExclude
  | .elementStyleOpen _ => Template.elementStyleOpen
  | .relationshipStyleOpen _ => Template.relationshipStyleOpen
  | .styleAttribute _ _ => Template.styleAttribute

def technologyField (technology : Option String) : List (String × String) :=
  (present technology).toList.map fun text => ("technology", Literal.escape text)

/-- What is put into the places of the template. -/
def fields : Line → List (String × String)
  | .workspaceOpen name description =>
      [("name", Literal.escape name), ("description", Literal.escape description)]
  | .element identifier keyword name description technology =>
      [("identifier", identifier), ("keyword", keyword), ("name", Literal.escape name),
        ("description", Literal.escape description)] ++ technologyField technology
  | .externalTags => [("tags", Statement.externalTag)]
  | .relationship source target description technology =>
      [("source", source), ("target", target), ("description", Literal.escape description)]
        ++ technologyField technology
  | .viewOpen viewType scope key =>
      [("view_type", viewType), ("title", key)] ++ scope.toList.map fun path => ("identifier", path)
  | .viewInclude reference => [("reference", reference)]
  | .viewExclude reference => [("reference", reference)]
  | .elementStyleOpen tag => [("tag", Literal.escape tag)]
  | .relationshipStyleOpen tag => [("tag", Literal.escape tag)]
  | .styleAttribute name value => [("attribute", name), ("value", value)]

/-- The line as it is written. -/
def text : Line → String
  | .workspaceOpen name description => Statement.workspaceOpen name description
  | .element identifier keyword name description technology =>
      Statement.element identifier keyword name description technology
  | .externalTags => Statement.externalTags
  | .relationship source target description technology =>
      Statement.relationship source target description technology
  | .viewOpen viewType scope key => Statement.viewOpen viewType scope key
  | .viewInclude reference => Statement.viewInclude reference
  | .viewExclude reference => Statement.viewExclude reference
  | .elementStyleOpen tag => Statement.elementStyleOpen tag
  | .relationshipStyleOpen tag => Statement.relationshipStyleOpen tag
  | .styleAttribute name value => Statement.styleAttribute name value

theorem optional_eq (technology : Option String) :
    Statement.optional technology =
      ((present technology).map fun text => " " ++ Statement.quote text).getD "" := by
  cases technology with
  | none => rfl
  | some text =>
      by_cases hempty : text.isEmpty = true
      · simp [Statement.optional, present, Option.filter_some, hempty]
      · simp [Statement.optional, present, Option.filter_some, hempty]

/-- No line fails to render, whatever its texts are. -/
theorem fill_template (line : Line) : line.template.fill line.fields = .ok line.text := by
  cases line with
  | workspaceOpen name description =>
      simp [template, fields, text, Template.workspaceOpen, Template.fill, List.lookup_cons,
        Except.map, Statement.workspaceOpen, Statement.quote, ← String.toList_inj]
  | element identifier keyword name description technology =>
      rw [template, fields, text, Statement.element, optional_eq, technologyField]
      cases present technology <;>
        simp [Template.element, Template.elementWithTechnology, Template.fill, List.lookup_cons,
          Except.map, Statement.quote, ← String.toList_inj]
  | externalTags =>
      have hescape : Literal.escape Statement.externalTag = Statement.externalTag := by decide
      simp [template, fields, text, Template.tags, Template.fill, Except.map,
        Statement.externalTags, Statement.quote, hescape, ← String.toList_inj]
  | relationship source target description technology =>
      rw [template, fields, text, Statement.relationship, optional_eq, technologyField]
      cases present technology <;>
        simp [Template.relationship, Template.relationshipWithTechnology, Template.fill,
          List.lookup_cons, Except.map, Statement.quote, ← String.toList_inj]
  | viewOpen viewType scope key =>
      rw [template, fields, text, Statement.viewOpen]
      cases scope <;>
        simp [Template.viewOpen, Template.viewOpenWithoutIdentifier, Template.fill,
          List.lookup_cons, Except.map, ← String.toList_inj]
  | viewInclude reference =>
      simp [template, fields, text, Template.viewInclude, Template.fill, Except.map,
        Statement.viewInclude]
  | viewExclude reference =>
      simp [template, fields, text, Template.viewExclude, Template.fill, Except.map,
        Statement.viewExclude]
  | elementStyleOpen tag =>
      simp [template, fields, text, Template.elementStyleOpen, Template.fill, Except.map,
        Statement.elementStyleOpen, Statement.quote, ← String.toList_inj]
  | relationshipStyleOpen tag =>
      simp [template, fields, text, Template.relationshipStyleOpen, Template.fill, Except.map,
        Statement.relationshipStyleOpen, Statement.quote, ← String.toList_inj]
  | styleAttribute name value =>
      simp [template, fields, text, Template.styleAttribute, Template.fill, List.lookup_cons,
        Except.map, Statement.styleAttribute]

end Line

end C4Model.Layout
