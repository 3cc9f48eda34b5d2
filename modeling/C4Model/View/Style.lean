import C4Model.Layout.Item
import C4Model.Layout.Statement
import C4Model.Text.Numeral

/-! Styles of elements and relationships. A style holds for whatever carries its tag. Only the attributes
that are set are written, in a fixed order, and elements come before relationships. -/

namespace C4Model

/-- An attribute that is written as a word or as a number. -/
inductive StyleValue where
  | text (text : String)
  | number (number : Int)

/-- The value as it is written, unless it is too large a number. -/
def StyleValue.written : StyleValue → Except NumeralError String
  | .text word => .ok word
  | .number n => writeNumeral n

structure ElementStyle where
  tag : String
  background : Option String := none
  color : Option String := none
  shape : Option String := none
  size : Option StyleValue := none
  stroke : Option String := none
  strokeWidth : Option StyleValue := none

/-- The tag that every relationship carries. -/
def everyRelationshipTag : String := "Relationship"

structure RelationshipStyle where
  tag : String := everyRelationshipTag
  thickness : Option StyleValue := none
  color : Option String := none
  router : Option String := none
  dashed : Option Bool := none

/-- The attributes that have a value. -/
def presentAttributes (attributes : List (String × Option StyleValue)) : List (String × StyleValue) :=
  attributes.filterMap fun (name, value) => value.map (name, ·)

def ElementStyle.values (style : ElementStyle) : List (String × StyleValue) :=
  presentAttributes [
    ("background", style.background.map .text),
    ("color", style.color.map .text),
    ("shape", style.shape.map .text),
    ("size", style.size),
    ("stroke", style.stroke.map .text),
    ("strokeWidth", style.strokeWidth)]

def RelationshipStyle.values (style : RelationshipStyle) : List (String × StyleValue) :=
  presentAttributes [
    ("thickness", style.thickness),
    ("color", style.color.map .text),
    ("router", style.router.map .text),
    ("dashed", style.dashed.map fun dashed => .text (if dashed then "true" else "false"))]

namespace Style

open Layout

/-- The attributes with their values as they are written. -/
def writeAll (values : List (String × StyleValue)) : Except NumeralError (List (String × String)) :=
  values.mapM fun (name, value) => value.written.map (name, ·)

def attributeLines (attributes : List (String × String)) : List Item :=
  attributes.map fun (name, value) => .line (Statement.styleAttribute name value)

def elementItem (style : ElementStyle) : Except NumeralError Item := do
  let attributes ← writeAll style.values
  return .block (Statement.elementStyleOpen style.tag) (attributeLines attributes)

def relationshipItem (style : RelationshipStyle) : Except NumeralError Item := do
  let attributes ← writeAll style.values
  return .block (Statement.relationshipStyleOpen style.tag) (attributeLines attributes)

/-- The block of all styles, or an empty text if there is none. -/
def render (width : Int) (elements : List ElementStyle) (relationships : List RelationshipStyle) :
    Except NumeralError String := do
  if elements.isEmpty && relationships.isEmpty then return ""
  let first ← elements.mapM elementItem
  let second ← relationships.mapM relationshipItem
  return Layout.render width [.block Statement.stylesOpen (first ++ second)]

end Style

end C4Model
