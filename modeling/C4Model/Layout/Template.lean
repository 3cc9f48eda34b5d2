import C4Model.Text.Digits
import C4Model.Text.Quoted

/-! Templates of lines. In a pattern braces surround the name of a field and doubled braces stand for
braces. A pattern is read from left to right as it is filled, so that of a missing field and a fault
of form the one further left is reported. -/

namespace C4Model.Layout

/-- Why a template cannot be filled. -/
inductive TemplateFault where
  | missingField (name : String)
  | noPositionalField (index : Nat)
  | singleOpening
  | singleClosing
  | unclosedField
  | openingInField

def TemplateFault.message : TemplateFault → String
  | .missingField name => "KeyError: " ++ Text.quoted name
  | .noPositionalField index =>
      "IndexError: Replacement index " ++ toString index
        ++ " out of range for positional args tuple"
  | .singleOpening => "ValueError: Single '\x7b' encountered in format string"
  | .singleClosing => "ValueError: Single '\x7d' encountered in format string"
  | .unclosedField => "ValueError: expected '\x7d' before end of string"
  | .openingInField => "ValueError: unexpected '\x7b' in field name"

/-- A piece of a template: text, the place of a field, or the fault at which its pattern ends. -/
inductive Piece where
  | text (text : String)
  | field (name : String)
  | fault (fault : TemplateFault)

abbrev Template := List Piece

namespace Template

/-- The field that a name in braces stands for: a number, or no name at all, stands for a place in an
order, and templates have fields by name only. -/
def pieceOfName (name : List Char) : Piece :=
  match Text.decimalNumber? name with
  | some index => .fault (.noPositionalField index)
  | none => .field (String.ofList name)

/-- Reads a pattern. `name` is the name of the field being read, last character first, or nothing
outside a field. -/
def readFrom : Option (List Char) → List Char → Template
  | some _, [] => [.fault .unclosedField]
  | some name, '}' :: rest => pieceOfName name.reverse :: readFrom none rest
  | some _, '{' :: _ => [.fault .openingInField]
  | some name, c :: rest => readFrom (some (c :: name)) rest
  | none, [] => []
  | none, '{' :: '{' :: rest => .text "\x7b" :: readFrom none rest
  | none, '}' :: '}' :: rest => .text "\x7d" :: readFrom none rest
  | none, ['{'] => [.fault .singleOpening]
  | none, '{' :: rest => readFrom (some []) rest
  | none, '}' :: _ => [.fault .singleClosing]
  | none, c :: rest => .text (String.singleton c) :: readFrom none rest

/-- The template that a pattern describes. -/
def ofPattern (pattern : String) : Template :=
  readFrom none pattern.toList

/-- The pattern that describes a template without faults. -/
def pattern (template : Template) : String :=
  String.join (template.map fun
    | .text text => String.ofList (text.toList.flatMap fun c =>
        if c = '{' ∨ c = '}' then [c, c] else [c])
    | .field name => "\x7b" ++ name ++ "\x7d"
    | .fault _ => "")

/-- Puts the fields into their places. -/
def fill (fields : List (String × String)) : Template → Except TemplateFault String
  | [] => .ok ""
  | .text text :: rest => (fill fields rest).map (text ++ ·)
  | .field name :: rest =>
      match fields.lookup name with
      | some value => (fill fields rest).map (value ++ ·)
      | none => .error (.missingField name)
  | .fault fault :: _ => .error fault

end Template

end C4Model.Layout
