import C4Model.Document.Toml.Section
import C4Model.Document.ValueText
import C4Model.Element.Factory
import C4Model.Text.Surrogate

/-! What can be wrong with a blueprint, the written description of a workspace. A fault is in the shape of
the blueprint; that a field of an element is refused is no fault of the shape, and is told apart. -/

namespace C4Model.Blueprint

/-- The formats in which a blueprint may be written. -/
inductive Format where
  | toml
  | json
  deriving DecidableEq

def Format.label : Format → String
  | .toml => "TOML"
  | .json => "JSON"

/-- A choice that is written as a word. -/
inductive ChoiceField where
  | location
  | codeType
  | viewType
  | interaction

def ChoiceField.label : ChoiceField → String
  | .location => "location"
  | .codeType => "code type"
  | .viewType => "view type"
  | .interaction => "interaction"

inductive Fault where
  | notUtf8
  | malformed (format : Format)
  | notATable
  /-- An item of a list of tables is no table. -/
  | itemNotATable (holder key : String) (index : Nat) (item : Value)
  | duplicateKey (key : String)
  | notAReference (field : String) (found : Value)
  | unknownChoice (field : ChoiceField) (written choices : String)
  | typeMissing (what : String) (name : Value)
  | tagMissing
  | responsibilityNotText
  | notAStyleValue (key : String) (found : Value)

section Messages

variable (surrogates : Surrogates)

def Fault.reason (fault : Fault) : String :=
  let shown := Value.shownBy surrogates.codePoint
  match fault with
  | .notUtf8 => "invalid UTF-8: " ++ malformedText
  | .malformed format => "invalid " ++ format.label ++ ": " ++ malformedText
  | .notATable => "top level must be a table"
  | .itemNotATable holder key index item =>
      holder ++ "." ++ key ++ "[" ++ toString index ++ "] must be a table, got " ++ shown item
  | .duplicateKey key => "duplicate element key " ++ surrogates.quoted key
  | .notAReference field found => field ++ " must be a non-empty string, got " ++ shown found
  | .unknownChoice field written choices =>
      "unknown " ++ field.label ++ " " ++ surrogates.quoted written ++ " (expected one of: " ++ choices
        ++ ")"
  | .typeMissing what name => what ++ " " ++ shown name ++ " needs a type"
  | .tagMissing => "element style needs a tag"
  | .responsibilityNotText => "responsibilities must be a list of strings"
  | .notAStyleValue key found =>
      "style " ++ key ++ " must be a string or an integer, got " ++ shown found

/-- The message for a fault in what comes from `source`. -/
def Fault.message (source : String) (fault : Fault) : String :=
  source ++ ": " ++ fault.reason surrogates

end Messages

/-- The value that the message for a fault shows. -/
def Fault.shown? : Fault → Option Value
  | .itemNotATable _ _ _ item => some item
  | .notAReference _ found => some found
  | .typeMissing _ name => some name
  | .notAStyleValue _ found => some found
  | _ => none

/-- Why a blueprint describes no workspace. -/
inductive LoadError where
  | shape (fault : Fault)
  | field (error : FieldError)
  | clash (clash : Toml.Clash)
  | numeral (error : NumeralError)

/-- The error for a fault. A number that is too large to be shown takes the place of the fault whose message
would show it. -/
def Fault.error (fault : Fault) : LoadError :=
  if fault.shown?.all Value.writable then .shape fault else .numeral .tooLarge

def LoadError.message (surrogates : Surrogates) (source : String) : LoadError → String
  | .shape fault => fault.message surrogates source
  | .field error => error.message
  | .clash found => source ++ ": " ++ found.message
  | .numeral error => error.message

end C4Model.Blueprint
