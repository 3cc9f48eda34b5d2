import C4Model.Text.Literal
import C4Model.Text.Alphanumeric
import C4Model.Text.Blank
import C4Model.Text.Lines
import C4Model.Text.LowerCase

/-! Identifiers of the output and how they come from names. An identifier begins with an ASCII letter or
an underscore and goes on with letters, digits and underscores. The one of an element is made of the
initials of its name; a reference joins identifiers by points. -/

namespace C4Model.Naming

/-- The character in an identifier: letters, digits and the underscore stay, all else becomes an
underscore. -/
def identifierChar (c : Char) : Char :=
  if Text.isAlphanumeric c || c = '_' then c else '_'

/-- Whether an identifier may begin with the character. -/
def isIdentifierStart (c : Char) : Bool :=
  c.isAlpha || c = '_'

/-- The identifier of an empty text. -/
def placeholder : String := "element"

/-- The identifier that a text is turned into. -/
def identifierChars (text : List Char) : List Char :=
  match text.map identifierChar with
  | [] => placeholder.toList
  | c :: rest => if isIdentifierStart c then c :: rest else '_' :: c :: rest

def identifier (text : String) : String :=
  String.ofList (identifierChars text.toList)

/-- What joins the identifiers of a path. -/
def pathSeparator : String := "."

def joinPath (segments : List String) : String :=
  String.intercalate pathSeparator segments

/-- A written reference: blanks around it are dropped and every piece between points becomes an
identifier. -/
def reference (text : String) : String :=
  joinPath ((Text.splitOnChar '.' (Text.strip text)).map identifier)

/-- A view's title as its key: spaces become underscores. -/
def viewKey (title : String) : String :=
  Literal.escape (String.ofList (title.toList.map fun c => if c = ' ' then '_' else c))

/-- The first characters of the words of a name, in lower case. -/
def initials (name : String) : String :=
  Text.lower (String.ofList (Text.wordInitials true name.toList))

/-- The identifier that an element asks for. -/
def baseIdentifier (name : String) : String :=
  identifier (initials name)

end C4Model.Naming
