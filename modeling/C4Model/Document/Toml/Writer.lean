import C4Model.Document.ValueText

/-! Writing tables in TOML. Of a table the plain values come first and then the tables it holds, each
under a header with its whole path. A table that holds nothing but tables has no header of its own. A
blank line stands above every such table but the first, and above the first one if plain values come
before it; in front of an array of tables those count only if they were put into the table earlier than
the array. There is no null in TOML; entries without a value are left out. -/

namespace C4Model.Toml

mutual

/-- The value without its nulls. -/
def withoutNulls : Value → Value
  | .array items => .array (itemsWithoutNulls items)
  | .table entries => .table (entriesWithoutNulls entries)
  | value => value

def itemsWithoutNulls : List Value → List Value
  | [] => []
  | .null :: rest => itemsWithoutNulls rest
  | item :: rest => withoutNulls item :: itemsWithoutNulls rest

def entriesWithoutNulls : List (String × Value) → List (String × Value)
  | [] => []
  | (_, .null) :: rest => entriesWithoutNulls rest
  | (key, value) :: rest => (key, withoutNulls value) :: entriesWithoutNulls rest

end

/-- The character within double quotes. -/
def writtenChar (c : Char) : List Char :=
  match c with
  | '\x08' => ['\\', 'b']
  | '\t' => ['\\', 't']
  | '\n' => ['\\', 'n']
  | '\x0c' => ['\\', 'f']
  | '\r' => ['\\', 'r']
  | '"' => ['\\', '"']
  | '\\' => ['\\', '\\']
  | _ => if c.toNat < 32 ∨ c.toNat = 127 then '\\' :: 'u' :: Text.hexDigits 4 c.toNat else [c]

def writtenString (text : String) : String :=
  String.ofList ('"' :: text.toList.flatMap writtenChar ++ ['"'])

/-- A key as it is, or in quotes if it holds more than letters, digits, hyphens and underscores. -/
def writtenKey (key : String) : String :=
  if !key.isEmpty && key.toList.all fun c => c.isAlphanum || c == '-' || c == '_' then key
  else writtenString key

def isTable : Value → Bool
  | .table _ => true
  | _ => false

def isEmptyTable : Value → Bool
  | .table entries => entries.isEmpty
  | _ => false

/-- Whether the value is written as an array of tables with headers. -/
def isTableArray : Value → Bool
  | .array items => !items.isEmpty && items.all isTable
  | _ => false

/-- Whether the value is written after a key on one line. -/
def isPlain (value : Value) : Bool :=
  !isTable value && !isTableArray value

/-- What stands between the entries of an inline table: a table among the items of an array has blanks
there, one that is the value of a key has none. -/
def itemSeparator : String := ", "

def entrySeparator : String := ","

def braced (separator : String) (entries : List String) : String :=
  "\x7b" ++ String.intercalate separator entries ++ "\x7d"

mutual

/-- A value on one line, after its key. -/
def writtenInline : Value → String
  | .null => ""
  | .bool b => if b then "true" else "false"
  | .int n => toString n
  | .float x => Number.floatText x
  | .string s => writtenString s
  | .date d => d.isoText
  | .time t => t.isoText
  | .dateTime d t offset => dateTimeIsoText d t offset
  | .array items => "[" ++ String.intercalate itemSeparator (writtenItems items) ++ "]"
  | .table entries => braced entrySeparator (writtenEntries entries)

def writtenItems : List Value → List String
  | [] => []
  | item :: rest => writtenItem item :: writtenItems rest

/-- A value among the items of an array. -/
def writtenItem : Value → String
  | .table entries => braced itemSeparator (writtenEntries entries)
  | item => writtenInline item

def writtenEntries : List (String × Value) → List String
  | [] => []
  | entry :: rest => writtenEntry entry :: writtenEntries rest

def writtenEntry : String × Value → String
  | (key, value) => writtenKey key ++ " = " ++ writtenInline value

end

/-- The lines of the plain entries of a table. -/
def plainLines (entries : Table) : List String :=
  (entries.filter fun entry => isPlain entry.2).map writtenEntry

def pathUnder (path : String) (key : String) : String :=
  if path.isEmpty then writtenKey key else path ++ "." ++ writtenKey key

/-- Whether a table is written without a header: it holds tables and nothing else. -/
def isBarePassage (entries : Table) : Bool :=
  !entries.isEmpty && entries.all fun entry => !isPlain entry.2

/-- The line above a table that something precedes. -/
def separator (preceded : Bool) : List String :=
  if preceded then [""] else []

/-- The lines of an entry that is written under headers, with whether it is a table, and whether plain
values were put into the table that holds it earlier than it. -/
structure Part where
  isTable : Bool
  preceded : Bool
  lines : List String

/-- The parts of a table one under the other. -/
def stack (holdsPlain : Bool) : List Part → List String
  | [] => []
  | first :: rest =>
      separator (if first.isTable then holdsPlain else first.preceded) ++ first.lines
        ++ rest.flatMap fun part => "" :: part.lines

/-- A table of an array has its arrays of tables first, then its tables. -/
def arraysFirst (parts : List Part) : List Part :=
  (parts.filter fun part => !part.isTable) ++ parts.filter (·.isTable)

def holdsPlain (entries : Table) : Bool :=
  entries.any fun entry => isPlain entry.2

mutual

/-- What a table holds under headers. The flag tells whether plain values come before. -/
def partsOf (path : String) (preceded : Bool) : List (String × Value) → List Part
  | [] => []
  | entry :: rest =>
      if isPlain entry.2 then partsOf path true rest
      else ⟨isTable entry.2, preceded, linesOfEntry path entry⟩ :: partsOf path preceded rest

def linesOfEntry (path : String) : String × Value → List String
  | (key, value) => linesOfValue (pathUnder path key) value

/-- The lines of a value that is written under headers; of any other value none. -/
def linesOfValue (path : String) : Value → List String
  | .table entries =>
      (if isBarePassage entries then [] else ("[" ++ path ++ "]") :: plainLines entries)
        ++ stack (holdsPlain entries) (partsOf path false entries)
  | .array items => linesOfItems path false items
  | _ => []

/-- The tables of an array, each under a header of its own, and below a blank line unless the one above
is empty. -/
def linesOfItems (path : String) (preceded : Bool) : List Value → List String
  | [] => []
  | item :: rest =>
      separator preceded ++ linesOfItem path item ++ linesOfItems path (!isEmptyTable item) rest

def linesOfItem (path : String) : Value → List String
  | .table entries =>
      (("[[" ++ path ++ "]]") :: plainLines entries)
        ++ stack (holdsPlain entries) (arraysFirst (partsOf path false entries))
  | _ => []

end

/-- The text of a whole document, every line with its end. -/
def write (table : Table) : String :=
  let entries := entriesWithoutNulls table
  let lines := plainLines entries ++ stack (holdsPlain entries) (partsOf "" false entries)
  String.join (lines.map (· ++ "\n"))

end C4Model.Toml
