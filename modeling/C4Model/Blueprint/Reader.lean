import C4Model.Blueprint.Fault
import C4Model.Document.Json
import C4Model.Document.Lookup
import C4Model.Document.Toml.Reader
import C4Model.Element.Relationship

/-! The parts that all readers of a blueprint share. Elements are made in the order in which they are
written, what an element holds before the element itself. An element that has a key can be referred
to by it from then on. -/

namespace C4Model.Blueprint

/-- The table that a text holds. -/
def readTable (surrogates : Surrogates) (format : Format) (text : String) : Except LoadError Table :=
  match format with
  | .toml =>
      (Toml.read text).mapError fun
        | .malformed => .shape (.malformed .toml)
        | .clash clash => .clash clash
  | .json =>
      match Json.read surrogates text with
      | .ok (.table entries) => .ok entries
      | .ok _ => .error (.shape .notATable)
      | .error .malformed => .error (.shape (.malformed .json))
      | .error (.numeral error) => .error (.numeral error)

/-- The elements made so far, as far as they have keys. -/
structure Catalogue where
  allocator : Allocator := {}
  keyed : List (String × Element) := []

abbrev Reading := StateT Catalogue (Except LoadError)

def refuse {α : Type} (fault : Fault) : Reading α :=
  throw fault.error

/-- The tables among the items of a list, `index` being the place of the first, if all are tables. -/
def tablesFrom (holder key : String) (index : Nat) : List Value → Except Fault (List Table)
  | [] => .ok []
  | .table entries :: rest => do
      let others ← tablesFrom holder key (index + 1) rest
      return entries :: others
  | item :: _ => .error (.itemNotATable holder key index item)

/-- The tables listed under a key. -/
def tables (table : Table) (key holder : String) : Reading (List Table) :=
  liftM ((tablesFrom holder key 0 (table.items key)).mapError Fault.error)

/-- What is read from each of the tables listed under a key. -/
def readEach {α : Type} (table : Table) (key holder : String) (read : Table → Reading α) :
    Reading (List α) := do
  (← tables table key holder).mapM read

/-- The text under a key, if there is one. -/
def readText? (table : Table) (key : String) : Reading (Option String) :=
  liftM ((table.text? key).mapError LoadError.numeral)

/-- The text under a key; an empty one if there is none. -/
def readText (table : Table) (key : String) : Reading String :=
  (·.getD "") <$> readText? table key

/-- The member that a written word chooses. -/
def choose {α : Type} [Labelled α] (field : ChoiceField) (written : String) : Reading α :=
  match Labelled.ofText? written with
  | some member => pure member
  | none => refuse (.unknownChoice field written (Labelled.choices α))

/-- The member that the word under a key chooses; if there is none, the given one. -/
def chooseAt {α : Type} [Labelled α] (table : Table) (key : String) (field : ChoiceField) (absent : α) :
    Reading α := do
  match ← readText? table key with
  | none => return absent
  | some written => choose field written

def locationOf (table : Table) : Reading Location :=
  chooseAt table "location" .location .internal

/-- The element that a written reference stands for if it is a key, else the reference as it is. -/
def Catalogue.resolve (catalogue : Catalogue) (written : String) : Reference :=
  match catalogue.keyed.lookup written with
  | some element => .element element
  | none => .raw written

/-- The reference that a value writes. -/
def reference (field : String) (written : Value) : Reading Reference := do
  match written with
  | .string text =>
      if Text.isBlankText text then refuse (.notAReference field written)
      else return (← get).resolve text
  | _ => refuse (.notAReference field written)

/-- The value under a key, null standing for none. -/
def valueAt (table : Table) (key : String) : Value :=
  (table.get? key).getD .null

/-- Makes an element with the next identity. -/
def make {α : Type} (build : Allocator → Except FieldError (α × Allocator)) : Reading α := do
  let catalogue ← get
  let (element, allocator) ← liftM ((build catalogue.allocator).mapError LoadError.field)
  set { catalogue with allocator }
  return element

/-- Keeps an element under the key that its table gives it. -/
def remember (table : Table) (element : Element) : Reading Unit := do
  match ← readText? table "key" with
  | none => pure ()
  | some key =>
      let catalogue ← get
      match catalogue.keyed.lookup key with
      | some _ => refuse (.duplicateKey key)
      | none => set { catalogue with keyed := catalogue.keyed ++ [(key, element)] }

/-- Makes the element of a table, and keeps it under its key. -/
def makeKnown {α : Type} (table : Table) (element : α → Element)
    (build : Allocator → Except FieldError (α × Allocator)) : Reading α := do
  let value ← make build
  remember table (element value)
  return value

end C4Model.Blueprint
