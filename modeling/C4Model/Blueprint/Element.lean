import C4Model.Blueprint.Reader

/-! Reading elements from their tables. An element is read after all that it holds. -/

namespace C4Model.Blueprint

def readCodeElement (table : Table) : Reading CodeElement := do
  match ← readText? table "type" with
  | none => refuse (.typeMissing "code element" (valueAt table "name"))
  | some written =>
      let name ← readText table "name"
      let description ← readText table "description"
      let codeType ← choose .codeType written
      let language ← readText? table "language"
      let filePath ← readText? table "file_path"
      let location ← locationOf table
      makeKnown table .code
        (CodeElement.make { name, description, codeType, language, filePath, location })

/-- The responsibilities of a component, which must all be texts. -/
def responsibilitiesOf (table : Table) : Reading (List String) :=
  (table.items "responsibilities").mapM fun
    | .string text => pure text
    | _ => refuse .responsibilityNotText

def readComponent (table : Table) : Reading Component := do
  let responsibilities ← responsibilitiesOf table
  let codeElements ← readEach table "code" "component" readCodeElement
  let name ← readText table "name"
  let description ← readText table "description"
  let technology ← readText? table "technology"
  let location ← locationOf table
  makeKnown table .component
    (Component.make { name, description, technology, responsibilities, location, codeElements })

/-- The category of a container by what is written, and a label for what is in no category. -/
def containerTypeOf : Option String → ContainerType × Option String
  | none => (.other, none)
  | some written =>
      match Labelled.ofText? written with
      | some category => (category, none)
      | none => (.other, some written)

def readContainer (table : Table) : Reading Container := do
  let (containerType, typeLabel) := containerTypeOf (← readText? table "type")
  let components ← readEach table "components" "container" readComponent
  let name ← readText table "name"
  let description ← readText table "description"
  let technology ← readText? table "technology"
  let location ← locationOf table
  makeKnown table .container
    (Container.make { name, description, containerType, typeLabel, technology, location, components })

def readSoftwareSystem (table : Table) : Reading SoftwareSystem := do
  let containers ← readEach table "containers" "system" readContainer
  let name ← readText table "name"
  let description ← readText table "description"
  let location ← locationOf table
  makeKnown table .softwareSystem (SoftwareSystem.make { name, description, location, containers })

def readPerson (table : Table) : Reading Person := do
  let name ← readText table "name"
  let description ← readText table "description"
  let location ← locationOf table
  let technology ← readText? table "technology"
  makeKnown table .person (Person.make { name, description, location, technology })

end C4Model.Blueprint
