import C4Model.Document.Toml.Scalar
import C4Model.Document.Toml.Section

/-! Reading documents in TOML, version 1.0. A line holds the header of a section or an entry. An entry is
put into its section when the whole line is read; so of a clash and a malformed line the one that comes
first is told. -/

namespace C4Model.Toml

/-- What follows a comment, or the text itself if it begins with none; a comment holds no control
characters. -/
def skipComment? (cs : List Char) : Option (List Char) :=
  match cs with
  | '#' :: rest =>
      let (comment, after) := rest.span (· != '\n')
      if comment.any isForbidden then none else some after
  | _ => some cs

/-- Skips blanks, line ends and comments, which may stand between the items of an array. The first
argument bounds the steps. -/
def skipFiller? : Nat → List Char → Option (List Char)
  | 0, _ => none
  | bound + 1, cs =>
      match cs.dropWhile fun c => isSpace c || c == '\n' with
      | '#' :: rest => do skipFiller? bound (← skipComment? ('#' :: rest))
      | after => some after

/-- One part of a key. -/
def readKeyPart? (cs : List Char) : Option (String × List Char) :=
  match cs.span isBareKeyChar with
  | ([], _) => readShortString? cs
  | (word, rest) => some (String.ofList word, rest)

/-- A key of parts joined by points, with the blanks after it. The first argument bounds the parts. -/
def readKey? : Nat → List Char → Option (List String × List Char)
  | 0, _ => none
  | bound + 1, cs => do
      let (part, rest) ← readKeyPart? cs
      match skipSpace rest with
      | '.' :: more =>
          let (parts, rest) ← readKey? bound (skipSpace more)
          return (part :: parts, rest)
      | rest => return ([part], rest)

/-- What is read, or that the text is malformed. -/
def orMalformed {α : Type} : Option α → Except ReadFault α
  | some a => .ok a
  | none => .error .malformed

mutual

/-- A value. The first argument bounds the steps. -/
def readValue : Nat → List Char → Except ReadFault (Value × List Char)
  | 0, _ => .error .malformed
  | bound + 1, cs =>
      match cs with
      | '"' :: _ => orMalformed ((readString? cs).map fun (text, rest) => (.string text, rest))
      | '\'' :: _ => orMalformed ((readString? cs).map fun (text, rest) => (.string text, rest))
      | 't' :: 'r' :: 'u' :: 'e' :: rest => .ok (.bool true, rest)
      | 'f' :: 'a' :: 'l' :: 's' :: 'e' :: rest => .ok (.bool false, rest)
      | '[' :: rest => readItems bound [] rest
      | '{' :: rest =>
          match skipSpace rest with
          | '}' :: after => .ok (.table [], after)
          | entries => readInline bound [] entries
      | _ => orMalformed (readQuantity? cs)

/-- The items of an array from where the next one may begin, `done` holding those read, last first. -/
def readItems : Nat → List Value → List Char → Except ReadFault (Value × List Char)
  | 0, _, _ => .error .malformed
  | bound + 1, done, cs => do
      match ← orMalformed (skipFiller? bound cs) with
      | ']' :: after => return (.array done.reverse, after)
      | itemFrom =>
          let (item, rest) ← readValue bound itemFrom
          match ← orMalformed (skipFiller? bound rest) with
          | ',' :: more => readItems bound (item :: done) more
          | ']' :: after => return (.array (item :: done).reverse, after)
          | _ => throw .malformed

/-- The entries of an inline table from the next key, `done` holding those read. -/
def readInline : Nat → Nodes → List Char → Except ReadFault (Value × List Char)
  | 0, _, _ => .error .malformed
  | bound + 1, done, cs => do
      let (key, rest) ← orMalformed (readKey? bound cs)
      let valueFrom ← orMalformed (expect? '=' rest)
      let (value, rest) ← readValue bound (skipSpace valueFrom)
      let entries ← (assign value key done).mapError .clash
      match skipSpace rest with
      | ',' :: more => readInline bound entries (skipSpace more)
      | '}' :: after => return (.table (nodesToTable entries), after)
      | _ => throw .malformed

end

/-- The next line, if nothing but a comment is left on this one. -/
def skipLineEnd? (cs : List Char) : Option (List Char) := do
  match ← skipComment? (skipSpace cs) with
  | [] => some []
  | '\n' :: more => some more
  | _ => none

/-- A header from its path on, which ends in as many brackets as it begins with. -/
def readHeader (draft : Draft) (isArray : Bool) (cs : List Char) :
    Except ReadFault (Draft × List Char) := do
  let (path, rest) ← orMalformed (readKey? (cs.length + 1) (skipSpace cs))
  let draft ← draft.begin path isArray
  let rest ← orMalformed (expect? ']' rest)
  let rest ← if isArray then orMalformed (expect? ']' rest) else pure rest
  return (draft, ← orMalformed (skipLineEnd? rest))

def readEntry (draft : Draft) (cs : List Char) : Except ReadFault (Draft × List Char) := do
  let bound := 2 * cs.length + 2
  let (key, rest) ← orMalformed (readKey? bound cs)
  let valueFrom ← orMalformed (expect? '=' rest)
  let (value, rest) ← readValue bound (skipSpace valueFrom)
  let rest ← orMalformed (skipLineEnd? rest)
  return (← draft.write key value, rest)

/-- One line, which may hold nothing but a comment. -/
def readLine (draft : Draft) (cs : List Char) : Except ReadFault (Draft × List Char) := do
  match skipSpace cs with
  | '[' :: '[' :: rest => readHeader draft true rest
  | '[' :: rest => readHeader draft false rest
  | cs =>
      match skipLineEnd? cs with
      | some rest => return (draft, rest)
      | none => readEntry draft cs

/-- The lines of a text. The first argument bounds them. -/
def readLines : Nat → Draft → List Char → Except ReadFault Draft
  | 0, _, _ => .error .malformed
  | _ + 1, draft, [] => .ok draft
  | bound + 1, draft, cs => do
      let (draft, rest) ← readLine draft cs
      readLines bound draft rest

/-- A carriage return and a line feed after it count as one line end. -/
def normalizeLineEnds : List Char → List Char
  | '\r' :: '\n' :: rest => '\n' :: normalizeLineEnds rest
  | c :: rest => c :: normalizeLineEnds rest
  | [] => []

/-- The table that a whole text describes. -/
def read (text : String) : Except ReadFault Table := do
  let cs := normalizeLineEnds text.toList
  let draft ← readLines (cs.length + 1) {} cs
  draft.finish

end C4Model.Toml
