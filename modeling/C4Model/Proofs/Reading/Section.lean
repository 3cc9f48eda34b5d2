import C4Model.Proofs.Layout.Wording
import C4Model.Proofs.Reading.Literals
import C4Model.View.Basic

/-! A block of views, read line by line. Of a line only what follows the spaces before it counts. A header is
told by its first word and the brace at its end, and its block goes on to the next line that is just a
closing brace; what a header or a line inside a block holds is found by the first space or by the last
one. So the texts in entries and values may hold quotes and braces, as long as they keep to their line. -/

namespace C4Model.Reading

open Layout

/-- A line without the spaces before it. -/
def unindented (line : String) : List Char :=
  line.toList.dropWhile (· = ' ')

/-- The lines of a text, each without the spaces before it. -/
def bareLines (text : String) : List (List Char) :=
  (Text.splitOnChar '\n' text).map unindented

/-- The text before the first occurrence of a character, and the text after it. -/
def cutFirst (c : Char) : List Char → Option (List Char × List Char)
  | [] => none
  | d :: rest =>
      if d = c then some ([], rest)
      else (cutFirst c rest).map fun (before, after) => (d :: before, after)

/-- The text before the last occurrence of a character, and the text after it. -/
def cutLast (c : Char) : List Char → Option (List Char × List Char)
  | [] => none
  | d :: rest =>
      match cutLast c rest with
      | some (before, after) => some (d :: before, after)
      | none => if d = c then some ([], rest) else none

/-- The text of a literal that nothing follows. -/
def quoted? : List Char → Option String
  | '"' :: rest =>
      match Literal.scan rest with
      | some (text, []) => some (String.ofList text)
      | _ => none
  | _ => none

/-- A header without the brace at its end. -/
def opened? (line : List Char) : Option (List Char) := do
  let (header, brace) ← cutLast ' ' line
  if brace = ['\x7b'] then some header else none

/-- What the header of a view says. The key stands for the title. -/
structure ViewHead where
  viewType : ViewType
  scope : Option String
  key : String
  deriving DecidableEq

/-- What a line inside a view says. -/
inductive Entry where
  | included (reference : String)
  | excluded (reference : String)
  deriving DecidableEq

def viewType? (keyword : String) : Option ViewType :=
  (Labelled.all (α := ViewType)).find? fun viewType => viewType.keyword = keyword

def viewHead? (line : List Char) : Option ViewHead := do
  let header ← opened? line
  let (keyword, rest) ← cutFirst ' ' header
  let viewType ← viewType? (String.ofList keyword)
  if viewType.takesScope then
    let (scope, key) ← cutLast ' ' rest
    return ⟨viewType, some (String.ofList scope), ← quoted? key⟩
  else return ⟨viewType, none, ← quoted? rest⟩

def entry? (line : List Char) : Option Entry := do
  let (word, reference) ← cutFirst ' ' line
  if word = "include".toList then some (.included (String.ofList reference))
  else if word = "exclude".toList then some (.excluded (String.ofList reference))
  else none

/-- The tag in the header of a style for elements, or for relationships. -/
def styleTag? (kind : String) (line : List Char) : Option String := do
  let header ← opened? line
  let (word, tag) ← cutFirst ' ' header
  if word = kind.toList then quoted? tag else none

def attribute? (line : List Char) : Option (String × String) :=
  (cutFirst ' ' line).map fun (name, value) => (String.ofList name, String.ofList value)

/-- A header and the lines under it, as they are read. -/
structure Block (α β : Type) where
  head : α
  body : List β
  deriving DecidableEq

section Blocks

variable {α β : Type} (head? : List Char → Option α) (item? : List Char → Option β)

mutual

/-- The blocks in a row, up to the first line that is no header, and the lines from there on. -/
def blocks : List (List Char) → Option (List (Block α β) × List (List Char))
  | [] => some ([], [])
  | line :: rest =>
      match head? line with
      | none => some ([], line :: rest)
      | some head => (insideBlock rest).map fun (body, others, after) => (⟨head, body⟩ :: others, after)

/-- The same from inside a block, with the lines that remain of it. -/
def insideBlock : List (List Char) → Option (List β × List (Block α β) × List (List Char))
  | [] => none
  | line :: rest =>
      if line = blockClose.toList then (blocks rest).map fun (others, after) => ([], others, after)
      else do
        let item ← item? line
        let (body, others, after) ← insideBlock rest
        return (item :: body, others, after)

end

end Blocks

/-- What a block of views holds. Finished texts at its end are kept line by line. -/
structure Section where
  views : List (Block ViewHead Entry) := []
  elementStyles : List (Block String (String × String)) := []
  relationshipStyles : List (Block String (String × String)) := []
  configuration : List String := []
  deriving DecidableEq

/-- The lines after the blank one that keeps them apart from what is before them. -/
def separated (before : Bool) (lines : List (List Char)) : Option (List (List Char)) :=
  match before, lines with
  | true, [] :: rest => some rest
  | true, _ :: _ => none
  | _, lines => some lines

/-- The styles in their block, those of elements before those of relationships, and the lines after it. -/
def stylesBody (lines : List (List Char)) :
    Option (List (Block String (String × String)) × List (Block String (String × String)) ×
      List (List Char)) := do
  let (elements, after) ← blocks (styleTag? "element") attribute? lines
  let (relationships, after) ← blocks (styleTag? "relationship") attribute? after
  if after.head? = some blockClose.toList then return (elements, relationships, after.tail) else none

/-- What stands in a block of views: first the views, then a block of styles, then other lines. -/
def sectionBody (lines : List (List Char)) : Option Section := do
  let (views, after) ← blocks viewHead? entry? lines
  let after ← separated (!views.isEmpty) after
  if after.head? = some Statement.stylesOpen.toList then
    let (elements, relationships, after) ← stylesBody after.tail
    let after ← separated true after
    return ⟨views, elements, relationships, after.map String.ofList⟩
  else return ⟨views, [], [], after.map String.ofList⟩

/-- The text of a block of views, read back. An empty text holds nothing. -/
def readSection? (text : String) : Option Section :=
  if text.isEmpty then some {}
  else
    let lines := bareLines text
    if lines.head? = some Statement.viewsOpen.toList ∧ lines.getLast? = some blockClose.toList then
      sectionBody lines.tail.dropLast
    else none

theorem cutFirst_append {c : Char} {before : List Char} (h : c ∉ before) (after : List Char) :
    cutFirst c (before ++ c :: after) = some (before, after) := by
  induction before with
  | nil => rw [List.nil_append, cutFirst, if_pos rfl]
  | cons d before ih =>
      rw [List.mem_cons, not_or] at h
      rw [List.cons_append, cutFirst, if_neg (Ne.symm h.1), ih h.2, Option.map_some]

theorem cutLast_of_not_mem {c : Char} {cs : List Char} (h : c ∉ cs) : cutLast c cs = none := by
  induction cs with
  | nil => rfl
  | cons d cs ih =>
      rw [List.mem_cons, not_or] at h
      simp only [cutLast, ih h.2, if_neg (Ne.symm h.1)]

theorem cutLast_append {c : Char} {after : List Char} (h : c ∉ after) (before : List Char) :
    cutLast c (before ++ c :: after) = some (before, after) := by
  induction before with
  | nil => simp only [List.nil_append, cutLast, cutLast_of_not_mem h, if_true]
  | cons d before ih => simp only [List.cons_append, cutLast, ih]

theorem quoted?_quote (text : String) : quoted? (Statement.quote text).toList = some text := by
  simp only [Statement.toList_quote, quoted?, Literal.scan_escapeChars, String.ofList_toList]

theorem opened?_append (header : List Char) : opened? (header ++ " \x7b".toList) = some header := by
  have hcut : cutLast ' ' (header ++ " \x7b".toList) = some (header, ['\x7b']) :=
    cutLast_append (by decide) header
  rw [opened?, hcut]
  rfl

theorem space_not_mem_quote {text : String} (h : ' ' ∉ text.toList) :
    ' ' ∉ (Statement.quote text).toList := by
  rw [Statement.toList_quote, List.mem_cons, List.mem_append, List.mem_singleton,
    mem_escapeChars_iff (by decide)]
  simpa using h

/-- The header of a view as it is written. -/
def ViewHead.line (head : ViewHead) : List Char :=
  phrase head.viewType.keyword (head.scope.toList.map .bare ++ [.literal head.key]) ++ " \x7b".toList

def Entry.line : Entry → List Char
  | .included reference => phrase "include" [.bare reference]
  | .excluded reference => phrase "exclude" [.bare reference]

def styleTagLine (kind tag : String) : List Char :=
  phrase kind [.literal tag] ++ " \x7b".toList

def attributeLine (entry : String × String) : List Char :=
  phrase entry.1 [.bare entry.2]

theorem phrase_single (word : String) (part : Part) :
    phrase word [part] = word.toList ++ ' ' :: part.chars := by
  simp [phrase]

theorem viewType?_keyword (viewType : ViewType) : viewType? viewType.keyword = some viewType := by
  cases viewType <;> decide

theorem space_not_mem_keyword (viewType : ViewType) : ' ' ∉ viewType.keyword.toList := by
  cases viewType <;> decide

/-- The header of a view is read back if it names an element exactly where its type asks for one, and its
key has no spaces. -/
theorem viewHead?_line {head : ViewHead} (hscope : head.scope.isSome = head.viewType.takesScope)
    (hkey : ' ' ∉ head.key.toList) : viewHead? head.line = some head := by
  obtain ⟨viewType, scope, key⟩ := head
  have hquote := space_not_mem_quote hkey
  cases scope with
  | none =>
      have hline : phrase viewType.keyword [.literal key] =
          viewType.keyword.toList ++ ' ' :: (Statement.quote key).toList := phrase_single _ _
      have htakes : viewType.takesScope = false := hscope.symm
      rw [viewHead?, ViewHead.line, opened?_append]
      simp [hline, cutFirst_append (space_not_mem_keyword _), viewType?_keyword, htakes, quoted?_quote]
  | some scope =>
      have hline : phrase viewType.keyword [.bare scope, .literal key] =
          viewType.keyword.toList ++ ' ' :: (scope.toList ++ ' ' :: (Statement.quote key).toList) := by
        simp [phrase, Part.chars]
      have htakes : viewType.takesScope = true := hscope.symm
      rw [viewHead?, ViewHead.line, opened?_append]
      simp [hline, cutFirst_append (space_not_mem_keyword _), viewType?_keyword, htakes,
        cutLast_append hquote, quoted?_quote]

theorem entry?_line (entry : Entry) : entry? entry.line = some entry := by
  have hinclude : ' ' ∉ "include".toList := by decide
  have hexclude : ' ' ∉ "exclude".toList := by decide
  cases entry with
  | included reference =>
      rw [Entry.line, phrase_single, entry?, cutFirst_append hinclude]
      exact congrArg (fun text => some (Entry.included text)) String.ofList_toList
  | excluded reference =>
      rw [Entry.line, phrase_single, entry?, cutFirst_append hexclude]
      exact congrArg (fun text => some (Entry.excluded text)) String.ofList_toList

theorem styleTag?_line {kind : String} (hkind : ' ' ∉ kind.toList) (tag : String) :
    styleTag? kind (styleTagLine kind tag) = some tag := by
  rw [styleTagLine, styleTag?, opened?_append, phrase_single]
  simp [cutFirst_append hkind, Part.chars, quoted?_quote]

theorem styleTag?_line_other {kind other : String} (hspace : ' ' ∉ other.toList) (hne : other ≠ kind)
    (tag : String) : styleTag? kind (styleTagLine other tag) = none := by
  have hchars : other.toList ≠ kind.toList := fun h => hne (String.toList_inj.mp h)
  rw [styleTagLine, styleTag?, opened?_append, phrase_single]
  simp [cutFirst_append hspace, hchars]

theorem attribute?_line {entry : String × String} (hname : ' ' ∉ entry.1.toList) :
    attribute? (attributeLine entry) = some entry := by
  rw [attributeLine, attribute?, phrase_single, cutFirst_append hname]
  simp [Part.chars]

/-- No line with a word and something after it is one that ends a block. -/
theorem phrase_ne_blockClose (word : String) (part : Part) : phrase word [part] ≠ blockClose.toList := by
  intro h
  have hspace : ' ' ∈ blockClose.toList := by
    rw [← h, phrase_single]
    exact List.mem_append_right _ List.mem_cons_self
  exact absurd hspace (by decide)

section Blocks

variable {α β : Type} {head? : List Char → Option α} {item? : List Char → Option β}
  {headLine : α → List Char} {itemLine : β → List Char}

/-- The lines of a block. -/
def Block.lines (headLine : α → List Char) (itemLine : β → List Char) (block : Block α β) :
    List (List Char) :=
  headLine block.head :: (block.body.map itemLine ++ [blockClose.toList])

/-- What is read from the lines of a block is the block. -/
structure Block.Legible (head? : List Char → Option α) (item? : List Char → Option β)
    (headLine : α → List Char) (itemLine : β → List Char) (block : Block α β) : Prop where
  head : head? (headLine block.head) = some block.head
  body : ∀ item ∈ block.body, item? (itemLine item) = some item
  inside : ∀ item ∈ block.body, itemLine item ≠ blockClose.toList

/-- No block begins here. -/
def Unopened (head? : List Char → Option α) (lines : List (List Char)) : Prop :=
  ∀ line ∈ lines.head?, head? line = none

theorem blocks_unopened {lines : List (List Char)} (h : Unopened head? lines) :
    blocks head? item? lines = some ([], lines) := by
  cases lines with
  | nil => rfl
  | cons line rest => rw [blocks, h line rfl]

theorem insideBlock_append {body : List β} (hbody : ∀ item ∈ body, item? (itemLine item) = some item)
    (hinside : ∀ item ∈ body, itemLine item ≠ blockClose.toList) (rest : List (List Char)) :
    insideBlock head? item? (body.map itemLine ++ blockClose.toList :: rest) =
      (blocks head? item? rest).map fun (others, after) => (body, others, after) := by
  induction body with
  | nil => rw [List.map_nil, List.nil_append, insideBlock, if_pos rfl]
  | cons item body ih =>
      obtain ⟨hitem, hbody⟩ := List.forall_mem_cons.mp hbody
      obtain ⟨hline, hinside⟩ := List.forall_mem_cons.mp hinside
      rw [List.map_cons, List.cons_append, insideBlock, if_neg hline, hitem, ih hbody hinside]
      cases blocks head? item? rest <;> rfl

/-- Blocks in a row are read back, whatever other line comes after them. -/
theorem blocks_flatMap_lines {list : List (Block α β)}
    (h : ∀ block ∈ list, block.Legible head? item? headLine itemLine) {rest : List (List Char)}
    (hrest : Unopened head? rest) :
    blocks head? item? (list.flatMap (Block.lines headLine itemLine) ++ rest) = some (list, rest) := by
  induction list with
  | nil => exact blocks_unopened hrest
  | cons block list ih =>
      obtain ⟨hblock, hlist⟩ := List.forall_mem_cons.mp h
      have hlines : (block :: list).flatMap (Block.lines headLine itemLine) ++ rest =
          headLine block.head :: (block.body.map itemLine ++
            blockClose.toList :: (list.flatMap (Block.lines headLine itemLine) ++ rest)) := by
        simp [Block.lines]
      rw [hlines, blocks, hblock.head]
      simp only [insideBlock_append hblock.body hblock.inside, ih hlist, Option.map_some]

end Blocks

end C4Model.Reading
