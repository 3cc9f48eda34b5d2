import C4Model.Proofs.Layout.Line
import C4Model.Proofs.Naming.Identifier
import C4Model.Proofs.Reading.Token
import C4Model.Proofs.Text.Blank

/-! What the lines of a document are made of: a word, and after it words and literals with a space before
each. A line that opens a block ends in a brace, and one for an empty block in two. What a line may do to
whoever reads it is then said once for words, once for literals and once for what stands as it is. -/

namespace C4Model.Layout

open Naming (IsIdentifierChar)
open Text (BeginsInked EndsInked isBlank)

/-- A part of a line after its first word: a text that stands as it is, or one in a literal. -/
inductive Part where
  | bare (text : String)
  | literal (text : String)

def Part.chars : Part → List Char
  | .bare text => text.toList
  | .literal text => (Statement.quote text).toList

/-- A word, and then parts with a space before each. -/
def phrase (word : String) (rest : List Part) : List Char :=
  word.toList ++ rest.flatMap fun part => ' ' :: part.chars

/-- Technologies are written last, and only if there is something to write. -/
def technologyParts (technology : Option String) : List Part :=
  (Line.present technology).toList.map .literal

/-- The title of a view as it is read back from its key. -/
def underscored (title : String) : String :=
  String.ofList (title.toList.map fun c => if c = ' ' then '_' else c)

namespace Statement

theorem toList_quote (text : String) :
    (quote text).toList = '"' :: (Literal.escapeChars text.toList ++ ['"']) := by
  simp [quote]

theorem toList_workspaceOpen (name description : String) :
    (workspaceOpen name description).toList =
      phrase "workspace" [.literal name, .literal description] ++ " \x7b".toList := by
  simp [workspaceOpen, phrase, Part.chars]

theorem toList_element (identifier keyword name description : String) (technology : Option String) :
    (element identifier keyword name description technology).toList =
      phrase identifier ([.bare "=", .bare keyword, .literal name, .literal description] ++
        technologyParts technology) := by
  rw [element, Line.optional_eq, technologyParts]
  cases Line.present technology <;> simp [phrase, Part.chars]

theorem toList_externalTags : externalTags.toList = phrase "tags" [.literal externalTag] := by
  simp [externalTags, phrase, Part.chars]

theorem toList_relationship (source target description : String) (technology : Option String) :
    (relationship source target description technology).toList =
      phrase source ([.bare "->", .bare target, .literal description] ++
        technologyParts technology) := by
  rw [relationship, Line.optional_eq, technologyParts]
  cases Line.present technology <;> simp [phrase, Part.chars]

theorem toList_viewOpen (viewType : String) (scope : Option String) (title : String) :
    (viewOpen viewType scope (Naming.viewKey title)).toList =
      phrase viewType (scope.toList.map .bare ++ [.literal (underscored title)]) ++
        " \x7b".toList := by
  have hkey : Naming.viewKey title = Literal.escape (underscored title) := rfl
  cases scope <;> simp [viewOpen, hkey, phrase, Part.chars, quote]

theorem toList_viewInclude (reference : String) :
    (viewInclude reference).toList = phrase "include" [.bare reference] := by
  simp [viewInclude, phrase, Part.chars]

theorem toList_viewExclude (reference : String) :
    (viewExclude reference).toList = phrase "exclude" [.bare reference] := by
  simp [viewExclude, phrase, Part.chars]

theorem toList_elementStyleOpen (tag : String) :
    (elementStyleOpen tag).toList = phrase "element" [.literal tag] ++ " \x7b".toList := by
  simp [elementStyleOpen, phrase, Part.chars]

theorem toList_relationshipStyleOpen (tag : String) :
    (relationshipStyleOpen tag).toList = phrase "relationship" [.literal tag] ++ " \x7b".toList := by
  simp [relationshipStyleOpen, phrase, Part.chars]

theorem toList_styleAttribute (name value : String) :
    (styleAttribute name value).toList = phrase name [.bare value] := by
  simp [styleAttribute, phrase, Part.chars]

end Statement

/-- No characters but allowed ones. -/
def Consists (allowed : Char → Prop) (text : String) : Prop :=
  ∀ c ∈ text.toList, allowed c

-- Decided along the text, never by trying all characters.
instance {allowed : Char → Prop} [DecidablePred allowed] (text : String) :
    Decidable (Consists allowed text) :=
  List.decidableBAll allowed text.toList

/-- The signs of the language that stand in words. -/
def wordSigns : List Char := ['.', '!', '=', '-', '>']

def IsTermChar (c : Char) : Prop :=
  IsIdentifierChar c ∨ c ∈ wordSigns

instance (c : Char) : Decidable (IsTermChar c) :=
  inferInstanceAs (Decidable (_ ∨ _))

/-- An identifier, a reference or a word of the language. -/
def IsTerm (text : String) : Prop :=
  text.toList ≠ [] ∧ ∀ c ∈ text.toList, IsTermChar c

instance (text : String) : Decidable (IsTerm text) :=
  inferInstanceAs (Decidable (text.toList ≠ [] ∧ Consists IsTermChar text))

theorem isTerm_of_isReference {text : String} (h : Naming.IsReference text) : IsTerm text := by
  refine ⟨(Reading.isName_of_isReference h).1.1, fun c hc => ?_⟩
  obtain ⟨segments, -, hall, rfl⟩ := h
  rcases Reading.mem_joinPath hc with rfl | ⟨segment, hsegment, hc⟩
  · exact Or.inr (by decide)
  · exact Or.inl ((hall segment hsegment).isIdentifierChar hc)

theorem isTerm_of_isIdentifier {text : String} (h : Naming.IsIdentifier text) : IsTerm text :=
  isTerm_of_isReference (Naming.isReference_of_isIdentifier h)

theorem IsTermChar.isBlank {c : Char} (h : IsTermChar c) : isBlank c = false := by
  rcases h with h | h
  · exact Naming.not_isBlank_of_isIdentifierChar h
  · have hsigns : (wordSigns.all fun sign => !Text.isBlank sign) = true := by decide
    simpa using List.all_eq_true.mp hsigns c h

theorem IsTermChar.ne {c d : Char} (h : IsTermChar c) (hd : ¬ IsTermChar d) : c ≠ d := by
  rintro rfl
  exact hd h

theorem IsTerm.beginsInked {text : String} (h : IsTerm text) : BeginsInked text.toList := by
  obtain ⟨c, rest, hchars⟩ := List.exists_cons_of_ne_nil h.1
  exact ⟨c, rest, hchars, (h.2 c (hchars ▸ List.mem_cons_self)).isBlank⟩

theorem IsTerm.endsInked {text : String} (h : IsTerm text) : EndsInked text.toList := by
  obtain ⟨front, c, hchars⟩ := List.eq_nil_or_concat text.toList |>.resolve_left h.1
  rw [List.concat_eq_append] at hchars
  exact ⟨front, c, hchars, (h.2 c (hchars ▸ List.mem_concat_self)).isBlank⟩

/-- What stands as it is, and what stands in a literal, are of a kind each. -/
def Part.Of (bare literal : String → Prop) : Part → Prop
  | .bare text => bare text
  | .literal text => literal text

/-- A line of one word and parts of a kind, with what closes it. -/
def Worded (bare literal : String → Prop) (closing text : String) : Prop :=
  ∃ word rest, IsTerm word ∧ (∀ part ∈ rest, part.Of bare literal) ∧
    text.toList = phrase word rest ++ closing.toList

/-- A line that opens no block, or one that closes its own. -/
def IsStatement (bare literal : String → Prop) (text : String) : Prop :=
  Worded bare literal "" text ∨ Worded bare literal " \x7b\x7d" text

/-- A line that opens a block. -/
def IsHeader (bare literal : String → Prop) (text : String) : Prop :=
  Worded bare literal " \x7b" text

variable {bare literal : String → Prop}

theorem of_mem_technologyParts {technology : Option String} (h : ∀ text ∈ technology, literal text)
    {part : Part} (hpart : part ∈ technologyParts technology) : part.Of bare literal := by
  obtain ⟨text, htext, rfl⟩ := List.mem_map.mp hpart
  exact h text (Option.mem_filter_iff.mp (Option.mem_toList.mp htext)).1

theorem worded_of_phrase {word text : String} {rest : List Part} {closing : String}
    (htext : text.toList = phrase word rest ++ closing.toList) (hword : IsTerm word)
    (hrest : ∀ part ∈ rest, part.Of bare literal) : Worded bare literal closing text :=
  ⟨word, rest, hword, hrest, htext⟩

theorem worded_of_eq_phrase {word text : String} {rest : List Part} (htext : text.toList = phrase word rest)
    (hword : IsTerm word) (hrest : ∀ part ∈ rest, part.Of bare literal) :
    Worded bare literal "" text :=
  worded_of_phrase (htext.trans (List.append_nil _).symm) hword hrest

theorem Worded.closed {text : String} (h : Worded bare literal "" text) (closing : String) :
    Worded bare literal closing (text ++ closing) := by
  obtain ⟨word, rest, hword, hrest, htext⟩ := h
  rw [String.toList_empty, List.append_nil] at htext
  exact ⟨word, rest, hword, hrest, by rw [String.toList_append, htext]⟩

end C4Model.Layout
