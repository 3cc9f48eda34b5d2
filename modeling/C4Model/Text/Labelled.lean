import C4Model.Text.Blank
import C4Model.Text.LowerCase

/-! Choices that documents and options spell as words. A written choice is read without regard to case,
and blanks around it do not count. -/

namespace C4Model

/-- A type with finitely many members, each spelled by a word. -/
class Labelled (α : Type) where
  /-- The members in the order in which messages list them. -/
  all : List α
  label : α → String
  /-- Further words, in lower case, that a document may write for a member. -/
  otherWord : α → Option String := fun _ => none

namespace Labelled

variable {α : Type} [Labelled α]

/-- The member whose label the word is, in any case. -/
def ofLabel? (word : String) : Option α :=
  all.find? fun member => Text.lower (label member) == Text.lower word

/-- The member that a document writes: by its label or by its other name, in any case, with blanks
around it. -/
def ofText? (text : String) : Option α :=
  let wanted := Text.lower (Text.strip text)
  all.find? fun member =>
    Text.lower (label member) == wanted || otherWord member == some wanted

/-- All labels, as a message lists them. -/
def choices (α : Type) [Labelled α] : String :=
  String.intercalate ", " ((all (α := α)).map label)

end Labelled

end C4Model
