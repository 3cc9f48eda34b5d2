/-! Lines of a text. A fragment from elsewhere ends its lines at any of the line separators; the
program's own writer ends a line at a line feed only. -/

namespace C4Model.Text

/-- The characters that end a line of a fragment; a carriage return and the line feed after it end
one line together. -/
def isLineBreak (c : Char) : Bool :=
  c == '\n' || c == '\r' || c == '\x0b' || c == '\x0c' || c == '\x1c' || c == '\x1d' || c == '\x1e'
    || c == '\u0085' || c == '\u2028' || c == '\u2029'

/-- The lines of a fragment. `current` holds the line being read, last character first. A line break
at the very end begins no further line. -/
def splitLinesFrom (current : List Char) : List Char → List (List Char)
  | [] => if current.isEmpty then [] else [current.reverse]
  | '\r' :: '\n' :: rest => current.reverse :: splitLinesFrom [] rest
  | c :: rest =>
      if isLineBreak c then current.reverse :: splitLinesFrom [] rest
      else splitLinesFrom (c :: current) rest

def splitLines (text : String) : List String :=
  (splitLinesFrom [] text.toList).map String.ofList

/-- The pieces between the occurrences of a separator; always at least one. -/
def splitAtChar (separator : Char) : List Char → List (List Char)
  | [] => [[]]
  | c :: rest =>
      if c = separator then [] :: splitAtChar separator rest
      else
        match splitAtChar separator rest with
        | [] => [[c]]
        | piece :: pieces => (c :: piece) :: pieces

/-- The pieces of a text between the occurrences of a separator. -/
def splitOnChar (separator : Char) (text : String) : List String :=
  (splitAtChar separator text.toList).map String.ofList

/-- Lines joined by line feeds, without one at the end. -/
def joinLines (lines : List String) : String :=
  String.intercalate "\n" lines

theorem splitAtChar_ne_nil (separator : Char) (cs : List Char) : splitAtChar separator cs ≠ [] := by
  cases cs with
  | nil => simp [splitAtChar]
  | cons c rest =>
    rw [splitAtChar]
    split
    · simp
    · split <;> simp

end C4Model.Text
