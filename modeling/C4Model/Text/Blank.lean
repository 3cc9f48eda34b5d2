import C4Model.Text.CodePoints

/-! Blank characters, and what hangs on them: taking blanks off both ends of a text, and the first
letters of its words. -/

namespace C4Model.Text

/-- The characters of property White_Space, and the four information separators. -/
def blanks : CodePoints where
  intervals := [(0x09, 0x0D), (0x1C, 0x20), (0x85, 0x85), (0xA0, 0xA0), (0x1680, 0x1680),
    (0x2000, 0x200A), (0x2028, 0x2029), (0x202F, 0x202F), (0x205F, 0x205F), (0x3000, 0x3000)]

def isBlank (c : Char) : Bool :=
  blanks.contains c

/-- The text without the blanks at its end. -/
def stripRight (cs : List Char) : List Char :=
  (cs.reverse.dropWhile isBlank).reverse

/-- The text without the blanks at either end. -/
def stripBlanks (cs : List Char) : List Char :=
  stripRight (cs.dropWhile isBlank)

def strip (text : String) : String :=
  String.ofList (stripBlanks text.toList)

/-- Whether nothing but blanks is in the text. -/
def isBlankText (text : String) : Bool :=
  text.toList.all isBlank

/-- The first character of every word, a word being a longest run without blanks. The flag tells
whether the next character that is no blank begins a word. -/
def wordInitials (atStart : Bool) : List Char → List Char
  | [] => []
  | c :: rest =>
      if isBlank c then wordInitials true rest
      else if atStart then c :: wordInitials false rest
      else wordInitials false rest

end C4Model.Text
