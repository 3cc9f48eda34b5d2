import C4Model.Layout.Item

/-! Indenting a fragment anew by its braces alone. Every line is stripped and put at the depth that the
braces before it give. A line that begins with a closing brace goes back first; all other braces count
for the lines after it. Blank lines stay as they are, and the depth never goes below zero. -/

namespace C4Model.Layout

def openings (line : List Char) : Nat :=
  line.count '{'

def closings (line : List Char) : Nat :=
  line.count '}'

/-- Whether a stripped line begins with a closing brace. -/
def beginsClosing (line : List Char) : Bool :=
  line.head? == some '}'

/-- The depth at which a stripped line stands, from the depth before it. -/
def depthOf (depth : Nat) (line : List Char) : Nat :=
  if beginsClosing line then depth - closings line else depth

/-- The depth after a stripped line, from the depth before it. -/
def depthAfter (depth : Nat) (line : List Char) : Nat :=
  if beginsClosing line then depth - closings line + openings line
  else depth + openings line - closings line

def reindentLines (width : Int) (depth : Nat) : List String → List String
  | [] => []
  | line :: rest =>
      let stripped := Text.stripBlanks line.toList
      if stripped.isEmpty then line :: reindentLines width depth rest
      else
        (margin width (depthOf depth stripped) ++ String.ofList stripped)
          :: reindentLines width (depthAfter depth stripped) rest

def reindent (width : Int) (fragment : String) : String :=
  Text.joinLines (reindentLines width 0 (Text.splitLines fragment))

end C4Model.Layout
