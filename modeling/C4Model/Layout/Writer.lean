import C4Model.Layout.Item

/-! Writing line by line. A writer holds the lines written so far and the depth of the next one. Writing
items leaves it at the depth it had, with the lines of the items added. -/

namespace C4Model.Layout

structure Writer where
  width : Int
  lines : List String := []
  depth : Nat := 0

namespace Writer

/-- Adds a line at the current depth. -/
def addLine (w : Writer) (text : String) : Writer :=
  { w with lines := w.lines ++ [margin w.width w.depth ++ text] }

def addBlank (w : Writer) : Writer :=
  { w with lines := w.lines ++ [""] }

def indent (w : Writer) : Writer :=
  { w with depth := w.depth + 1 }

/-- One level less; at the outermost level nothing changes. -/
def unindent (w : Writer) : Writer :=
  { w with depth := w.depth - 1 }

/-- Forgets the lines and returns to the outermost level. -/
def clear (w : Writer) : Writer :=
  { w with lines := [], depth := 0 }

/-- Begins a block; the header holds its opening brace. -/
def openBlock (w : Writer) (header : String) : Writer :=
  (w.addLine header).indent

/-- Ends a block with its closing brace. -/
def closeBlock (w : Writer) : Writer :=
  w.unindent.addLine blockClose

/-- Leaves a block whose writing failed: the depth is restored and no brace is written. -/
def abandonBlock (w : Writer) : Writer :=
  w.unindent

def isEmpty (w : Writer) : Bool :=
  w.lines.isEmpty

def text (w : Writer) : String :=
  Text.joinLines w.lines

mutual

def write (w : Writer) : Item → Writer
  | .line text => w.addLine text
  | .blank => w.addBlank
  | .block header body => ((w.openBlock header).writeAll body).closeBlock

def writeAll (w : Writer) : List Item → Writer
  | [] => w
  | item :: rest => (w.write item).writeAll rest

end

/-- Adds the lines of a finished fragment at the current depth. -/
def addFragment (w : Writer) (fragment : String) : Writer :=
  w.writeAll (spliced fragment)

end Writer

end C4Model.Layout
