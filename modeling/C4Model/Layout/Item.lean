import C4Model.Text.Blank
import C4Model.Text.Lines

/-! What a document is made of before it has an indentation: lines, blank lines and blocks. A block is a
header line, its items one level deeper, and a line with the closing brace. -/

namespace C4Model.Layout

inductive Item where
  | line (text : String)
  | blank
  | block (header : String) (body : List Item)

/-- The line that ends a block. -/
def blockClose : String := "\x7d"

/-- The indentation at a depth. -/
def margin (width : Int) (depth : Nat) : String :=
  String.ofList (List.replicate (width.toNat * depth) ' ')

mutual

/-- The lines of an item at a depth. -/
def Item.lines (width : Int) (depth : Nat) : Item → List String
  | .line text => [margin width depth ++ text]
  | .blank => [""]
  | .block header body =>
      (margin width depth ++ header) :: linesOf width (depth + 1) body
        ++ [margin width depth ++ blockClose]

/-- The lines of items in a row. -/
def linesOf (width : Int) (depth : Nat) : List Item → List String
  | [] => []
  | item :: rest => item.lines width depth ++ linesOf width depth rest

end

/-- The text of items at the outermost level. -/
def render (width : Int) (items : List Item) : String :=
  Text.joinLines (linesOf width 0 items)

/-- The items that a finished fragment contributes: its lines as they are, blank ones as blank
lines. -/
def spliced (fragment : String) : List Item :=
  (Text.splitOnChar '\n' fragment).map fun line =>
    if Text.isBlankText line then .blank else .line line

theorem linesOf_append (width : Int) (depth : Nat) (first second : List Item) :
    linesOf width depth (first ++ second)
      = linesOf width depth first ++ linesOf width depth second := by
  induction first with
  | nil => simp [linesOf]
  | cons item rest ih => simp [linesOf, ih]

end C4Model.Layout
