import C4Model.Layout.Item
import C4Model.Proofs.Text.Lines
import Mathlib.Data.List.Infix

/-! Finished fragments inside a document. The lines of an item are found together in the text of whatever
holds the item, and they are still together once that text has been taken apart and indented further. -/

namespace C4Model.Layout

theorem linesOf_eq_flatMap (width : Int) (depth : Nat) (items : List Item) :
    linesOf width depth items = items.flatMap (Item.lines width depth) := by
  induction items with
  | nil => rfl
  | cons item rest ih => rw [linesOf, ih, List.flatMap_cons]

theorem linesOf_singleton (width : Int) (depth : Nat) (item : Item) :
    linesOf width depth [item] = item.lines width depth :=
  List.append_nil _

theorem lines_ne_nil (width : Int) (depth : Nat) (item : Item) : item.lines width depth ≠ [] := by
  cases item <;> simp [Item.lines]

theorem linesOf_infix_block {part body : List Item} (h : part <:+: body) (header : String)
    (width : Int) (depth : Nat) :
    linesOf width (depth + 1) part <:+: linesOf width depth [.block header body] := by
  have hlines : linesOf width depth [.block header body] =
      (margin width depth ++ header) ::
        (linesOf width (depth + 1) body ++ [margin width depth ++ blockClose]) := by
    simp [linesOf, Item.lines]
  rw [hlines, linesOf_eq_flatMap, linesOf_eq_flatMap]
  exact (h.flatMap _).trans ((List.prefix_append _ _).isInfix.trans (List.suffix_cons _ _).isInfix)

theorem render_block_ne_empty (width : Int) (header : String) (body : List Item) :
    render width [.block header body] ≠ "" := by
  have hlines : linesOf width 0 [.block header body] =
      ((margin width 0 ++ header) :: linesOf width 1 body) ++ [margin width 0 ++ blockClose] := by
    simp [linesOf, Item.lines]
  rw [render, hlines]
  refine Text.joinLines_ne_empty fun hempty => ?_
  have hchars := congrArg String.toList hempty
  simp [blockClose] at hchars

theorem splitOnChar_joinLines {lines : List String} (h : lines ≠ []) :
    Text.splitOnChar '\n' (Text.joinLines lines) = lines.flatMap (Text.splitOnChar '\n') :=
  Text.splitOnChar_intercalate rfl h

end C4Model.Layout
