import C4Model.Proofs.Layout.Splice
import C4Model.Proofs.Text.Blank

/-! What splicing does to the lines of a fragment. A line with line feeds in it comes apart, and each of its
pieces is indented on its own, unless it is blank; then it becomes an empty line. Splicing twice is
splicing once with both margins. Lines that are whole, without line feeds and not blank, only move to the
right: so whole items may as well be written at their place from the beginning. -/

namespace C4Model.Layout

/-- A line of a fragment behind a margin; a blank one is left empty. -/
def indented (margin line : String) : String :=
  if Text.isBlankText line then "" else margin ++ line

/-- The lines that a line gives when it is spliced. -/
def reflowed (margin line : String) : List String :=
  (Text.splitOnChar '\n' line).map (indented margin)

theorem linesOf_spliced (width : Int) (depth : Nat) {lines : List String} (hlines : lines ≠ []) :
    linesOf width depth (spliced (Text.joinLines lines)) =
      lines.flatMap (reflowed (margin width depth)) := by
  have hline : ∀ line, Item.lines width depth
      (if Text.isBlankText line then .blank else .line line) = [indented (margin width depth) line] := by
    intro line
    rw [indented]
    split <;> rfl
  rw [linesOf_eq_flatMap, spliced, splitOnChar_joinLines hlines, List.flatMap_map, List.flatMap_assoc]
  refine List.flatMap_congr fun line _ => ?_
  rw [reflowed, List.map_eq_flatMap]
  exact List.flatMap_congr fun piece _ => hline piece

theorem margin_append (width : Int) (depth further : Nat) :
    margin width depth ++ margin width further = margin width (depth + further) := by
  rw [margin, margin, margin, ← String.ofList_append, ← List.replicate_add, Nat.mul_add]

theorem allBlank_margin (width : Int) (depth : Nat) : Text.AllBlank (margin width depth).toList := by
  rw [margin, String.toList_ofList]
  exact Text.allBlank_replicate _

theorem newline_not_mem_margin (width : Int) (depth : Nat) : '\n' ∉ (margin width depth).toList := by
  rw [margin, String.toList_ofList, List.mem_replicate]
  exact fun h => absurd h.2 (by decide)

theorem margin_zero (width : Int) : margin width 0 = "" := by
  rw [margin, Nat.mul_zero]
  rfl

theorem margin_ne_empty {width : Int} (hwidth : 0 < width) {depth : Nat} (hdepth : 0 < depth) :
    margin width depth ≠ "" := by
  intro hempty
  have hlength := congrArg (·.toList.length) hempty
  have hpos : 0 < width.toNat * depth := Nat.mul_pos (by omega) hdepth
  simp [margin] at hlength
  omega

theorem isBlankText_margin (width : Int) (depth : Nat) (line : String) :
    Text.isBlankText (margin width depth ++ line) = Text.isBlankText line := by
  have hblank : (margin width depth).toList.all Text.isBlank = true :=
    List.all_eq_true.mpr (allBlank_margin width depth)
  rw [Text.isBlankText, String.toList_append, List.all_append, hblank, Bool.true_and, Text.isBlankText]

theorem indented_indented (width : Int) (depth further : Nat) (line : String) :
    indented (margin width depth) (indented (margin width further) line) =
      indented (margin width (depth + further)) line := by
  by_cases hblank : Text.isBlankText line = true
  · have hempty : Text.isBlankText "" = true := rfl
    rw [indented, indented, indented, if_pos hblank, if_pos hblank, if_pos hempty]
  · rw [indented, indented, indented, if_neg hblank, if_neg hblank, isBlankText_margin,
      if_neg hblank, ← String.append_assoc, margin_append]

theorem reflowed_of_not_mem {margin line : String} (h : '\n' ∉ line.toList) :
    reflowed margin line = [indented margin line] := by
  rw [reflowed, Text.splitOnChar_of_not_mem h, List.map_singleton]

theorem newline_not_mem_indented {width : Int} {depth : Nat} {line : String}
    (h : '\n' ∉ line.toList) : '\n' ∉ (indented (margin width depth) line).toList := by
  rw [indented]
  split
  · decide
  · rw [String.toList_append, List.mem_append, not_or]
    exact ⟨newline_not_mem_margin width depth, h⟩

/-- Splicing twice is splicing once with both margins. -/
theorem flatMap_reflowed_reflowed (width : Int) (depth further : Nat) (lines : List String) :
    (lines.flatMap (reflowed (margin width further))).flatMap (reflowed (margin width depth)) =
      lines.flatMap (reflowed (margin width (depth + further))) := by
  have hpiece : ∀ line, ∀ piece ∈ Text.splitOnChar '\n' line,
      reflowed (margin width depth) (indented (margin width further) piece) =
        [indented (margin width (depth + further)) piece] := by
    intro line piece hmem
    rw [reflowed_of_not_mem (newline_not_mem_indented (Text.not_mem_of_mem_splitOnChar hmem)),
      indented_indented]
  rw [List.flatMap_assoc]
  refine List.flatMap_congr fun line _ => ?_
  rw [reflowed, List.flatMap_map, List.flatMap_congr (hpiece line), reflowed, List.map_eq_flatMap]

/-- Items of which all lines and all headers are of a kind. -/
inductive Item.Made (line header : String → Prop) : Item → Prop
  | line {text : String} (h : line text) : Made line header (.line text)
  | blank : Made line header .blank
  | block {opening : String} {body : List Item} (h : header opening)
      (inner : ∀ item ∈ body, Made line header item) : Made line header (.block opening body)

theorem Item.Made.mono {line header line' header' : String → Prop} {item : Item}
    (h : item.Made line header) (hline : ∀ text, line text → line' text)
    (hheader : ∀ text, header text → header' text) : item.Made line' header' := by
  induction h with
  | line h => exact .line (hline _ h)
  | blank => exact .blank
  | block h _ ih => exact .block (hheader _ h) ih

/-- A line that splicing leaves in one piece. -/
def Whole (text : String) : Prop :=
  '\n' ∉ text.toList ∧ Text.isBlankText text = false

instance (text : String) : Decidable (Whole text) :=
  inferInstanceAs (Decidable ('\n' ∉ text.toList ∧ Text.isBlankText text = false))

theorem reflowed_whole {text : String} (h : Whole text) (width : Int) (depth further : Nat) :
    reflowed (margin width depth) (margin width further ++ text) =
      [margin width (depth + further) ++ text] := by
  have hfree : '\n' ∉ (margin width further ++ text).toList := by
    rw [String.toList_append, List.mem_append, not_or]
    exact ⟨newline_not_mem_margin width further, h.1⟩
  rw [reflowed_of_not_mem hfree, indented, isBlankText_margin, h.2, if_neg Bool.false_ne_true,
    ← String.append_assoc, margin_append]

theorem flatMap_reflowed_linesOf {width : Int} {depth further : Nat} {items : List Item}
    (h : ∀ item ∈ items, (item.lines width further).flatMap (reflowed (margin width depth)) =
      item.lines width (depth + further)) :
    (linesOf width further items).flatMap (reflowed (margin width depth)) =
      linesOf width (depth + further) items := by
  rw [linesOf_eq_flatMap, linesOf_eq_flatMap, List.flatMap_assoc]
  exact List.flatMap_congr h

/-- Whole items that are spliced stand as if they had been written at their place. -/
theorem Item.Made.flatMap_reflowed {item : Item} (h : item.Made Whole Whole) (width : Int)
    (depth further : Nat) :
    (item.lines width further).flatMap (reflowed (margin width depth)) =
      item.lines width (depth + further) := by
  induction h generalizing further with
  | line h =>
      rw [Item.lines, List.flatMap_singleton, reflowed_whole h]
      rfl
  | blank => rfl
  | @block opening body h _ ih =>
      have hclose : Whole blockClose := ⟨by decide, by decide⟩
      have hbody : (linesOf width (further + 1) body).flatMap (reflowed (margin width depth)) =
          linesOf width (depth + (further + 1)) body :=
        flatMap_reflowed_linesOf fun item hitem => ih item hitem (further + 1)
      simp only [Item.lines, List.cons_append, List.flatMap_cons, List.flatMap_append,
        List.flatMap_nil, reflowed_whole h, reflowed_whole hclose, hbody, List.append_nil,
        List.nil_append, Nat.add_assoc]

end C4Model.Layout
