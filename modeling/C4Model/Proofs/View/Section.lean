import C4Model.Proofs.Layout.Reflow
import C4Model.Proofs.View.Rendering
import C4Model.Proofs.View.Style
import C4Model.Workspace.Serialize

/-! The views at the end of a document, line by line, for a workspace in which nothing rendered elsewhere
stands. The blocks of views are spliced once on their way into the document, and the block of styles twice,
so the lines of the one are indented by one level more and those of the other by two. -/

namespace C4Model

open Layout Outcome

theorem View.eq_blocks_of_mapM {paths : Naming.PathMap} {views : List View} {items : List Item}
    (h : views.mapM (item paths) = .ok items) : items = views.map (block paths) := by
  rw [mapM_eq_ok_iff] at h
  induction h with
  | nil => rfl
  | cons hitem _ ih => rw [List.map_cons, ← ih, eq_block_of_item hitem]

/-- Rendered views are nothing, or one block of views with the fragments behind them. -/
theorem View.renderAll_eq {width : Int} {paths : Naming.PathMap} {views : List View}
    {styles configuration text : String}
    (h : renderAll width paths views styles configuration = .ok text) :
    text = if views.isEmpty && styles.isEmpty && configuration.isEmpty then ""
      else render width [.block Statement.viewsOpen (views.map (block paths) ++
        fragmentItems (!views.isEmpty) [styles, configuration])] := by
  rw [renderAll] at h
  split at h
  · rename_i hnothing
    rw [if_pos hnothing]
    exact (Except.ok.inj h).symm
  · rename_i hsome
    obtain ⟨items, hitems, hrender⟩ := bind_eq_ok_iff.mp h
    obtain rfl := eq_blocks_of_mapM hitems
    rw [if_neg hsome]
    exact (Except.ok.inj hrender).symm

namespace Workspace

/-- No text rendered elsewhere stands in the workspace. -/
structure RendersAll (w : Workspace) : Prop where
  styles : w.stylesText.getD "" = ""
  views : w.viewsText.getD "" = ""
  configuration : w.configurationText.getD "" = ""

/-- Whether the workspace has styles of its own. -/
def hasStyles (w : Workspace) : Bool :=
  !(w.elementStyles.isEmpty && w.relationshipStyles.isEmpty)

/-- The lines of the styles at their place, after a blank line if views stand before them. -/
def styleLines (w : Workspace) : List String :=
  if w.hasStyles then
    (if w.views.isEmpty then [] else [""]) ++
      ((Style.block w.elementStyles w.relationshipStyles).lines w.settings.indentWidth 0).flatMap
        (reflowed (margin w.settings.indentWidth 2))
  else []

/-- The lines of the views at their place. -/
def viewLines (w : Workspace) (paths : Naming.PathMap) : List String :=
  (linesOf w.settings.indentWidth 1 (w.views.map (View.block paths))).flatMap
    (reflowed (margin w.settings.indentWidth 1))

/-- The lines at the end of the model up to the end of the document. -/
def sectionLines (w : Workspace) (paths : Naming.PathMap) : List String :=
  if w.views.isEmpty && !w.hasStyles then []
  else
    ["", margin w.settings.indentWidth 1 ++ Statement.viewsOpen] ++ w.viewLines paths ++ w.styleLines
      ++ [margin w.settings.indentWidth 1 ++ blockClose]

variable {w : Workspace} {paths : Naming.PathMap}

/-- The styles at their place in the document, be their numbers as large as they may. -/
def plainStyles (w : Workspace) : String :=
  if w.stylesText.getD "" = "" then
    Style.text w.settings.indentWidth w.elementStyles w.relationshipStyles
  else Document.reindented w.settings.indentWidth w.stylesText

/-- The styles that are put into the document, if it has any place for them, can be written. -/
def StylesWritable (w : Workspace) : Prop :=
  w.viewsText.getD "" = "" → w.stylesText.getD "" = "" →
    Style.Writable w.elementStyles w.relationshipStyles

instance (w : Workspace) : Decidable w.StylesWritable :=
  inferInstanceAs (Decidable (_ → _ → _))

/-- A text that is given stands for what the workspace has of its own, unless it is empty. -/
theorem given_or_own {α : Type} (given : Option String) (own : α) (taken : String → α) :
    (match given with
      | some text => if text.isEmpty then own else taken text
      | none => own) = if given.getD "" = "" then own else taken (given.getD "") := by
  cases given with
  | none => rfl
  | some text => simp only [Option.getD_some, String.isEmpty_iff]

theorem stylesFragment_of_none (h : w.stylesText.getD "" = "") : Document.stylesFragment w =
    Style.render w.settings.indentWidth w.elementStyles w.relationshipStyles :=
  (given_or_own _ _ _).trans (if_pos h)

theorem stylesFragment_of_some (h : w.stylesText.getD "" ≠ "") :
    Document.stylesFragment w = .ok w.plainStyles := by
  rw [plainStyles, if_neg h]
  exact (given_or_own _ _ _).trans (if_neg h)

theorem stylesFragment_eq_ok_iff {styles : String} :
    Document.stylesFragment w = .ok styles ↔
      (w.stylesText.getD "" = "" → Style.Writable w.elementStyles w.relationshipStyles) ∧
        w.plainStyles = styles := by
  by_cases h : w.stylesText.getD "" = ""
  · rw [stylesFragment_of_none h, Style.render_eq_ok_iff, plainStyles, if_pos h, forall_prop_of_true h]
  · rw [stylesFragment_of_some h, Except.ok.injEq, iff_and_self]
    exact fun _ hnone => absurd hnone h

theorem stylesFragment_eq_error {error : NumeralError} (h : Document.stylesFragment w = .error error) :
    error = .tooLarge ∧ w.stylesText.getD "" = "" ∧
      ¬Style.Writable w.elementStyles w.relationshipStyles := by
  by_cases hnone : w.stylesText.getD "" = ""
  · rw [stylesFragment_of_none hnone, Style.render_eq_error_iff] at h
    exact ⟨h.2, hnone, h.1⟩
  · rw [stylesFragment_of_some hnone] at h
    cases h

theorem viewsFragment_of_none (h : w.viewsText.getD "" = "") : Document.viewsFragment w paths =
    (Document.stylesFragment w).mapError .numeral >>= fun styles =>
      (View.renderAll w.settings.indentWidth paths w.views styles
        (Document.reindented w.settings.indentWidth w.configurationText)).mapError .render :=
  (given_or_own _ _ _).trans (if_pos h)

theorem viewsFragment_of_some (h : w.viewsText.getD "" ≠ "") :
    Document.viewsFragment w paths = .ok (Document.reindented w.settings.indentWidth w.viewsText) :=
  (given_or_own _ _ _).trans (if_neg h)

theorem viewsFragment_eq_ok_iff_of_none (h : w.viewsText.getD "" = "") {fragment : String} :
    Document.viewsFragment w paths = .ok fragment ↔
      w.StylesWritable ∧ View.renderAll w.settings.indentWidth paths w.views w.plainStyles
        (Document.reindented w.settings.indentWidth w.configurationText) = .ok fragment := by
  simp only [viewsFragment_of_none h, bind_eq_ok_iff, mapError_eq_ok_iff, stylesFragment_eq_ok_iff,
    StylesWritable, forall_prop_of_true h]
  constructor
  · rintro ⟨_, ⟨hwritable, rfl⟩, hrender⟩
    exact ⟨hwritable, hrender⟩
  · rintro ⟨hwritable, hrender⟩
    exact ⟨_, ⟨hwritable, rfl⟩, hrender⟩

theorem RendersAll.plainStyles_eq (h : w.RendersAll) : w.plainStyles =
    if w.hasStyles then
      Text.joinLines ((Style.block w.elementStyles w.relationshipStyles).lines
        w.settings.indentWidth 0)
    else "" := by
  rw [plainStyles, if_pos h.styles, Style.text, hasStyles]
  cases hnone : w.elementStyles.isEmpty && w.relationshipStyles.isEmpty with
  | true => rfl
  | false => simp [render, linesOf_singleton]

theorem RendersAll.viewsFragment_eq_ok_iff (h : w.RendersAll) {fragment : String} :
    Document.viewsFragment w paths = .ok fragment ↔
      w.StylesWritable ∧
        View.renderAll w.settings.indentWidth paths w.views w.plainStyles "" = .ok fragment := by
  have hconfiguration : Document.reindented w.settings.indentWidth w.configurationText = "" := by
    rw [Document.reindented, h.configuration]
    rfl
  rw [viewsFragment_eq_ok_iff_of_none h.views, hconfiguration]

/-- The lines of the rendered views. -/
theorem RendersAll.renderAll (h : w.RendersAll) {fragment : String}
    (hfragment : Document.viewsFragment w paths = .ok fragment) :
    (w.views.isEmpty && !w.hasStyles) = true ∧ fragment = "" ∨
    (w.views.isEmpty && !w.hasStyles) = false ∧
      fragment = render w.settings.indentWidth [.block Statement.viewsOpen
        (w.views.map (View.block paths) ++
          if w.hasStyles then
            (if w.views.isEmpty then [] else [.blank]) ++ spliced w.plainStyles
          else [])] := by
  have hstyles : w.plainStyles.isEmpty = !w.hasStyles := by
    rw [h.plainStyles_eq]
    split
    · rename_i hsome
      rw [hsome, Bool.not_true, String.isEmpty_eq_false_iff, ← linesOf_singleton]
      exact render_block_ne_empty _ _ _
    · rename_i hnone
      rw [Bool.not_eq_true] at hnone
      rw [hnone]
      rfl
  have hempty : "".isEmpty = true := rfl
  have hrender := View.renderAll_eq (h.viewsFragment_eq_ok_iff.mp hfragment).2
  rw [hstyles, hempty, Bool.and_true] at hrender
  cases hnothing : w.views.isEmpty && !w.hasStyles with
  | true =>
      rw [hnothing, if_pos rfl] at hrender
      exact Or.inl ⟨rfl, hrender⟩
  | false =>
      rw [hnothing, if_neg Bool.false_ne_true] at hrender
      refine Or.inr ⟨rfl, hrender.trans ?_⟩
      cases hsome : w.hasStyles <;> cases w.views.isEmpty <;>
        simp [View.fragmentItems, hstyles, hsome]

/-- The styles that were spliced into the block of views are spliced once more. -/
theorem RendersAll.flatMap_styles (h : w.RendersAll) :
    (linesOf w.settings.indentWidth 1
      (if w.hasStyles then
        (if w.views.isEmpty then [] else [.blank]) ++ spliced w.plainStyles
      else [])).flatMap (reflowed (margin w.settings.indentWidth 1)) = w.styleLines := by
  rw [styleLines, h.plainStyles_eq]
  cases w.hasStyles with
  | false => rfl
  | true =>
      have hseparator : (linesOf w.settings.indentWidth 1
          (if w.views.isEmpty then [] else [.blank])).flatMap
            (reflowed (margin w.settings.indentWidth 1)) =
          if w.views.isEmpty then [] else [""] := by
        cases w.views.isEmpty <;> rfl
      rw [if_pos rfl, if_pos rfl, if_pos rfl, linesOf_append, List.flatMap_append, hseparator,
        linesOf_spliced _ _ (lines_ne_nil _ _ _), flatMap_reflowed_reflowed]

/-- Where nothing is rendered elsewhere, these lines stand behind the model. -/
theorem RendersAll.linesOf_viewsSection (h : w.RendersAll) {items : List Item}
    (hitems : Document.viewsSection w paths = .ok items) :
    linesOf w.settings.indentWidth 1 items = w.sectionLines paths := by
  obtain ⟨fragment, hfragment, hitems⟩ := bind_eq_ok_iff.mp hitems
  obtain rfl := Except.ok.inj hitems
  rw [sectionLines]
  rcases h.renderAll hfragment with ⟨hnothing, rfl⟩ | ⟨hsome, hrender⟩
  · rw [hnothing]
    rfl
  · have hopen : Whole Statement.viewsOpen := ⟨by decide, by decide⟩
    have hclose : Whole blockClose := ⟨by decide, by decide⟩
    have hlines : ∀ header body, linesOf w.settings.indentWidth 0 [.block header body] =
        [margin w.settings.indentWidth 0 ++ header] ++ linesOf w.settings.indentWidth 1 body ++
          [margin w.settings.indentWidth 0 ++ blockClose] := by
      simp [linesOf, Item.lines]
    have hne : fragment.isEmpty = false := by
      rw [hrender, String.isEmpty_eq_false_iff]
      exact render_block_ne_empty _ _ _
    rw [hsome, hne, if_neg Bool.false_ne_true, if_neg Bool.false_ne_true, linesOf, hrender, render,
      linesOf_spliced _ _ (by rw [hlines]; simp), hlines, linesOf_append, List.flatMap_append,
      List.flatMap_append, List.flatMap_append, h.flatMap_styles, List.flatMap_singleton,
      List.flatMap_singleton, reflowed_whole hopen, reflowed_whole hclose, ← viewLines]
    simp [Item.lines]

end Workspace

end C4Model
