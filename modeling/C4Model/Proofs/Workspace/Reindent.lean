import C4Model.Proofs.Layout.Reindent
import C4Model.Proofs.Workspace.Statements

/-! Documents at different widths. A workspace of smooth texts gives one tree of items, whatever the width is:
nothing that is spliced comes apart. So to indent its document anew is to write it at the new width. -/

namespace C4Model

open Hierarchy Layout Outline Outcome

namespace Workspace

/-- The workspace with another width for its indentation. -/
def withIndentWidth (w : Workspace) (width : Int) : Workspace :=
  { w with settings := { w.settings with indentWidth := width } }

/-- The views and styles at the end of the document, as if nothing had been rendered before. -/
def sectionItems (w : Workspace) (paths : Naming.PathMap) : List Item :=
  if w.views.isEmpty && !w.hasStyles then []
  else
    [.blank, .block Statement.viewsOpen (w.views.map (View.block paths) ++
      if w.hasStyles then
        (if w.views.isEmpty then [] else [.blank]) ++
          [Style.block w.elementStyles w.relationshipStyles]
      else [])]

/-- The document as one block. -/
def wholeBlock (w : Workspace) (attachments : Attachments) : Item :=
  .block (Statement.workspaceOpen w.title w.summary)
    (.line Statement.identifiersDirective :: .blank ::
      Document.modelItem w (w.named attachments) (pathMap (w.named attachments)) ::
        w.sectionItems (pathMap (w.named attachments)))

variable {w : Workspace} {attachments : Attachments} {line header : String → Prop}

theorem MadeOf.wholeBlock (h : w.MadeOf attachments line header) :
    (w.wholeBlock attachments).Made line header := by
  have hsection : ∀ item ∈ w.sectionItems (pathMap (w.named attachments)), item.Made line header := by
    intro item hitem
    rw [sectionItems] at hitem
    split at hitem
    · cases hitem
    · simp only [List.mem_cons, List.not_mem_nil, or_false] at hitem
      rcases hitem with rfl | rfl
      · exact .blank
      · refine .block h.viewsOpen fun item hitem => ?_
        rcases List.mem_append.mp hitem with hitem | hitem
        · obtain ⟨view, hview, rfl⟩ := List.mem_map.mp hitem
          exact h.views view hview
        · split at hitem
          · rcases List.mem_append.mp hitem with hitem | hitem
            · split at hitem
              · cases hitem
              · rw [List.mem_singleton.mp hitem]
                exact .blank
            · rw [List.mem_singleton.mp hitem]
              exact h.styles
          · cases hitem
  refine .block h.opening ?_
  simp only [List.forall_mem_cons]
  exact ⟨.line h.directive, .blank, h.model, hsection⟩

/-- Where every line is whole, splicing does nothing but move lines to their place. -/
theorem MadeOf.linesOf_sectionItems (h : w.MadeOf attachments Whole Whole) :
    linesOf w.settings.indentWidth 1 (w.sectionItems (pathMap (w.named attachments))) =
      w.sectionLines (pathMap (w.named attachments)) := by
  have hviews : w.viewLines (pathMap (w.named attachments)) = linesOf w.settings.indentWidth 2
      (w.views.map (View.block (pathMap (w.named attachments)))) := by
    refine flatMap_reflowed_linesOf fun item hitem => ?_
    obtain ⟨view, hview, rfl⟩ := List.mem_map.mp hitem
    exact (h.views view hview).flatMap_reflowed _ 1 1
  have hstyles := h.styles.flatMap_reflowed w.settings.indentWidth 2 0
  rw [Workspace.sectionItems, sectionLines, hviews, styleLines, hstyles]
  cases w.views.isEmpty <;> cases w.hasStyles <;> simp [linesOf, Item.lines, linesOf_append]

/-- The document of a workspace in which nothing was rendered before and every line is whole. -/
theorem RendersAll.eq_render {text : String} (hrenders : w.RendersAll)
    (hattachments : w.attachments = .ok attachments) (hmade : w.MadeOf attachments Whole Whole)
    (h : w.serialize = .ok text) :
    text = render w.settings.indentWidth [w.wholeBlock attachments] := by
  obtain ⟨found, hfound, views, hviews, rfl⟩ := serialize_eq_ok_iff.mp h
  obtain rfl := Except.ok.inj (hattachments.symm.trans hfound)
  have hlines := hrenders.linesOf_viewsSection hviews
  rw [← hmade.linesOf_sectionItems] at hlines
  simp only [render, wholeBlock, linesOf, Item.lines, hlines]

/-- Indenting a document anew by its braces gives the document with the new width. So a document is not
changed by its own width. -/
theorem serialize_withIndentWidth {text : String} (h : w.serialize = .ok text)
    (hrenders : w.RendersAll) (htexts : w.LiteralTexts Smooth)
    (hothers : w.BareTexts SmoothExpression SmoothEnd) :
    (∀ width, (w.withIndentWidth width).serialize = .ok (reindent width text)) ∧
      reindent w.settings.indentWidth text = text := by
  obtain ⟨attachments, hattachments, -⟩ := serialize_eq_ok_iff.mp h
  have hregular : w.MadeOf attachments (Regular 0) (Regular 1) :=
    ((attachesAs_of_attachments hattachments).madeOf (fun _ => smoothEnd_of_isTerm)
      (fun c hc => IsTermChar.smooth (Or.inl hc)) htexts
      ⟨fun view hview text htext => (hothers.expressions view hview text htext).strip,
        hothers.values⟩).mono (fun _ => regular_of_isStatement) fun _ => regular_of_isHeader
  have hwhole : w.MadeOf attachments Whole Whole :=
    hregular.mono (fun _ => whole_of_regular) fun _ => whole_of_regular
  have hreindent : ∀ width, reindent width text = render width [w.wholeBlock attachments] := by
    intro width
    rw [hrenders.eq_render hattachments hwhole h]
    exact reindent_render hregular.wholeBlock _ width
  constructor
  · intro width
    obtain ⟨⟨hdistinct, hcontainers, hcomponents, hviews⟩, hwritable⟩ := exists_serialize_iff.mp ⟨text, h⟩
    have hplaceable : (w.withIndentWidth width).Placeable := ⟨hdistinct, hcontainers, hcomponents, hviews⟩
    obtain ⟨other, hother⟩ := exists_serialize_iff.mpr ⟨hplaceable, hwritable⟩
    have hothermade : (w.withIndentWidth width).MadeOf attachments Whole Whole :=
      ⟨hwhole.opening, hwhole.directive, hwhole.model, hwhole.viewsOpen, hwhole.views,
        hwhole.styles⟩
    have hotherrenders : (w.withIndentWidth width).RendersAll :=
      ⟨hrenders.styles, hrenders.views, hrenders.configuration⟩
    rw [hother, hreindent, hotherrenders.eq_render hattachments hothermade hother]
    rfl
  · rw [hreindent, ← hrenders.eq_render hattachments hwhole h]

end Workspace

/-- The bookshop with an expression in its view, and with a style. -/
def Bookshop.painted : Workspace :=
  { workspace with
    views := [⟨.systemLandscape, "All of it", none, [.raw " * "], []⟩]
    elementStyles := [{ tag := "Shelf", color := some "white", size := some (.number 3) }] }

theorem Workspace.serialize_painted :
    ∃ text, Bookshop.painted.serialize = .ok text ∧
      (Bookshop.painted.withIndentWidth 2).serialize = .ok (reindent 2 text) ∧
      reindent 4 text = text := by
  have hplaceable : Bookshop.painted.Placeable :=
    ⟨Bookshop.placeable.distinct, Bookshop.placeable.containerParents,
      Bookshop.placeable.componentParents, by simp [Bookshop.painted, View.Scoped]⟩
  obtain ⟨text, htext⟩ := exists_serialize_iff.mpr ⟨hplaceable, by decide +kernel⟩
  have htexts : Bookshop.painted.LiteralTexts Smooth := by
    constructor
    case technologies =>
      intro component hcomponent text htext
      obtain rfl : component = Bookshop.shelf := by
        simpa [placed, topElements, declaredContainers, declaredComponents, Bookshop.painted,
          Bookshop.workspace, SoftwareSystem.elements, ChildKind.elements, containerChildren,
          componentChildren, Bookshop.shop, Bookshop.stock] using hcomponent
      obtain rfl := Option.some.inj htext
      decide
    all_goals decide
  have hothers : Bookshop.painted.BareTexts SmoothExpression SmoothEnd := by
    constructor
    · intro view hview text hmem
      obtain rfl := List.mem_singleton.mp hview
      obtain rfl := Reference.raw.inj (List.mem_singleton.mp hmem)
      exact ⟨by decide, by decide⟩
    · have hattributes : Bookshop.painted.styleAttributes = [("color", "white"), ("size", "3")] := by
        decide
      rw [hattributes, List.forall_mem_cons, List.forall_mem_singleton]
      exact ⟨⟨by decide, "whit".toList, 'e', rfl, by decide⟩, by decide, [], '3', rfl, by decide⟩
  have hown := serialize_withIndentWidth htext ⟨rfl, rfl, rfl⟩ htexts hothers
  exact ⟨text, htext, hown.1 2, hown.2⟩

end C4Model
