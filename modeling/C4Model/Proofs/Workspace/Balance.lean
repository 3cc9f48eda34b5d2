import C4Model.Proofs.Reading.Balance
import C4Model.Proofs.Workspace.Statements

/-! Braces in a document. Whatever its names, descriptions, titles and tags hold, the braces outside literals
are those of blocks, and every block closes its own. Texts rendered elsewhere keep the balance that they
have, though they are indented anew and spliced on their way into the document. -/

namespace C4Model

open Hierarchy Layout Outline Outcome Reading
open Text (linesText)

namespace Workspace

variable {w : Workspace} {attachments : Attachments} {paths : Naming.PathMap}

theorem literalTexts_any (w : Workspace) : w.LiteralTexts fun _ => True := by
  have hany : ∀ text, Consists (fun _ => True) text := fun _ _ _ => trivial
  constructor <;> intros <;> exact hany _

/-- All that is made of the texts of a workspace: its lines are balanced, and its headers open one brace. -/
theorem AttachesAs.levelMade (h : w.AttachesAs attachments) (hothers : w.BareTexts Inert Inert) :
    w.MadeOf attachments (fun text => Level text.toList) fun text => Opens text.toList :=
  (h.madeOf (fun _ => inert_of_isTerm) (fun _ _ => trivial) w.literalTexts_any
    ⟨fun view hview text htext => (hothers.expressions view hview text htext).strip,
      hothers.values⟩).mono (fun _ => level_of_isStatement) fun _ => opens_of_isHeader

/-- The texts rendered elsewhere are balanced, those that there are. -/
structure BalancedFragments (w : Workspace) : Prop where
  styles : ∀ text ∈ w.stylesText, Balanced text
  views : ∀ text ∈ w.viewsText, Balanced text
  configuration : ∀ text ∈ w.configurationText, Balanced text

theorem level_reindented (width : Int) {fragment : Option String}
    (h : ∀ text ∈ fragment, Balanced text) : Level (Document.reindented width fragment).toList := by
  refine level_reindent width ?_
  cases fragment with
  | none => exact level_nil
  | some text => exact balanced_iff.mp (h text rfl)

theorem level_render {width : Int} {opening : String} {body : List Item} (h : Opens opening.toList)
    (hbody : Level (linesText (linesOf width 1 body))) :
    Level (render width [.block opening body]).toList := by
  refine level_joinLines ?_
  rw [linesOf_singleton]
  exact level_block width 0 h hbody

theorem level_fragmentItems (width : Int) (depth : Nat) {fragments : List String}
    (h : ∀ fragment ∈ fragments, Level fragment.toList) (separate : Bool) :
    Level (linesText (linesOf width depth (View.fragmentItems separate fragments))) := by
  have hblank : Level (linesText (linesOf width depth [.blank])) := fun _ => rfl
  induction fragments generalizing separate with
  | nil => exact level_nil
  | cons fragment rest ih =>
      obtain ⟨hfragment, hrest⟩ := List.forall_mem_cons.mp h
      rw [View.fragmentItems]
      split
      · exact ih hrest separate
      · rw [linesOf_append, linesOf_append, Text.linesText_append, Text.linesText_append]
        refine Level.append (Level.append ?_ (level_spliced width depth hfragment)) (ih hrest true)
        cases separate with
        | true => exact hblank
        | false => exact level_nil

theorem level_plainStyles (hstyles : ∀ text ∈ w.stylesText, Balanced text)
    (hmade : w.MadeOf attachments (fun text => Level text.toList) fun text => Opens text.toList) :
    Level w.plainStyles.toList := by
  rw [plainStyles]
  split
  · rw [Style.text]
    split
    · exact level_nil
    · refine level_joinLines ?_
      rw [linesOf_singleton]
      exact level_lines hmade.styles _ _
  · exact level_reindented _ hstyles

theorem level_viewsFragment (hfragments : w.BalancedFragments)
    (hmade : w.MadeOf attachments (fun text => Level text.toList) fun text => Opens text.toList)
    {fragment : String}
    (h : Document.viewsFragment w (pathMap (w.named attachments)) = .ok fragment) :
    Level fragment.toList := by
  by_cases hnone : w.viewsText.getD "" = ""
  · rw [View.renderAll_eq ((viewsFragment_eq_ok_iff_of_none hnone).mp h).2]
    split
    · exact level_nil
    · refine level_render hmade.viewsOpen ?_
      rw [linesOf_append, Text.linesText_append]
      refine Level.append (level_linesOf fun item hitem => ?_)
        (level_fragmentItems _ _ (fun fragment hmem => ?_) _)
      · obtain ⟨view, hview, rfl⟩ := List.mem_map.mp hitem
        exact level_lines (hmade.views view hview) _ _
      · simp only [List.mem_cons, List.not_mem_nil, or_false] at hmem
        rcases hmem with rfl | rfl
        · exact level_plainStyles hfragments.styles hmade
        · exact level_reindented _ hfragments.configuration
  · rw [viewsFragment_of_some hnone] at h
    obtain rfl := Except.ok.inj h
    exact level_reindented _ hfragments.views

/-- Outside its literals a document closes every brace that it opens and no other. -/
theorem balanced_serialize {text : String} (h : w.serialize = .ok text)
    (hothers : w.BareTexts Inert Inert) (hfragments : w.BalancedFragments) : Balanced text := by
  obtain ⟨attachments, hattachments, views, hviews, rfl⟩ := serialize_eq_ok_iff.mp h
  have hmade := (attachesAs_of_attachments hattachments).levelMade hothers
  obtain ⟨fragment, hfragment, hitems⟩ := bind_eq_ok_iff.mp hviews
  obtain rfl := Except.ok.inj hitems
  have hblank : Level (linesText (Item.blank.lines w.settings.indentWidth 1)) := fun _ => rfl
  have hsection : Level (linesText (linesOf w.settings.indentWidth 1
      (if fragment.isEmpty then [] else .blank :: spliced fragment))) := by
    split
    · exact level_nil
    · rw [linesOf, Text.linesText_append]
      exact hblank.append (level_spliced _ _ (level_viewsFragment hfragments hmade hfragment))
  refine balanced_iff.mpr (level_render hmade.opening ?_)
  rw [linesOf, linesOf, linesOf, Text.linesText_append, Text.linesText_append, Text.linesText_append]
  exact (level_line _ _ hmade.directive).append
    (hblank.append ((level_lines hmade.model _ _).append hsection))

end Workspace

/-- The bookshop with braces in its name, and with a style that was rendered elsewhere. -/
def Bookshop.styled : Workspace :=
  { workspace with
    name := some "\x7d Books \\ \" \x7b"
    stylesText := some "styles \x7b\nelement \"\x7d\" \x7b\n\x7d\n\x7d" }

theorem Workspace.balanced_styled :
    ∃ text, Bookshop.styled.serialize = .ok text ∧ Balanced text := by
  have hplaceable : Bookshop.styled.Placeable :=
    ⟨Bookshop.placeable.distinct, Bookshop.placeable.containerParents,
      Bookshop.placeable.componentParents, Bookshop.placeable.viewsScoped⟩
  obtain ⟨text, htext⟩ := exists_serialize_iff.mpr ⟨hplaceable, by decide +kernel⟩
  have hothers : Bookshop.styled.BareTexts Inert Inert := by
    constructor
    · simp [Bookshop.styled, Bookshop.workspace]
    · simp [Workspace.styleAttributes, Bookshop.styled, Bookshop.workspace]
  have hstyles : ∀ text ∈ Bookshop.styled.stylesText, Balanced text := by
    rintro _ ⟨⟩
    decide
  have hnone : ∀ text ∈ (none : Option String), Balanced text :=
    fun _ htext => absurd htext (Option.not_mem_none _)
  exact ⟨text, htext, balanced_serialize htext hothers ⟨hstyles, hnone, hnone⟩⟩

end C4Model
