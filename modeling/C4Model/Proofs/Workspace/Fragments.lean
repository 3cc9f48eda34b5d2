import C4Model.Proofs.Text.Content
import C4Model.Proofs.View.Faithful
import C4Model.Proofs.Workspace.Order
import C4Model.Proofs.Workspace.Reindent

/-! Texts rendered elsewhere in a document. A rendered block of styles takes the place of the styles
themselves, whatever its width was. Any other text is taken apart at line separators of all kinds before it
is put in, so what stands on its lines is found in the document, unless a separator stands inside a line. -/

namespace C4Model

open Layout Outcome

namespace Workspace

open Addition

/-- The workspace with these in the place of its styles. -/
def withStyles (w : Workspace) (elements : List ElementStyle) (relationships : List RelationshipStyle)
    (text : Option String) : Workspace :=
  { w with elementStyles := elements, relationshipStyles := relationships, stylesText := text }

/-- Styles are in a document through their fragment only. -/
theorem serialize_withStyles {w : Workspace} {elements elements' : List ElementStyle}
    {relationships relationships' : List RelationshipStyle} {text text' : Option String}
    (h : Document.stylesFragment (w.withStyles elements relationships text) =
      Document.stylesFragment (w.withStyles elements' relationships' text')) :
    (w.withStyles elements relationships text).serialize =
      (w.withStyles elements' relationships' text').serialize := by
  have hsection : ∀ paths, Document.viewsSection (w.withStyles elements relationships text) paths =
      Document.viewsSection (w.withStyles elements' relationships' text') paths := by
    intro paths
    rw [Document.viewsSection, Document.viewsSection, Document.viewsFragment, Document.viewsFragment, h]
    rfl
  rw [serialize, serialize, items, items]
  simp only [hsection]
  rfl

/-- Styles go behind the styles that are there, and nothing else changes. -/
theorem addAll_styles (w : Workspace) {additions : List Addition} {elements : List ElementStyle}
    {relationships : List RelationshipStyle}
    (h : Reordered additions
      (elements.map .elementStyle ++ relationships.map .relationshipStyle)) :
    w.addAll additions =
      w.withStyles (w.elementStyles ++ elements) (w.relationshipStyles ++ relationships) w.stylesText := by
  -- whatever is no style is not among the additions
  have hnone : ∀ {β : Type} (part : Addition → Option β),
      (∀ style, part (.elementStyle style) = none) →
        (∀ style, part (.relationshipStyle style) = none) → additions.filterMap part = [] := by
    intro β part helement hrelationship
    rw [List.filterMap_eq_nil_iff]
    intro addition haddition
    rcases List.mem_append.mp (h.perm.mem_iff.mp haddition) with hmem | hmem
    · obtain ⟨style, -, rfl⟩ := List.mem_map.mp hmem
      exact helement style
    · obtain ⟨style, -, rfl⟩ := List.mem_map.mp hmem
      exact hrelationship style
  have helements : additions.filterMap elementStyle? = elements := by
    rw [h.filterMap_eq .elementStyles elementStyle?
      fun addition _ _ => by cases addition <;> simp_all [row]]
    simp [List.filterMap_map, Function.comp_def]
  have hrelationships : additions.filterMap relationshipStyle? = relationships := by
    rw [h.filterMap_eq .relationshipStyles relationshipStyle?
      fun addition _ _ => by cases addition <;> simp_all [row]]
    simp [List.filterMap_map, Function.comp_def]
  rw [addAll_eq, helements, hrelationships, hnone person? (fun _ => rfl) fun _ => rfl,
    hnone softwareSystem? (fun _ => rfl) fun _ => rfl, hnone container? (fun _ => rfl) fun _ => rfl,
    hnone component? (fun _ => rfl) fun _ => rfl, hnone relationship? (fun _ => rfl) fun _ => rfl,
    hnone view? (fun _ => rfl) fun _ => rfl]
  simp only [List.append_nil, withStyles]

end Workspace

/-- Rendered styles that are indented anew are the styles rendered at the new width. -/
theorem Style.reindent_text {elements : List ElementStyle} {relationships : List RelationshipStyle}
    (htags : ∀ tag ∈ elements.map (·.tag) ++ relationships.map (·.tag), Consists Smooth tag)
    (hvalues : ∀ entry ∈ elements.flatMap ElementStyle.attributes ++
      relationships.flatMap RelationshipStyle.attributes, SmoothEnd entry.2) (width new : Int) :
    reindent new (Style.text width elements relationships) =
      Style.text new elements relationships := by
  by_cases hnone : elements = [] ∧ relationships = []
  · obtain ⟨rfl, rfl⟩ := hnone
    rfl
  · have hmade : (Style.block elements relationships).Made (Regular 0) (Regular 1) :=
      (Style.made_block htags hvalues).mono (fun _ => regular_of_isStatement)
        fun _ => regular_of_isHeader
    rw [Style.text_of_ne_nil hnone, Style.text_of_ne_nil hnone]
    exact Layout.reindent_render hmade width new

namespace Workspace

/-- Styles that are rendered first, at any width, and then handed over as a text give the same document, or
the same error, as styles that are added one by one. Where they have no text, neither way comes to a document
unless there is no place for them. -/
theorem serialize_withStylesText {w : Workspace} {additions : List Addition}
    {elements : List ElementStyle} {relationships : List RelationshipStyle}
    (hadditions : Addition.Reordered additions
      (elements.map .elementStyle ++ relationships.map .relationshipStyle))
    (hown : w.hasStyles = false) (htext : w.stylesText.getD "" = "")
    (htags : ∀ tag ∈ elements.map (·.tag) ++ relationships.map (·.tag), Consists Smooth tag)
    (hvalues : ∀ entry ∈ elements.flatMap ElementStyle.attributes ++
      relationships.flatMap RelationshipStyle.attributes, SmoothEnd entry.2) (width : Int) :
    (∀ styles, Style.render width elements relationships = .ok styles →
      (w.addAll additions).serialize = (w.withStylesText styles).serialize) ∧
    ∀ error, Style.render width elements relationships = .error error → w.viewsText.getD "" = "" →
      ∀ attachments, w.attachments = .ok attachments →
        (w.addAll additions).serialize = .error (.numeral error) := by
  rw [hasStyles, Bool.not_eq_false', Bool.and_eq_true, List.isEmpty_iff, List.isEmpty_iff] at hown
  rw [addAll_styles w hadditions, hown.1, hown.2, List.nil_append, List.nil_append]
  constructor
  case left =>
    intro styles hstyles
    obtain ⟨hwritable, rfl⟩ := Style.render_eq_ok_iff.mp hstyles
    have hadded : Document.stylesFragment (w.withStyles elements relationships w.stylesText) =
        .ok (Style.text w.settings.indentWidth elements relationships) :=
      stylesFragment_eq_ok_iff.mpr ⟨fun _ => hwritable, if_pos htext⟩
    have hhanded : w.withStylesText (Style.text width elements relationships) =
        w.withStyles [] [] (some (Style.text width elements relationships)) := by
      rw [withStylesText, withStyles, ← hown.1, ← hown.2]
    rw [hhanded]
    refine serialize_withStyles ?_
    -- an empty text counts as none, and it is rendered exactly where there are no styles
    rw [hadded, Document.stylesFragment]
    dsimp only [withStyles]
    split
    · rename_i hempty
      obtain ⟨rfl, rfl⟩ := Style.text_eq_empty_iff.mp (String.isEmpty_iff.mp hempty)
      rfl
    · rw [Style.reindent_text htags hvalues]
  case right =>
    intro error hstyles hviews attachments hattachments
    obtain ⟨hlarge, rfl⟩ := Style.render_eq_error_iff.mp hstyles
    exact serialize_of_not_writable hattachments fun hwritable => hlarge (hwritable hviews htext)

end Workspace

/-- White shelves, and thick lines between all that is related. -/
def Bookshop.shelfStyle : ElementStyle :=
  { tag := "Shelf", color := some "white", size := some (.number 3) }

def Bookshop.lineStyle : RelationshipStyle :=
  { thickness := some (.number 2), dashed := some false }

theorem Workspace.serialize_withStylesText_bookshop :
    (∃ text, (Bookshop.workspace.addAll
        [.relationshipStyle Bookshop.lineStyle, .elementStyle Bookshop.shelfStyle]).serialize = .ok text) ∧
      ∃ styles, Style.render 1 [Bookshop.shelfStyle] [Bookshop.lineStyle] = .ok styles ∧
        (Bookshop.workspace.addAll
          [.relationshipStyle Bookshop.lineStyle, .elementStyle Bookshop.shelfStyle]).serialize =
        (Bookshop.workspace.withStylesText styles).serialize := by
  constructor
  · refine exists_serialize_iff.mpr ⟨⟨Bookshop.placeable.distinct, Bookshop.placeable.containerParents,
      Bookshop.placeable.componentParents, Bookshop.placeable.viewsScoped⟩, by decide +kernel⟩
  · have hstyles : Style.render 1 [Bookshop.shelfStyle] [Bookshop.lineStyle] = .ok _ :=
      Style.render_eq_ok_iff.mpr ⟨by decide +kernel, rfl⟩
    refine ⟨_, hstyles, (serialize_withStylesText (fun row => ?_) rfl rfl (by decide) ?_ 1).1 _ hstyles⟩
    · cases row <;> rfl
    · have hattributes : [Bookshop.shelfStyle].flatMap ElementStyle.attributes ++
          [Bookshop.lineStyle].flatMap RelationshipStyle.attributes =
            [("color", "white"), ("size", "3"), ("thickness", "2"), ("dashed", "false")] := by
        decide
      simp only [hattributes, List.forall_mem_cons]
      exact ⟨⟨by decide, "whit".toList, 'e', rfl, by decide⟩, ⟨by decide, [], '3', rfl, by decide⟩,
        ⟨by decide, [], '2', rfl, by decide⟩, ⟨by decide, "fals".toList, 'e', rfl, by decide⟩,
        List.forall_mem_nil _⟩

namespace Layout

open Text (contentLines separateLines inked)

theorem contentLines_margin {text : String} (h : '\n' ∉ text.toList) (width : Int) (depth : Nat) :
    contentLines (margin width depth ++ text) = inked [text] := by
  have hfree : '\n' ∉ (margin width depth ++ text).toList := by
    rw [String.toList_append, List.mem_append, not_or]
    exact ⟨newline_not_mem_margin width depth, h⟩
  have hsame := Text.inked_between (allBlank_margin width depth) (List.forall_mem_nil _) text.toList
  rw [List.append_nil, String.ofList_append, String.ofList_toList, String.ofList_toList] at hsame
  rw [Text.contentLines_of_not_mem hfree, hsame]

/-- Nothing but the blanks around a line changes when it gets another margin. -/
theorem contentLines_reindentLines {lines : List String} (h : ∀ line ∈ lines, '\n' ∉ line.toList)
    (width : Int) (depth : Nat) :
    (reindentLines width depth lines).flatMap contentLines = inked lines := by
  induction lines generalizing depth with
  | nil => rfl
  | cons line rest ih =>
      obtain ⟨hline, hrest⟩ := List.forall_mem_cons.mp h
      rw [Text.inked_cons]
      cases hblank : Text.isBlankText line with
      | true =>
          rw [reindentLines_blank hblank, List.flatMap_cons, ih hrest, Text.contentLines_of_not_mem hline]
      | false =>
          have hstripped : '\n' ∉ (Text.strip line).toList := by
            rw [Text.strip, String.toList_ofList]
            exact fun hmem => hline (Text.mem_of_mem_stripBlanks hmem)
          rw [reindentLines_inked hblank, List.flatMap_cons, ih hrest, contentLines_margin hstripped,
            Text.inked_strip]

theorem contentLines_reindent (width : Int) (fragment : String) :
    contentLines (reindent width fragment) = separateLines fragment := by
  have hfree : ∀ line ∈ Text.splitLines fragment, '\n' ∉ line.toList := fun line hline hmem =>
    absurd (Text.unbroken_of_mem_splitLines hline '\n' hmem) (by decide)
  rw [reindent, Text.contentLines_joinLines, contentLines_reindentLines hfree, separateLines]

/-- A spliced fragment has on its lines what it has on its own. -/
theorem contentLines_spliced (width : Int) (depth : Nat) (fragment : String) :
    (linesOf width depth (spliced fragment)).flatMap contentLines = contentLines fragment := by
  rw [linesOf_eq_flatMap, spliced, List.flatMap_map, List.flatMap_assoc, contentLines,
    Text.inked_eq_flatMap]
  refine List.flatMap_congr fun line hline => ?_
  have hfree := Text.not_mem_of_mem_splitOnChar hline
  split
  · rename_i hblank
    rw [Text.inked_of_allBlank (Text.isBlankText_iff.mp hblank)]
    rfl
  · rw [Item.lines, List.flatMap_singleton, contentLines_margin hfree]

/-- What stands on the lines of a fragment stands together in the document that it is spliced into. -/
theorem contentLines_infix_block {fragment : String} {body : List Item}
    (h : spliced fragment <:+: body) (width : Int) (header : String) :
    contentLines fragment <:+: contentLines (render width [.block header body]) := by
  rw [render, Text.contentLines_joinLines, ← contentLines_spliced width 1 fragment]
  exact (linesOf_infix_block h header width 0).flatMap _

end Layout

open Text (BeginsInked EndsInked Unbroken contentLines separateLines)

namespace View

theorem infix_fragmentItems {fragment : String} {fragments : List String} (h : fragment ∈ fragments)
    (hsome : fragment ≠ "") (separate : Bool) :
    spliced fragment <:+: fragmentItems separate fragments := by
  induction fragments generalizing separate with
  | nil => cases h
  | cons first rest ih =>
      by_cases hempty : first = ""
      · rw [hempty] at h ⊢
        exact ih ((List.mem_cons.mp h).resolve_left hsome) separate
      · rw [fragmentItems_cons separate hempty]
        rcases List.mem_cons.mp h with rfl | h
        · exact List.infix_append _ _ _
        · exact (ih h true).trans (List.suffix_append _ _).isInfix

theorem contentLines_infix_renderAll {width : Int} {paths : Naming.PathMap} {views : List View}
    {styles configuration fragment text : String}
    (h : renderAll width paths views styles configuration = .ok text)
    (hfragment : fragment ∈ [styles, configuration]) : contentLines fragment <:+: contentLines text := by
  by_cases hempty : fragment = ""
  · rw [hempty]
    exact List.nil_infix
  · have hsome : ¬(views.isEmpty && styles.isEmpty && configuration.isEmpty) = true := by
      rintro hnothing
      simp only [Bool.and_eq_true, String.isEmpty_iff] at hnothing
      obtain ⟨⟨-, rfl⟩, rfl⟩ := hnothing
      simp [hempty] at hfragment
    rw [renderAll_eq h, if_neg hsome]
    exact contentLines_infix_block
      ((infix_fragmentItems hfragment hempty _).trans (List.suffix_append _ _).isInfix) _ _

end View

namespace Workspace

/-- The text is one of those rendered elsewhere that are put into the document: the views, or, if there are
none, the styles or the configuration. -/
def Embeds (w : Workspace) (fragment : String) : Prop :=
  w.viewsText = some fragment ∨
    w.viewsText.getD "" = "" ∧ (w.stylesText = some fragment ∨ w.configurationText = some fragment)

variable {w : Workspace} {fragment text : String}

theorem Embeds.infix_viewsFragment {paths : Naming.PathMap} (h : w.Embeds fragment)
    (htext : Document.viewsFragment w paths = .ok text) :
    separateLines fragment <:+: contentLines text := by
  by_cases hempty : fragment = ""
  · rw [hempty]
    exact List.nil_infix
  · have hsome : ¬fragment.isEmpty = true := by rwa [String.isEmpty_iff]
    rw [← contentLines_reindent w.settings.indentWidth]
    rcases h with hviews | ⟨hviews, hstyles | hconfiguration⟩
    · rw [Document.viewsFragment, hviews] at htext
      dsimp only at htext
      rw [if_neg hsome] at htext
      rw [Except.ok.inj htext]
    · have hfragment : w.plainStyles = reindent w.settings.indentWidth fragment := by
        rw [plainStyles, hstyles]
        exact if_neg hempty
      have hrender := ((viewsFragment_eq_ok_iff_of_none hviews).mp htext).2
      rw [hfragment] at hrender
      exact View.contentLines_infix_renderAll hrender List.mem_cons_self
    · have hrender := ((viewsFragment_eq_ok_iff_of_none hviews).mp htext).2
      rw [hconfiguration] at hrender
      exact View.contentLines_infix_renderAll hrender (List.mem_cons_of_mem _ List.mem_cons_self)

theorem Embeds.infix_serialize (h : w.Embeds fragment) (htext : w.serialize = .ok text) :
    separateLines fragment <:+: contentLines text := by
  obtain ⟨attachments, -, items, hitems, rfl⟩ := serialize_eq_ok_iff.mp htext
  obtain ⟨views, hviews, hitems⟩ := bind_eq_ok_iff.mp hitems
  obtain rfl := Except.ok.inj hitems
  refine (h.infix_viewsFragment hviews).trans ?_
  by_cases hempty : views.isEmpty = true
  · rw [String.isEmpty_iff.mp hempty]
    exact List.nil_infix
  · refine contentLines_infix_block ?_ _ _
    rw [if_neg hempty]
    exact (List.suffix_append [_, _, _, _] _).isInfix

/-- What indenting anew does to a text rendered elsewhere, and so what the document shows of it. The lines are
those between separators of all kinds; they are the lines between line feeds exactly if no other separator
stands inside one of these. A literal, or any other part that begins and ends with no blank, stands on one of
them exactly if there is no separator in it; then it is found in the document. -/
theorem fragments_serialize (fragment : String) :
    (∀ width, contentLines (reindent width fragment) = separateLines fragment ∧
      (contentLines (reindent width fragment) = contentLines fragment ↔
        ∀ line ∈ contentLines fragment, Unbroken line)) ∧
    (∀ part : String, part.toList <:+: fragment.toList → BeginsInked part.toList →
      EndsInked part.toList →
        ((∃ line ∈ separateLines fragment, part.toList <:+: line.toList) ↔ Unbroken part)) ∧
    ∀ (w : Workspace) text, w.Embeds fragment → w.serialize = .ok text →
      separateLines fragment <:+: contentLines text ∧
        ∀ part : String, part.toList <:+: fragment.toList → BeginsInked part.toList →
          EndsInked part.toList → Unbroken part →
            ∃ line ∈ contentLines text, part.toList <:+: line.toList := by
  have hparts : ∀ part : String, part.toList <:+: fragment.toList → BeginsInked part.toList →
      EndsInked part.toList →
        ((∃ line ∈ separateLines fragment, part.toList <:+: line.toList) ↔ Unbroken part) := by
    refine fun part hpart hbegins hends => ⟨?_, ?_⟩
    · rintro ⟨line, hline, hfound⟩ c hc
      exact Text.unbroken_of_mem_separateLines hline c (hfound.subset hc)
    · exact Text.exists_separateLine_of_infix hpart hbegins hends
  refine ⟨fun width => ⟨contentLines_reindent width fragment, ?_⟩, hparts,
    fun w text hembeds htext => ?_⟩
  · rw [contentLines_reindent]
    exact Text.separateLines_eq_contentLines_iff
  · have hlines := hembeds.infix_serialize htext
    refine ⟨hlines, fun part hpart hbegins hends hunbroken => ?_⟩
    obtain ⟨line, hline, hfound⟩ := (hparts part hpart hbegins hends).mpr hunbroken
    exact ⟨line, hlines.subset hline, hfound⟩

end Workspace

/-- Styles rendered elsewhere, with a line separator in a tag. -/
def Bookshop.tornStyles : String :=
  "styles \x7b\n\telement \"Big\u2028Shelf\" \x7b\n\t\tcolor white\n\t\x7d\n\x7d"

def Bookshop.torn : Workspace :=
  workspace.withStylesText tornStyles

/-- The tag comes apart on its way into the document. -/
theorem Workspace.fragments_torn :
    contentLines (reindent 4 Bookshop.tornStyles) ≠ contentLines Bookshop.tornStyles ∧
    (∃ text, Bookshop.torn.serialize = .ok text ∧
      ["styles \x7b", "element \"Big", "Shelf\" \x7b", "color white", "\x7d", "\x7d"] <:+:
        contentLines text) ∧
    (∃ line ∈ contentLines Bookshop.tornStyles, "\"Big\u2028Shelf\"".toList <:+: line.toList) ∧
    ¬∃ line ∈ separateLines Bookshop.tornStyles, "\"Big\u2028Shelf\"".toList <:+: line.toList := by
  have hcontent : contentLines Bookshop.tornStyles =
      ["styles \x7b", "element \"Big\u2028Shelf\" \x7b", "color white", "\x7d", "\x7d"] := by
    decide +kernel
  have hseparate : separateLines Bookshop.tornStyles =
      ["styles \x7b", "element \"Big", "Shelf\" \x7b", "color white", "\x7d", "\x7d"] := by
    decide +kernel
  have hstands : "\"Big\u2028Shelf\"".toList <:+: Bookshop.tornStyles.toList :=
    ⟨"styles \x7b\n\telement ".toList, " \x7b\n\t\tcolor white\n\t\x7d\n\x7d".toList, by decide⟩
  have htorn : ¬Unbroken "\"Big\u2028Shelf\"" := by decide
  obtain ⟨hlines, hparts, hdocument⟩ := fragments_serialize Bookshop.tornStyles
  refine ⟨?_, ?_, ?_, ?_⟩
  · rw [Ne, (hlines 4).2, hcontent]
    decide
  · obtain ⟨text, htext⟩ := exists_serialize_iff.mpr (show Bookshop.torn.Placeable ∧ _ from
      ⟨⟨Bookshop.placeable.distinct, Bookshop.placeable.containerParents,
        Bookshop.placeable.componentParents, Bookshop.placeable.viewsScoped⟩, by decide +kernel⟩)
    refine ⟨text, htext, ?_⟩
    rw [← hseparate]
    exact (hdocument _ _ (Or.inr ⟨rfl, Or.inl rfl⟩) htext).1
  · rw [hcontent]
    exact ⟨_, List.mem_cons_of_mem _ List.mem_cons_self, "element ".toList, " \x7b".toList, by decide⟩
  · rw [hparts _ hstands ⟨'"', _, rfl, by decide⟩ ⟨"\"Big\u2028Shelf".toList, '"', rfl, by decide⟩]
    exact htorn

end C4Model
