import C4Model.Proofs.Reading.Literals
import C4Model.Proofs.Workspace.Statements

/-! The literals at the end of a document: the titles of the views and the tags of the styles. They are found
in their order, and one without line feeds is found as it was written. One of several lines is not: the
blocks of views and of styles are spliced into the document, and its later lines are indented with
them. -/

namespace C4Model

open Hierarchy Layout Outline Reading
open Text (linesText)

theorem Reading.Unquoted.strip {text : String} (h : Unquoted text) : Unquoted (Text.strip text) := by
  intro c hc
  rw [Text.strip, String.toList_ofList] at hc
  exact h c (Text.mem_of_mem_stripBlanks hc)

/-- A line of one word and one text without quotes has no quotes. -/
theorem quote_not_mem_phrase {word text line : String} (hword : IsTerm word) (htext : Unquoted text)
    (hline : line.toList = phrase word [.bare text]) (width : Int) (depth : Nat) :
    '"' ∉ (margin width depth ++ line).toList := by
  have hspace : '"' ∉ [' '] := by decide
  have hchars : phrase word [.bare text] = word.toList ++ ([' '] ++ text.toList) := by
    simp [phrase, Part.chars]
  refine quote_not_mem_margin_append width depth ?_
  rw [hline, hchars, List.mem_append, List.mem_append, not_or, not_or]
  exact ⟨fun hmem => unquoted_of_isTerm hword _ hmem rfl, hspace, fun hmem => htext _ hmem rfl⟩

theorem Reading.holds_lines (width : Int) (depth further : Nat) {α : Type} {word text : α → String}
    {line : α → String} (list : List α)
    (hline : ∀ value ∈ list, (line value).toList = phrase (word value) [.bare (text value)])
    (hword : ∀ value ∈ list, IsTerm (word value)) (htext : ∀ value ∈ list, Unquoted (text value)) :
    Holds [] (linesText ((linesOf width further (list.map fun value => .line (line value))).flatMap
      (reflowed (margin width depth)))) := by
  have hnone : list.flatMap (fun _ => ([] : List String)) = [] := by simp
  rw [← hnone]
  refine holds_linesOf_map width depth further _ _ fun value hvalue => ?_
  rw [Item.lines, List.flatMap_singleton]
  exact holds_reflowed_nothing width depth
    (quote_not_mem_phrase (hword value hvalue) (htext value hvalue) (hline value hvalue) _ _)

/-- Of a view that is spliced, nothing but the title is in a literal. -/
theorem View.holds_block (width : Int) (depth further : Nat) {paths : Naming.PathMap}
    (hpaths : ∀ entry ∈ paths.paths, Naming.IsReference entry.2) {view : View}
    (h : ∀ text, .raw text ∈ view.included ++ view.excluded → Unquoted text) :
    Holds [carried (margin width depth) (underscored view.title)]
      (linesText (((view.block paths).lines width further).flatMap (reflowed (margin width depth)))) := by
  have hentry : ∀ ref ∈ view.included ++ view.excluded, Unquoted (View.entryText paths ref) := by
    intro ref href
    refine View.bare_entryText (fun ref => unquoted_of_isTerm (isTerm_resolve hpaths ref)) fun text htext => ?_
    rw [htext] at href
    exact (h text href).strip
  have hinclude : IsTerm "include" := by decide
  have hexclude : IsTerm "exclude" := by decide
  have hincluded := holds_lines width depth (further + 1) view.included
    (fun _ _ => Statement.toList_viewInclude _) (fun _ _ => hinclude)
    (fun ref href => hentry ref (List.mem_append_left _ href))
  have hexcluded := holds_lines width depth (further + 1) view.excluded
    (fun _ _ => Statement.toList_viewExclude _) (fun _ _ => hexclude)
    (fun ref href => hentry ref (List.mem_append_right _ href))
  refine Reading.holds_block width depth further
    (holds_reflowed_header width depth further view.viewType.isTerm_keyword
      (fun _ => view.bare_scope (isTerm_resolve hpaths)) (Statement.toList_viewOpen _ _ _)) ?_
  rw [View.entryItems, linesOf_append, List.flatMap_append, Text.linesText_append]
  exact hincluded.append hexcluded

theorem Style.holds_attributeLines (width : Int) (depth further : Nat)
    {attributes : List (String × String)} (hnames : ∀ entry ∈ attributes, IsTerm entry.1)
    (hvalues : ∀ entry ∈ attributes, Unquoted entry.2) :
    Holds [] (linesText ((linesOf width further (Style.attributeLines attributes)).flatMap
      (reflowed (margin width depth)))) :=
  holds_lines width depth further attributes
    (fun _ _ => Statement.toList_styleAttribute _ _) hnames hvalues

theorem Style.holds_item (width : Int) (depth further : Nat) {word tag opening : String}
    {attributes : List (String × String)}
    (hopening : opening.toList = phrase word [.literal tag] ++ " \x7b".toList) (hword : IsTerm word)
    (hnames : ∀ entry ∈ attributes, IsTerm entry.1) (hvalues : ∀ entry ∈ attributes, Unquoted entry.2) :
    Holds [carried (margin width depth) tag]
      (linesText (((Item.block opening (Style.attributeLines attributes)).lines width further).flatMap
        (reflowed (margin width depth)))) :=
  Reading.holds_block width depth further
    (holds_reflowed_header width depth further hword (List.forall_mem_nil _) hopening)
    (Style.holds_attributeLines width depth (further + 1) hnames hvalues)

/-- Of styles that are spliced, nothing but the tags is in literals. -/
theorem Style.holds_block (width : Int) (depth further : Nat) {elements : List ElementStyle}
    {relationships : List RelationshipStyle}
    (h : ∀ entry ∈ elements.flatMap ElementStyle.attributes ++
      relationships.flatMap RelationshipStyle.attributes, Unquoted entry.2) :
    Holds ((elements.map (·.tag) ++ relationships.map (·.tag)).map (carried (margin width depth)))
      (linesText (((Style.block elements relationships).lines width further).flatMap
        (reflowed (margin width depth)))) := by
  have hopen : '"' ∉ (margin width further ++ Statement.stylesOpen).toList :=
    quote_not_mem_margin_append width further (by decide)
  have helement : IsTerm "element" := by decide
  have hrelationship : IsTerm "relationship" := by decide
  have helements := holds_linesOf_map width depth (further + 1) Style.elementBlock
    (fun style => [carried (margin width depth) style.tag]) fun style hstyle =>
      Style.holds_item width depth (further + 1) (Statement.toList_elementStyleOpen _) helement
        style.isTerm_attributes
        fun entry hentry => h entry (List.mem_append_left _ (List.mem_flatMap_of_mem hstyle hentry))
  have hrelationships := holds_linesOf_map width depth (further + 1) Style.relationshipBlock
    (fun style => [carried (margin width depth) style.tag]) fun style hstyle =>
      Style.holds_item width depth (further + 1) (Statement.toList_relationshipStyleOpen _) hrelationship
        style.isTerm_attributes
        fun entry hentry => h entry (List.mem_append_right _ (List.mem_flatMap_of_mem hstyle hentry))
  have hbody := helements.append hrelationships
  rw [← List.map_eq_flatMap, ← List.map_eq_flatMap, ← Text.linesText_append, ← List.flatMap_append,
    ← linesOf_append] at hbody
  rw [List.map_append, List.map_map, List.map_map]
  have hlines :=
    Reading.holds_block width depth further (holds_reflowed_nothing width depth hopen) hbody
  rwa [List.nil_append] at hlines

namespace Workspace

variable {w : Workspace}

/-- The lines of the document before the views: its header and its model. -/
def frontLines (w : Workspace) (attachments : Attachments) : List String :=
  (margin w.settings.indentWidth 0 ++ Statement.workspaceOpen w.title w.summary) ::
    linesOf w.settings.indentWidth 1 [.line Statement.identifiersDirective, .blank,
      Document.modelItem w (w.named attachments) (pathMap (w.named attachments))]

/-- The texts of the literals behind the model: the titles of the views, with underscores for spaces, and the
tags of the styles. -/
def closingTexts (w : Workspace) : List String :=
  w.views.map (fun view => underscored view.title) ++ w.styleTags

/-- What becomes of these texts. The views are spliced at the first level, the styles at the second. -/
def carriedTexts (w : Workspace) : List String :=
  w.views.map (fun view => carried (margin w.settings.indentWidth 1) (underscored view.title)) ++
    w.styleTags.map (carried (margin w.settings.indentWidth 2))

theorem styleTags_of_not_hasStyles (h : w.hasStyles = false) : w.styleTags = [] := by
  rw [hasStyles, Bool.not_eq_false', Bool.and_eq_true, List.isEmpty_iff, List.isEmpty_iff] at h
  rw [styleTags, h.1, h.2]
  rfl

theorem holds_sectionLines {paths : Naming.PathMap}
    (hpaths : ∀ entry ∈ paths.paths, Naming.IsReference entry.2)
    (hothers : w.BareTexts Unquoted Unquoted) :
    Holds w.carriedTexts (linesText (w.sectionLines paths)) := by
  have hnone : Holds [] (linesText []) := holds_nothing List.not_mem_nil
  have hviews : Holds (w.views.map fun view =>
      carried (margin w.settings.indentWidth 1) (underscored view.title))
        (linesText (w.viewLines paths)) := by
    rw [List.map_eq_flatMap]
    exact holds_linesOf_map w.settings.indentWidth 1 1 _ _ fun view hview =>
      View.holds_block _ 1 1 hpaths (hothers.expressions view hview)
  have hstyles : Holds (w.styleTags.map (carried (margin w.settings.indentWidth 2)))
      (linesText w.styleLines) := by
    rw [styleLines]
    cases hsome : w.hasStyles with
    | false =>
        rw [styleTags_of_not_hasStyles hsome]
        exact hnone
    | true =>
        have hseparator : Holds [] (linesText (if w.views.isEmpty then [] else [""])) := by
          refine holds_nothing ?_
          cases w.views.isEmpty <;> decide
        rw [if_pos rfl, Text.linesText_append]
        exact hseparator.append (Style.holds_block _ 2 0 hothers.values)
  rw [sectionLines]
  split
  · rename_i hnothing
    rw [Bool.and_eq_true, Bool.not_eq_true', List.isEmpty_iff] at hnothing
    rw [carriedTexts, hnothing.1, styleTags_of_not_hasStyles hnothing.2]
    exact hnone
  · have hopen : Holds [] (linesText ["", margin w.settings.indentWidth 1 ++ Statement.viewsOpen]) := by
      refine holds_lines_nothing (List.forall_mem_cons.mpr ⟨by decide, List.forall_mem_singleton.mpr ?_⟩)
      exact quote_not_mem_margin_append _ 1 (by decide)
    have hclose : Holds [] (linesText [margin w.settings.indentWidth 1 ++ blockClose]) :=
      holds_lines_nothing (List.forall_mem_singleton.mpr
        (quote_not_mem_margin_append _ 1 (by decide)))
    rw [Text.linesText_append, Text.linesText_append, Text.linesText_append]
    have hall := ((hopen.append hviews).append hstyles).append hclose
    rwa [List.append_nil, List.nil_append] at hall

theorem carriedTexts_of_not_mem (h : ∀ held ∈ w.closingTexts, '\n' ∉ held.toList) :
    w.carriedTexts = w.closingTexts := by
  rw [closingTexts, List.forall_mem_append, List.forall_mem_map] at h
  have hviews : w.views.map (fun view =>
      carried (margin w.settings.indentWidth 1) (underscored view.title)) =
        w.views.map fun view => underscored view.title :=
    List.map_congr_left fun view hview => carried_of_not_mem (h.1 view hview) _
  have htags : w.styleTags.map (carried (margin w.settings.indentWidth 2)) = w.styleTags :=
    (List.map_congr_left fun tag htag => carried_of_not_mem (h.2 tag htag) _).trans (List.map_id _)
  rw [carriedTexts, closingTexts, hviews, htags]

theorem not_mem_of_carriedTexts_eq (hwidth : 0 < w.settings.indentWidth)
    (h : w.carriedTexts = w.closingTexts) : ∀ held ∈ w.closingTexts, '\n' ∉ held.toList := by
  obtain ⟨hviews, htags⟩ := List.append_inj h (by rw [List.length_map, List.length_map])
  rw [closingTexts, List.forall_mem_append, List.forall_mem_map]
  constructor
  · intro view hview
    exact (carried_eq_self_iff (margin_ne_empty hwidth Nat.one_pos)).mp
      (List.map_inj_left.mp hviews view hview)
  · intro tag htag
    exact (carried_eq_self_iff (margin_ne_empty hwidth Nat.two_pos)).mp
      (List.map_inj_left.mp (htags.trans (List.map_id _).symm) tag htag)

/-- In the literals behind the model of a document are the titles of its views and the tags of its styles,
each as splicing leaves it. With a margin these are the texts themselves only if all are of one line. -/
theorem literals_serialize {text : String} (h : w.serialize = .ok text) (hrenders : w.RendersAll)
    (hothers : w.BareTexts Unquoted Unquoted) :
    ∃ attachments lines, w.attachments = .ok attachments ∧
      text = Text.joinLines (w.frontLines attachments ++ lines ++ [blockClose]) ∧
      literals (linesText lines) = some w.carriedTexts ∧
      ((∀ held ∈ w.closingTexts, '\n' ∉ held.toList) →
        literals (linesText lines) = some w.closingTexts) ∧
      (0 < w.settings.indentWidth → literals (linesText lines) = some w.closingTexts →
        ∀ held ∈ w.closingTexts, '\n' ∉ held.toList) := by
  obtain ⟨attachments, hattachments, views, hviews, rfl⟩ := serialize_eq_ok_iff.mp h
  have hliterals := (holds_sectionLines (fun entry => isReference_of_mem_pathMap) hothers :
    Holds _ (linesText (w.sectionLines (pathMap (w.named attachments))))).literals
  refine ⟨attachments, w.sectionLines (pathMap (w.named attachments)), hattachments, ?_, hliterals,
    fun hfree => ?_, fun hwidth hsame => ?_⟩
  · have hlines := hrenders.linesOf_viewsSection hviews
    have hclose : margin w.settings.indentWidth 0 ++ blockClose = blockClose := by
      rw [margin_zero, String.empty_append]
    simp [render, frontLines, linesOf, Item.lines, hlines, hclose]
  · rw [hliterals, carriedTexts_of_not_mem hfree]
  · rw [hliterals] at hsame
    exact not_mem_of_carriedTexts_eq hwidth (Option.some.inj hsame)

end Workspace

/-- The bookshop with a title and a tag of two lines each. -/
def Bookshop.folded : Workspace :=
  { workspace with
    views := [⟨.systemLandscape, "All\nof it", none, [.raw "*"], []⟩]
    elementStyles := [{ tag := "Books\nShelf" }] }

/-- Neither is found as it was written: the second line of each has the margin of its block. -/
theorem Workspace.literals_folded :
    ∃ text lines, Bookshop.folded.serialize = .ok text ∧
      text = Text.joinLines (Bookshop.folded.frontLines
        ⟨[(Bookshop.shop.identity, Bookshop.stock)], [(Bookshop.stock.identity, Bookshop.shelf)]⟩ ++
          lines ++ [blockClose]) ∧
      Bookshop.folded.closingTexts = ["All\nof_it", "Books\nShelf"] ∧
      literals (linesText lines) = some ["All\n    of_it", "Books\n        Shelf"] := by
  have hplaceable : Bookshop.folded.Placeable :=
    ⟨Bookshop.placeable.distinct, Bookshop.placeable.containerParents,
      Bookshop.placeable.componentParents, by simp [Bookshop.folded, View.Scoped]⟩
  obtain ⟨text, htext⟩ := exists_serialize_iff.mpr ⟨hplaceable, by decide +kernel⟩
  have hothers : Bookshop.folded.BareTexts Unquoted Unquoted := by
    constructor
    · intro view hview text hmem
      obtain rfl := List.mem_singleton.mp hview
      obtain rfl := Reference.raw.inj (List.mem_singleton.mp hmem)
      decide
    · decide
  obtain ⟨attachments, lines, hattachments, hlines, hliterals, -⟩ :=
    literals_serialize htext ⟨rfl, rfl, rfl⟩ hothers
  obtain rfl := Except.ok.inj (Bookshop.attachments_eq.symm.trans hattachments)
  have hcarried : Bookshop.folded.carriedTexts = ["All\n    of_it", "Books\n        Shelf"] := by
    decide
  exact ⟨text, lines, htext, hlines, by decide, by rw [hliterals, hcarried]⟩

end C4Model
