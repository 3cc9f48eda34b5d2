import C4Model.Proofs.Layout.Codes
import C4Model.Proofs.Workspace.Statements

/-! Control sequences in whole documents. The words, identifiers and references of a document have none, so the
document has one exactly if a text that it shows has one: a name, a description, a technology, a title, an
expression, a tag or a value of a style. -/

namespace C4Model

open Layout Outline Outcome

/-- What is shown of the facts that a line tells of an element: all but the identity. -/
def shownFacts (facts : Identity × String × String × Option String) : List String :=
  facts.2.1 :: facts.2.2.1 :: facts.2.2.2.toList

/-- The texts in the line of an element. -/
def Element.shownTexts (element : Element) : List String :=
  shownFacts element.facts

def Relationship.shownTexts (relationship : Relationship) : List String :=
  relationship.description :: relationship.technology.toList

/-- The text that a reference is, if it stands for nothing but itself. -/
def Reference.text? : Reference → Option String
  | .raw text => some text
  | _ => none

/-- The title of a view and the expressions in it. -/
def View.shownTexts (view : View) : List String :=
  view.title :: (view.included ++ view.excluded).flatMap fun ref => ref.text?.toList

/-- All texts that the document of a workspace shows. -/
def Workspace.shownTexts (w : Workspace) : List String :=
  w.title :: w.summary :: w.placed.flatMap Element.shownTexts
    ++ w.relationships.flatMap Relationship.shownTexts ++ w.views.flatMap View.shownTexts
    ++ w.styleTags ++ w.styleAttributes.map Prod.snd

theorem Document.coded_declarationLine_iff {named : Named} (h : Naming.IsIdentifier named.identifier) :
    Coded (declarationLine named) ↔
      CodedAmong (named.name :: named.description :: named.technology.toList) := by
  have hkeyword : IsTerm named.keyword.text := by
    cases named.keyword <;> decide
  have hequals : IsTerm "=" := by decide
  rw [declarationLine, coded_iff_of_eq_phrase (Statement.toList_element _ _ _ _ _) (isTerm_of_isIdentifier h),
    List.map_append, codedAmong_append_iff, codedAmong_technologyParts_iff]
  simp [CodedAmong, Part.text, not_coded_of_isTerm hequals, not_coded_of_isTerm hkeyword, or_assoc]

theorem Document.coded_relationshipItem_iff {paths : Naming.PathMap}
    (hpaths : ∀ entry ∈ paths.paths, Naming.IsReference entry.2) (relationship : Relationship) :
    (relationshipItem paths relationship).Coded ↔ CodedAmong relationship.shownTexts := by
  have hend : ∀ endpoint, IsTerm (paths.resolveEndpoint endpoint) := isTerm_resolveEndpoint hpaths
  have harrow : IsTerm "->" := by decide
  rw [relationshipItem, Item.coded_line_iff,
    coded_iff_of_eq_phrase (Statement.toList_relationship _ _ _ _) (hend _), List.map_append,
    codedAmong_append_iff, codedAmong_technologyParts_iff]
  simp [CodedAmong, Part.text, not_coded_of_isTerm harrow, not_coded_of_isTerm (hend _), Relationship.shownTexts]

/-- Around what an element holds stands its line; a tag and braces have no control sequence. -/
theorem Document.coded_declarationItem_iff (named : Named) (children : List Item) :
    (declarationItem named children).Coded ↔
      Coded (declarationLine named) ∨ ∃ item ∈ children, item.Coded := by
  have hclosed : ∀ closing, Consists (fun c => ¬Console.IsCodeChar c) closing →
      (Coded (declarationLine named ++ closing) ↔ Coded (declarationLine named)) := by
    intro closing hclosing
    rw [Coded, String.toList_append, Console.hasCode_append_right_iff hclosing]
    rfl
  have hempty : Consists (fun c => ¬Console.IsCodeChar c) (emptyBody named.keyword) := by
    cases named.keyword <;> decide
  have hopen : Consists (fun c => ¬Console.IsCodeChar c) " \x7b" := by decide
  have htags : ¬Coded Statement.externalTags := Console.not_hasCode_of_not_mem (by decide)
  cases hexternal : named.external with
  | true => simp [declarationItem, hexternal, Item.coded_block_iff, Item.coded_line_iff, hclosed _ hopen, htags]
  | false =>
      cases children with
      | nil => simp [declarationItem, hexternal, Item.coded_line_iff, hclosed _ hempty]
      | cons child rest => simp [declarationItem, hexternal, Item.coded_block_iff, hclosed _ hopen]

mutual

theorem Document.coded_treeItem_iff (tree : Tree Named) :
    (treeItem tree).Coded ↔ ∃ named ∈ elements tree, Coded (declarationLine named) := by
  cases tree with
  | node named children =>
      rw [treeItem, coded_declarationItem_iff, exists_coded_forestItems_iff, elements, List.exists_mem_cons_iff]

theorem Document.exists_coded_forestItems_iff (forest : List (Tree Named)) :
    (∃ item ∈ forestItems forest, item.Coded) ↔
      ∃ named ∈ elementsOf forest, Coded (declarationLine named) := by
  cases forest with
  | nil => simp [forestItems, elementsOf]
  | cons tree rest =>
      rw [forestItems, List.exists_mem_cons_iff, coded_treeItem_iff, exists_coded_forestItems_iff, elementsOf]
      simp only [List.mem_append, or_and_right, exists_or]

end

theorem View.coded_entryText_iff {paths : Naming.PathMap}
    (hpaths : ∀ entry ∈ paths.paths, Naming.IsReference entry.2) (ref : Reference) :
    Coded (entryText paths ref) ↔ CodedAmong ref.text?.toList := by
  have hresolved := not_coded_of_isTerm (isTerm_resolve hpaths ref)
  cases ref with
  | raw text => simp [entryText, Reference.text?, CodedAmong, coded_strip_iff]
  | identity identity => simpa [entryText, Reference.text?, CodedAmong] using hresolved
  | element element => simpa [entryText, Reference.text?, CodedAmong] using hresolved

/-- What a view holds has a control sequence exactly if one of its expressions has. -/
theorem View.exists_coded_entryItems_iff {paths : Naming.PathMap}
    (hpaths : ∀ entry ∈ paths.paths, Naming.IsReference entry.2) (view : View) :
    (∃ item ∈ view.entryItems paths, item.Coded) ↔
      CodedAmong ((view.included ++ view.excluded).flatMap fun ref => ref.text?.toList) := by
  have hinclude : ∀ text, Coded (Statement.viewInclude text) ↔ Coded text := by
    intro text
    have hword : IsTerm "include" := by decide
    rw [coded_iff_of_eq_phrase (Statement.toList_viewInclude text) hword]
    simp [CodedAmong, Part.text]
  have hexclude : ∀ text, Coded (Statement.viewExclude text) ↔ Coded text := by
    intro text
    have hword : IsTerm "exclude" := by decide
    rw [coded_iff_of_eq_phrase (Statement.toList_viewExclude text) hword]
    simp [CodedAmong, Part.text]
  have hentries : (∃ item ∈ view.entryItems paths, item.Coded) ↔
      ∃ ref ∈ view.included ++ view.excluded, Coded (entryText paths ref) := by
    simp [entryItems, or_and_right, exists_or, Item.coded_line_iff, hinclude, hexclude]
  rw [hentries, codedAmong_flatMap_iff]
  simp only [coded_entryText_iff hpaths]

theorem View.coded_block_iff {paths : Naming.PathMap}
    (hpaths : ∀ entry ∈ paths.paths, Naming.IsReference entry.2) (view : View) :
    (view.block paths).Coded ↔ CodedAmong view.shownTexts := by
  have hheader : Coded (Statement.viewOpen view.viewType.keyword
      (if view.viewType.takesScope then view.element.map paths.resolve else none)
      (Naming.viewKey view.title)) ↔ Coded view.title := by
    have hscope : ∀ scope ∈ (if view.viewType.takesScope then view.element.map paths.resolve else none).toList,
        ¬Coded scope := fun scope hmem =>
      not_coded_of_isTerm (View.bare_scope (isTerm_resolve hpaths) view hmem)
    have hnone : ¬CodedAmong ((if view.viewType.takesScope then view.element.map paths.resolve
        else none).toList.map fun scope => (Part.bare scope).text) := by
      rw [codedAmong_map_iff]
      rintro ⟨scope, hmem, hcoded⟩
      exact hscope scope hmem hcoded
    rw [coded_iff_of_phrase (Statement.toList_viewOpen _ _ _) view.viewType.isTerm_keyword (by decide),
      List.map_append, List.map_map, codedAmong_append_iff]
    refine (or_iff_right hnone).trans ?_
    simp [CodedAmong, Part.text, coded_underscored_iff]
  rw [block, Item.coded_block_iff, hheader, exists_coded_entryItems_iff hpaths, View.shownTexts,
    codedAmong_cons_iff]

theorem Style.coded_item_iff {word tag opening : String} {attributes : List (String × String)}
    (hopening : opening.toList = phrase word [.literal tag] ++ " \x7b".toList) (hword : IsTerm word)
    (hnames : ∀ entry ∈ attributes, IsTerm entry.1) :
    (Item.block opening (Style.attributeLines attributes)).Coded ↔
      Coded tag ∨ CodedAmong (attributes.map Prod.snd) := by
  have hattribute : ∀ entry ∈ attributes,
      (Coded (Statement.styleAttribute entry.1 entry.2) ↔ Coded entry.2) := by
    intro entry hentry
    rw [coded_iff_of_eq_phrase (Statement.toList_styleAttribute _ _) (hnames entry hentry)]
    simp [CodedAmong, Part.text]
  have hattributes : (∃ item ∈ Style.attributeLines attributes, item.Coded) ↔
      CodedAmong (attributes.map Prod.snd) := by
    simp only [codedAmong_map_iff, Style.attributeLines, List.mem_map, exists_exists_and_eq_and,
      Item.coded_line_iff]
    exact exists_congr fun entry => and_congr_right (hattribute entry)
  rw [Item.coded_block_iff, coded_iff_of_phrase hopening hword (by decide), hattributes]
  simp [CodedAmong, Part.text]

theorem Style.coded_block_iff (elements : List ElementStyle) (relationships : List RelationshipStyle) :
    (Style.block elements relationships).Coded ↔
      CodedAmong (elements.map (·.tag) ++ relationships.map (·.tag)) ∨
        CodedAmong ((elements.flatMap ElementStyle.attributes ++
          relationships.flatMap RelationshipStyle.attributes).map Prod.snd) := by
  have hopen : ¬Coded Statement.stylesOpen := Console.not_hasCode_of_not_mem (by decide)
  have helement : IsTerm "element" := by decide
  have hrelationship : IsTerm "relationship" := by decide
  have helements : ∀ style : ElementStyle, (elementBlock style).Coded ↔ _ := fun style =>
    coded_item_iff (Statement.toList_elementStyleOpen style.tag) helement style.isTerm_attributes
  have hrelationships : ∀ style : RelationshipStyle, (relationshipBlock style).Coded ↔ _ := fun style =>
    coded_item_iff (Statement.toList_relationshipStyleOpen style.tag) hrelationship style.isTerm_attributes
  rw [Style.block, Item.coded_block_iff, or_iff_right hopen, List.map_append, codedAmong_append_iff,
    codedAmong_append_iff, List.map_flatMap, List.map_flatMap, codedAmong_flatMap_iff, codedAmong_flatMap_iff,
    codedAmong_map_iff, codedAmong_map_iff]
  simp only [List.mem_append, List.mem_map, or_and_right, exists_or, exists_exists_and_eq_and, helements,
    hrelationships, and_or_left]
  exact or_or_or_comm

theorem View.exists_coded_fragmentItems_iff (separate : Bool) (fragments : List String) :
    (∃ item ∈ fragmentItems separate fragments, item.Coded) ↔ CodedAmong fragments := by
  induction fragments generalizing separate with
  | nil => simp [fragmentItems, CodedAmong]
  | cons fragment rest ih =>
      rw [fragmentItems, codedAmong_cons_iff, ← ih true]
      split
      case isTrue hempty =>
        have hnone : ¬Coded fragment := by
          rw [String.isEmpty_iff.mp hempty]
          exact Console.not_hasCode_nil
        rw [or_iff_right hnone, ih, ih]
      case isFalse =>
        rw [← exists_coded_spliced_iff fragment]
        cases separate <;> simp [or_and_right, exists_or, Item.not_coded_blank]

theorem Style.coded_text_iff (width : Int) (elements : List ElementStyle)
    (relationships : List RelationshipStyle) : Coded (Style.text width elements relationships) ↔
      CodedAmong (elements.map (·.tag) ++ relationships.map (·.tag)) ∨
        CodedAmong ((elements.flatMap ElementStyle.attributes ++
          relationships.flatMap RelationshipStyle.attributes).map Prod.snd) := by
  rw [Style.text]
  split
  case isTrue hnothing =>
    rw [Bool.and_eq_true, List.isEmpty_iff, List.isEmpty_iff] at hnothing
    have hempty : ¬Coded "" := Console.not_hasCode_nil
    simp [hnothing.1, hnothing.2, CodedAmong, hempty]
  case isFalse =>
    exact (coded_render_block_iff width _ _).trans
      (Item.coded_block_iff.symm.trans (coded_block_iff elements relationships))

/-- Rendered views have a control sequence exactly if a view has one, or a fragment that stands in the block. -/
theorem View.coded_renderAll_iff {paths : Naming.PathMap}
    (hpaths : ∀ entry ∈ paths.paths, Naming.IsReference entry.2) {width : Int} {views : List View}
    {styles configuration text : String} (h : renderAll width paths views styles configuration = .ok text) :
    Coded text ↔ CodedAmong (views.flatMap View.shownTexts) ∨ CodedAmong [styles, configuration] := by
  have hempty : ¬Coded "" := Console.not_hasCode_nil
  rw [renderAll_eq h]
  split
  case isTrue hnothing =>
    rw [Bool.and_eq_true, Bool.and_eq_true, List.isEmpty_iff, String.isEmpty_iff, String.isEmpty_iff] at hnothing
    simp [hnothing.1.1, hnothing.1.2, hnothing.2, CodedAmong, hempty]
  case isFalse =>
    have hopen : ¬Coded Statement.viewsOpen := Console.not_hasCode_of_not_mem (by decide)
    rw [coded_render_block_iff, or_iff_right hopen,
      ← exists_coded_fragmentItems_iff (!views.isEmpty) [styles, configuration], codedAmong_flatMap_iff]
    simp [or_and_right, exists_or, coded_block_iff hpaths]

namespace Workspace

variable {w : Workspace} {attachments : Hierarchy.Attachments} {text : String}

theorem AttachesAs.coded_modelItem_iff (h : w.AttachesAs attachments) :
    (Document.modelItem w (w.named attachments) (pathMap (w.named attachments))).Coded ↔
      CodedAmong (w.placed.flatMap Element.shownTexts) ∨
        CodedAmong (w.relationships.flatMap Relationship.shownTexts) := by
  have hopen : ¬Coded Statement.modelOpen := Console.not_hasCode_of_not_mem (by decide)
  have hforest : (∃ item ∈ Document.forestItems (w.named attachments), item.Coded) ↔
      ∃ element ∈ w.placed, CodedAmong element.shownTexts := by
    rw [Document.exists_coded_forestItems_iff]
    calc (∃ named ∈ elementsOf (w.named attachments), Coded (Document.declarationLine named))
        ↔ ∃ named ∈ elementsOf (w.named attachments), CodedAmong (shownFacts named.toPlaced.facts) :=
          exists_congr fun named => and_congr_right fun hnamed =>
            Document.coded_declarationLine_iff (isIdentifier_named hnamed)
      _ ↔ ∃ facts ∈ (w.walked attachments).map Element.facts, CodedAmong (shownFacts facts) := by
          rw [← w.facts_named]
          simp only [List.mem_map, exists_exists_and_eq_and]
      _ ↔ ∃ element ∈ w.walked attachments, CodedAmong element.shownTexts := by
          simp only [List.mem_map, exists_exists_and_eq_and]
          rfl
      _ ↔ ∃ element ∈ w.placed, CodedAmong element.shownTexts := by
          simp only [h.walked_perm_placed.mem_iff]
  have hrelationships : (∃ item ∈ w.relationships.map (Document.relationshipItem (pathMap (w.named attachments))),
      item.Coded) ↔ ∃ relationship ∈ w.relationships, CodedAmong relationship.shownTexts := by
    simp [Document.coded_relationshipItem_iff fun entry => isReference_of_mem_pathMap]
  rw [Document.modelItem, Item.coded_block_iff, or_iff_right hopen, codedAmong_flatMap_iff, codedAmong_flatMap_iff,
    ← hforest, ← hrelationships]
  simp only [List.mem_append, or_and_right, exists_or]

theorem RendersAll.exists_coded_viewsSection_iff (h : w.RendersAll) {paths : Naming.PathMap}
    (hpaths : ∀ entry ∈ paths.paths, Naming.IsReference entry.2) {items : List Item}
    (hitems : Document.viewsSection w paths = .ok items) :
    (∃ item ∈ items, item.Coded) ↔ CodedAmong (w.views.flatMap View.shownTexts) ∨
      CodedAmong w.styleTags ∨ CodedAmong (w.styleAttributes.map Prod.snd) := by
  have hempty : ¬Coded "" := Console.not_hasCode_nil
  obtain ⟨fragment, hfragment, hspliced⟩ := bind_eq_ok_iff.mp hitems
  obtain rfl := Except.ok.inj hspliced
  have hwhole : (∃ item ∈ (if fragment.isEmpty then [] else .blank :: spliced fragment), item.Coded) ↔
      Coded fragment := by
    split
    case isTrue hnothing =>
      rw [String.isEmpty_iff.mp hnothing]
      simp [hempty]
    case isFalse => rw [List.exists_mem_cons_iff, or_iff_right Item.not_coded_blank, exists_coded_spliced_iff]
  have hrender := (h.viewsFragment_eq_ok_iff.mp hfragment).2
  rw [hwhole, View.coded_renderAll_iff hpaths hrender, codedAmong_cons_iff, plainStyles, if_pos h.styles,
    Style.coded_text_iff]
  simp [CodedAmong, hempty, styleTags, styleAttributes]

/-- A document of which nothing is rendered elsewhere has a control sequence exactly if one of the texts that it
shows has one. -/
theorem coded_serialize_iff (hrenders : w.RendersAll) (h : w.serialize = .ok text) :
    Coded text ↔ CodedAmong w.shownTexts := by
  obtain ⟨attachments, hattachments, views, hviews, rfl⟩ := serialize_eq_ok_iff.mp h
  have hattaches := attachesAs_of_attachments hattachments
  have hdirective : ¬Coded Statement.identifiersDirective := Console.not_hasCode_of_not_mem (by decide)
  have hword : IsTerm "workspace" := by decide
  have hheader : Coded (Statement.workspaceOpen w.title w.summary) ↔ Coded w.title ∨ Coded w.summary := by
    rw [coded_iff_of_phrase (Statement.toList_workspaceOpen _ _) hword (by decide)]
    simp [CodedAmong, Part.text]
  rw [coded_render_block_iff, hheader, List.exists_mem_cons_iff, List.exists_mem_cons_iff, List.exists_mem_cons_iff,
    Item.coded_line_iff, or_iff_right hdirective, or_iff_right Item.not_coded_blank, hattaches.coded_modelItem_iff,
    hrenders.exists_coded_viewsSection_iff (fun entry => isReference_of_mem_pathMap) hviews]
  simp only [shownTexts, codedAmong_cons_iff, codedAmong_append_iff, or_assoc]

end Workspace

end C4Model
