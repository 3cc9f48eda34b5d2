import C4Model.Proofs.Layout.Reflow
import C4Model.Proofs.Layout.Wording
import C4Model.Proofs.Reading.Document
import C4Model.Proofs.View.Section

/-! The lines of a whole document, in words and literals. Every line that comes from a workspace has a word in
front and no other parts than words, literals of its texts, expressions of its views and values of its
styles. So a document is of one kind throughout as soon as these are. -/

namespace C4Model

open Layout Outline

/-- The attributes of all styles of a workspace, with their values as they are written. -/
def Workspace.styleAttributes (w : Workspace) : List (String × String) :=
  w.elementStyles.flatMap ElementStyle.attributes ++
    w.relationshipStyles.flatMap RelationshipStyle.attributes

/-- The tags of all styles, in the order in which they are written. -/
def Workspace.styleTags (w : Workspace) : List String :=
  w.elementStyles.map (·.tag) ++ w.relationshipStyles.map (·.tag)

/-- The texts of a workspace that stand as they are, outside literals: expressions in views and values of
styles. -/
structure Workspace.BareTexts (w : Workspace) (expression value : String → Prop) : Prop where
  expressions : ∀ view ∈ w.views, ∀ text, .raw text ∈ view.included ++ view.excluded → expression text
  values : ∀ entry ∈ w.styleAttributes, value entry.2

/-- The texts of a workspace that stand in literals: names, descriptions, technologies, titles and tags. -/
structure Workspace.LiteralTexts (w : Workspace) (allowed : Char → Prop) : Prop where
  title : Consists allowed w.title
  summary : Consists allowed w.summary
  names : ∀ element ∈ w.placed, Consists allowed element.name
  descriptions : ∀ element ∈ w.placed, Consists allowed element.description
  technologies : ∀ component, .component component ∈ w.placed →
    ∀ text ∈ component.technology, Consists allowed text
  relationships : ∀ relationship ∈ w.relationships,
    ∀ text ∈ relationship.description :: relationship.technology.toList, Consists allowed text
  views : ∀ view ∈ w.views, Consists allowed view.title
  tags : ∀ tag ∈ w.styleTags, Consists allowed tag

/-- What a line says of an element is what the element says itself. -/
def Placed.Shows (placed : Placed) (element : Element) : Prop :=
  placed.name = element.name ∧ placed.description = element.description ∧
    ∀ text ∈ placed.technology, ∃ component, element = .component component ∧
      text ∈ component.technology

theorem Workspace.AttachesAs.exists_shown_named {w : Workspace} {attachments : Hierarchy.Attachments}
    (h : w.AttachesAs attachments) {named : Named} (hnamed : named ∈ elementsOf (w.named attachments)) :
    ∃ element ∈ w.placed, named.toPlaced.Shows element := by
  have hmem : named.toPlaced.facts ∈ (w.walked attachments).map Element.facts := by
    rw [← w.facts_named]
    exact List.mem_map_of_mem hnamed
  obtain ⟨element, helement, hfacts⟩ := List.mem_map.mp hmem
  obtain ⟨-, hname, hdescription, htechnology⟩ : _ ∧ _ ∧ _ ∧ _ := by
    simpa only [Element.facts, Placed.facts, Prod.mk.injEq] using hfacts
  refine ⟨element, h.walked_perm_placed.mem_iff.mp helement, hname.symm, hdescription.symm,
    fun text htext => ?_⟩
  rw [← htechnology] at htext
  cases element with
  | component component => exact ⟨component, rfl, htext⟩
  | _ => cases htext

theorem isTerm_resolveEndpoint {paths : Naming.PathMap}
    (hpaths : ∀ entry ∈ paths.paths, Naming.IsReference entry.2) (endpoint : Endpoint) :
    IsTerm (paths.resolveEndpoint endpoint) :=
  isTerm_of_isReference (Reading.isReference_resolveEndpoint hpaths endpoint)

theorem isTerm_resolve {paths : Naming.PathMap}
    (hpaths : ∀ entry ∈ paths.paths, Naming.IsReference entry.2) (ref : Reference) :
    IsTerm (paths.resolve ref) :=
  isTerm_resolveEndpoint hpaths ref.endpoint

section Made

variable {bare literal : String → Prop}

theorem Document.worded_declarationLine (hbare : ∀ text, IsTerm text → bare text)
    {named : Named}
    (hidentifier : Naming.IsIdentifier named.identifier) (hname : literal named.name)
    (hdescription : literal named.description)
    (htechnology : ∀ text ∈ named.technology, literal text) :
    Worded bare literal "" (Document.declarationLine named) := by
  have hkeyword : IsTerm named.keyword.text := by
    cases named.keyword <;> decide
  have hequals : IsTerm "=" := by decide
  refine worded_of_eq_phrase (Statement.toList_element _ _ _ _ _)
    (isTerm_of_isIdentifier hidentifier) fun part hpart => ?_
  rcases List.mem_append.mp hpart with hpart | hpart
  · simp only [List.mem_cons, List.not_mem_nil, or_false] at hpart
    rcases hpart with rfl | rfl | rfl | rfl
    · exact hbare _ hequals
    · exact hbare _ hkeyword
    · exact hname
    · exact hdescription
  · exact of_mem_technologyParts htechnology hpart

mutual

theorem Document.made_treeItem {tree : Tree Named}
    (htags : Worded bare literal "" Statement.externalTags)
    (h : ∀ named ∈ elements tree, Worded bare literal "" (Document.declarationLine named)) :
    (Document.treeItem tree).Made (IsStatement bare literal) (IsHeader bare literal) := by
  cases tree with
  | node named children =>
      have hnamed := h named List.mem_cons_self
      rw [Document.treeItem, Reading.declarationItem_eq]
      split
      · refine .line ?_
        cases named.keyword with
        | person | component => exact Or.inl (hnamed.closed "")
        | softwareSystem | container => exact Or.inr (hnamed.closed " \x7b\x7d")
      · refine .block (hnamed.closed " \x7b") fun item hitem => ?_
        rcases List.mem_append.mp hitem with hitem | hitem
        · split at hitem
          · obtain rfl := List.mem_singleton.mp hitem
            exact .line (Or.inl htags)
          · cases hitem
        · exact made_forestItems htags (fun other hother => h other (List.mem_cons_of_mem _ hother))
            item hitem

theorem Document.made_forestItems {forest : List (Tree Named)}
    (htags : Worded bare literal "" Statement.externalTags)
    (h : ∀ named ∈ elementsOf forest, Worded bare literal "" (Document.declarationLine named)) :
    ∀ item ∈ Document.forestItems forest,
      item.Made (IsStatement bare literal) (IsHeader bare literal) := by
  cases forest with
  | nil => exact fun _ hitem => absurd hitem List.not_mem_nil
  | cons tree rest =>
      rw [Document.forestItems, List.forall_mem_cons]
      exact ⟨made_treeItem htags fun named hnamed => h named (List.mem_append_left _ hnamed),
        made_forestItems htags fun named hnamed => h named (List.mem_append_right _ hnamed)⟩

end

theorem Document.made_relationshipItem (hbare : ∀ text, IsTerm text → bare text)
    {paths : Naming.PathMap}
    (hpaths : ∀ entry ∈ paths.paths, Naming.IsReference entry.2) {relationship : Relationship}
    (h : ∀ text ∈ relationship.description :: relationship.technology.toList, literal text) :
    (Document.relationshipItem paths relationship).Made (IsStatement bare literal)
      (IsHeader bare literal) := by
  have hend : ∀ endpoint, IsTerm (paths.resolveEndpoint endpoint) := isTerm_resolveEndpoint hpaths
  have harrow : IsTerm "->" := by decide
  obtain ⟨hdescription, htechnology⟩ := List.forall_mem_cons.mp h
  refine .line (Or.inl (worded_of_eq_phrase (Statement.toList_relationship _ _ _ _) (hend _)
    fun part hpart => ?_))
  rcases List.mem_append.mp hpart with hpart | hpart
  · simp only [List.mem_cons, List.not_mem_nil, or_false] at hpart
    rcases hpart with rfl | rfl | rfl
    · exact hbare _ harrow
    · exact hbare _ (hend _)
    · exact hdescription
  · exact of_mem_technologyParts (fun text htext => htechnology text (Option.mem_toList.mpr htext))
      hpart

/-- An entry of a view is a reference, or an expression without the blanks around it. -/
theorem View.bare_entryText {paths : Naming.PathMap} (hresolve : ∀ ref, bare (paths.resolve ref))
    {ref : Reference} (h : ∀ text, ref = .raw text → bare (Text.strip text)) :
    bare (View.entryText paths ref) := by
  cases ref with
  | raw text => exact h text rfl
  | identity identity => exact hresolve (.identity identity)
  | element element => exact hresolve (.element element)

theorem ViewType.isTerm_keyword (viewType : ViewType) : IsTerm viewType.keyword := by
  cases viewType <;> decide

/-- What stands in the header of a view for the element that it is about. -/
theorem View.bare_scope {paths : Naming.PathMap} (hresolve : ∀ ref, bare (paths.resolve ref))
    (view : View) {scope : String}
    (hscope : scope ∈ (if view.viewType.takesScope then view.element.map paths.resolve
      else none).toList) : bare scope := by
  rw [Option.mem_toList] at hscope
  split at hscope
  · obtain ⟨element, -, rfl⟩ := Option.map_eq_some_iff.mp hscope
    exact hresolve element
  · cases hscope

theorem View.made_block {paths : Naming.PathMap} (hresolve : ∀ ref, bare (paths.resolve ref))
    {view : View} (htitle : literal (underscored view.title))
    (h : ∀ text, .raw text ∈ view.included ++ view.excluded → bare (Text.strip text)) :
    (view.block paths).Made (IsStatement bare literal) (IsHeader bare literal) := by
  have hentry : ∀ ref ∈ view.included ++ view.excluded, bare (View.entryText paths ref) := by
    intro ref href
    refine View.bare_entryText hresolve fun text htext => h text ?_
    rwa [← htext]
  refine .block (worded_of_phrase (Statement.toList_viewOpen _ _ _) view.viewType.isTerm_keyword
    fun part hpart => ?_) fun item hitem => ?_
  · rcases List.mem_append.mp hpart with hpart | hpart
    · obtain ⟨scope, hscope, rfl⟩ := List.mem_map.mp hpart
      exact view.bare_scope hresolve hscope
    · rw [List.mem_singleton.mp hpart]
      exact htitle
  · have hinclude : IsTerm "include" := by decide
    have hexclude : IsTerm "exclude" := by decide
    rcases List.mem_append.mp hitem with hitem | hitem
    · obtain ⟨ref, href, rfl⟩ := List.mem_map.mp hitem
      refine .line (Or.inl (worded_of_eq_phrase (Statement.toList_viewInclude _) hinclude
        fun part hpart => ?_))
      rw [List.mem_singleton.mp hpart]
      exact hentry ref (List.mem_append_left _ href)
    · obtain ⟨ref, href, rfl⟩ := List.mem_map.mp hitem
      refine .line (Or.inl (worded_of_eq_phrase (Statement.toList_viewExclude _) hexclude
        fun part hpart => ?_))
      rw [List.mem_singleton.mp hpart]
      exact hentry ref (List.mem_append_right _ href)

theorem Style.made_attributeLines {attributes : List (String × String)}
    (hnames : ∀ entry ∈ attributes, IsTerm entry.1) (h : ∀ entry ∈ attributes, bare entry.2) :
    ∀ item ∈ Style.attributeLines attributes,
      item.Made (IsStatement bare literal) (IsHeader bare literal) := by
  intro item hitem
  obtain ⟨entry, hentry, rfl⟩ := List.mem_map.mp hitem
  refine .line (Or.inl (worded_of_eq_phrase (Statement.toList_styleAttribute _ _) (hnames entry hentry)
    fun part hpart => ?_))
  rw [List.mem_singleton.mp hpart]
  exact h entry hentry

theorem isTerm_of_mem_presentAttributes {attributes : List (String × Option StyleValue)}
    (h : ∀ name ∈ attributes.map Prod.fst, IsTerm name) :
    ∀ entry ∈ presentAttributes attributes, IsTerm entry.1 := by
  intro entry hentry
  obtain ⟨⟨name, value⟩, hmem, hvalue⟩ := List.mem_filterMap.mp hentry
  obtain ⟨set, -, rfl⟩ := Option.map_eq_some_iff.mp hvalue
  exact h name (List.mem_map_of_mem hmem)

theorem ElementStyle.isTerm_attributes (style : ElementStyle) :
    ∀ entry ∈ style.attributes, IsTerm entry.1 := by
  have hnames : ∀ name ∈ ["background", "color", "shape", "size", "stroke", "strokeWidth"],
      IsTerm name := by decide
  exact List.forall_mem_map.mpr (isTerm_of_mem_presentAttributes hnames)

theorem RelationshipStyle.isTerm_attributes (style : RelationshipStyle) :
    ∀ entry ∈ style.attributes, IsTerm entry.1 := by
  have hnames : ∀ name ∈ ["thickness", "color", "router", "dashed"], IsTerm name := by decide
  exact List.forall_mem_map.mpr (isTerm_of_mem_presentAttributes hnames)

/-- A style with its tag in the header and its attributes inside. -/
theorem Style.made_item {word tag opening : String} {attributes : List (String × String)}
    (hopening : opening.toList = phrase word [.literal tag] ++ " \x7b".toList) (hword : IsTerm word)
    (htag : literal tag) (hnames : ∀ entry ∈ attributes, IsTerm entry.1)
    (hvalues : ∀ entry ∈ attributes, bare entry.2) :
    (Item.block opening (Style.attributeLines attributes)).Made (IsStatement bare literal)
      (IsHeader bare literal) :=
  .block (worded_of_phrase hopening hword (List.forall_mem_singleton.mpr htag))
    (Style.made_attributeLines hnames hvalues)

theorem Style.made_block {elements : List ElementStyle} {relationships : List RelationshipStyle}
    (htags : ∀ tag ∈ elements.map (·.tag) ++ relationships.map (·.tag), literal tag)
    (hvalues : ∀ entry ∈ elements.flatMap ElementStyle.attributes ++
      relationships.flatMap RelationshipStyle.attributes, bare entry.2) :
    (Style.block elements relationships).Made (IsStatement bare literal) (IsHeader bare literal) := by
  have hopen : IsTerm "styles" := by decide
  have helement : IsTerm "element" := by decide
  have hrelationship : IsTerm "relationship" := by decide
  refine .block (worded_of_phrase rfl hopen (List.forall_mem_nil _)) fun item hitem => ?_
  rcases List.mem_append.mp hitem with hitem | hitem
  · obtain ⟨style, hstyle, rfl⟩ := List.mem_map.mp hitem
    exact Style.made_item (Statement.toList_elementStyleOpen _) helement
      (htags _ (List.mem_append_left _ (List.mem_map_of_mem hstyle))) style.isTerm_attributes
      fun entry hentry => hvalues entry (List.mem_append_left _ (List.mem_flatMap_of_mem hstyle hentry))
  · obtain ⟨style, hstyle, rfl⟩ := List.mem_map.mp hitem
    exact Style.made_item (Statement.toList_relationshipStyleOpen _) hrelationship
      (htags _ (List.mem_append_right _ (List.mem_map_of_mem hstyle))) style.isTerm_attributes
      fun entry hentry => hvalues entry (List.mem_append_right _ (List.mem_flatMap_of_mem hstyle hentry))

end Made

namespace Workspace

variable {w : Workspace} {attachments : Hierarchy.Attachments} {bare : String → Prop}
  {allowed : Char → Prop}

/-- All that a document consists of, but for texts rendered elsewhere, has lines of one kind and headers of
another. -/
structure MadeOf (w : Workspace) (attachments : Hierarchy.Attachments)
    (line header : String → Prop) : Prop where
  opening : header (Statement.workspaceOpen w.title w.summary)
  directive : line Statement.identifiersDirective
  model : (Document.modelItem w (w.named attachments) (pathMap (w.named attachments))).Made line header
  viewsOpen : header Statement.viewsOpen
  views : ∀ view ∈ w.views, (view.block (pathMap (w.named attachments))).Made line header
  styles : (Style.block w.elementStyles w.relationshipStyles).Made line header

theorem MadeOf.mono {line header line' header' : String → Prop} (h : w.MadeOf attachments line header)
    (hline : ∀ text, line text → line' text) (hheader : ∀ text, header text → header' text) :
    w.MadeOf attachments line' header' where
  opening := hheader _ h.opening
  directive := hline _ h.directive
  model := h.model.mono hline hheader
  viewsOpen := hheader _ h.viewsOpen
  views view hview := (h.views view hview).mono hline hheader
  styles := h.styles.mono hline hheader

theorem AttachesAs.made_modelItem (h : w.AttachesAs attachments)
    (hbare : ∀ text, IsTerm text → bare text)
    (hletters : ∀ c, Naming.IsIdentifierChar c → allowed c) (htexts : w.LiteralTexts allowed) :
    (Document.modelItem w (w.named attachments) (pathMap (w.named attachments))).Made
      (IsStatement bare (Consists allowed)) (IsHeader bare (Consists allowed)) := by
  have hopen : IsTerm "model" := by decide
  have htagword : IsTerm "tags" := by decide
  have htags : Worded bare (Consists allowed) "" Statement.externalTags := by
    have hexternal : Consists Naming.IsIdentifierChar Statement.externalTag := by decide
    refine worded_of_eq_phrase Statement.toList_externalTags htagword fun part hpart => ?_
    rw [List.mem_singleton.mp hpart]
    exact fun c hc => hletters c (hexternal c hc)
  refine .block (worded_of_phrase rfl hopen (List.forall_mem_nil _)) fun item hitem => ?_
  rcases List.mem_append.mp hitem with hitem | hitem
  · refine Document.made_forestItems htags (fun named hnamed => ?_) item hitem
    obtain ⟨element, helement, hname, hdescription, htechnology⟩ := h.exists_shown_named hnamed
    refine Document.worded_declarationLine hbare (isIdentifier_named hnamed) ?_ ?_ fun text htext => ?_
    · rw [hname]
      exact htexts.names element helement
    · rw [hdescription]
      exact htexts.descriptions element helement
    · obtain ⟨component, rfl, hcomponent⟩ := htechnology text htext
      exact htexts.technologies component helement text hcomponent
  · obtain ⟨relationship, hrelationship, rfl⟩ := List.mem_map.mp hitem
    exact Document.made_relationshipItem hbare (fun entry => isReference_of_mem_pathMap)
      (htexts.relationships relationship hrelationship)

theorem consists_underscored (hunderscore : allowed '_') {title : String}
    (h : Consists allowed title) : Consists allowed (underscored title) := by
  intro c hc
  rw [underscored, String.toList_ofList] at hc
  obtain ⟨d, hd, rfl⟩ := List.mem_map.mp hc
  split
  · exact hunderscore
  · exact h d hd

/-- A document is made of words, of the literals that the texts of the workspace give, and of its other
texts. -/
theorem AttachesAs.madeOf (h : w.AttachesAs attachments) (hbare : ∀ text, IsTerm text → bare text)
    (hletters : ∀ c, Naming.IsIdentifierChar c → allowed c) (htexts : w.LiteralTexts allowed)
    (hothers : w.BareTexts (fun text => bare (Text.strip text)) bare) :
    w.MadeOf attachments (IsStatement bare (Consists allowed)) (IsHeader bare (Consists allowed)) where
  opening := by
    have hword : IsTerm "workspace" := by decide
    refine worded_of_phrase (Statement.toList_workspaceOpen _ _) hword fun part hpart => ?_
    simp only [List.mem_cons, List.not_mem_nil, or_false] at hpart
    rcases hpart with rfl | rfl
    · exact htexts.title
    · exact htexts.summary
  directive := by
    have hword : IsTerm "!identifiers" := by decide
    have hmode : IsTerm "hierarchical" := by decide
    have hphrase : Statement.identifiersDirective.toList =
        phrase "!identifiers" [.bare "hierarchical"] ++ "".toList := rfl
    refine Or.inl (worded_of_phrase hphrase hword fun part hpart => ?_)
    rw [List.mem_singleton.mp hpart]
    exact hbare _ hmode
  model := h.made_modelItem hbare hletters htexts
  viewsOpen := by
    have hword : IsTerm "views" := by decide
    exact worded_of_phrase rfl hword (List.forall_mem_nil _)
  views view hview :=
    View.made_block
      (fun ref => hbare _ (isTerm_resolve (fun entry => isReference_of_mem_pathMap) ref))
      (consists_underscored (hletters _ (Or.inr rfl)) (htexts.views view hview))
      (hothers.expressions view hview)
  styles := Style.made_block htexts.tags hothers.values

end Workspace

end C4Model
