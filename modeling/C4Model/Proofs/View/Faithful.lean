import C4Model.Proofs.Reading.Section
import C4Model.Proofs.Workspace.Statements

/-! Views and styles are written faithfully. As long as every text keeps to its line, the block of views is
read back as what was put into it: views in order with all their entries, styles with all their attributes,
and what follows them. Widths do not matter, also not a different one for the styles. -/

namespace C4Model

open Layout Reading

namespace Layout

/-- A text without line feeds. -/
def OneLine (text : String) : Prop :=
  '\n' ∉ text.toList

instance (text : String) : Decidable (OneLine text) :=
  inferInstanceAs (Decidable ('\n' ∉ text.toList))

mutual

/-- The lines of an item without the spaces before them. -/
def Item.bare : Item → List (List Char)
  | .line text => [unindented text]
  | .blank => [[]]
  | .block header body => unindented header :: (bareOf body ++ [blockClose.toList])

def bareOf : List Item → List (List Char)
  | [] => []
  | item :: rest => item.bare ++ bareOf rest

end

theorem bareOf_append (first second : List Item) : bareOf (first ++ second) = bareOf first ++ bareOf second := by
  induction first with
  | nil => rfl
  | cons item rest ih => rw [List.cons_append, bareOf, bareOf, ih, List.append_assoc]

theorem bareOf_eq_flatMap (items : List Item) : bareOf items = items.flatMap Item.bare := by
  induction items with
  | nil => rfl
  | cons item rest ih => rw [bareOf, ih, List.flatMap_cons]

theorem bareOf_map_line {α : Type} (text : α → String) (list : List α) :
    bareOf (list.map fun value => .line (text value)) = list.map fun value => unindented (text value) := by
  rw [bareOf_eq_flatMap, List.flatMap_map, List.map_eq_flatMap]
  rfl

theorem unindented_margin (width : Int) (depth : Nat) (text : String) :
    unindented (margin width depth ++ text) = unindented text := by
  have hspaces : ∀ c ∈ (margin width depth).toList, decide (c = ' ') = true := by
    intro c hc
    rw [margin, String.toList_ofList] at hc
    exact decide_eq_true (List.eq_of_mem_replicate hc)
  rw [unindented, String.toList_append, List.dropWhile_append_of_pos hspaces, unindented]

theorem unindented_of_beginsInked {text : String} (h : Text.BeginsInked text.toList) :
    unindented text = text.toList := by
  obtain ⟨c, rest, hchars, hc⟩ := h
  have hne : c ≠ ' ' := by
    rintro rfl
    cases hc
  rw [unindented, hchars, List.dropWhile_cons_of_neg (by simpa using hne)]

mutual

/-- At whatever depth an item stands, its lines are the same behind their margins. -/
theorem map_unindented_lines (width : Int) (depth : Nat) (item : Item) :
    (item.lines width depth).map unindented = item.bare := by
  cases item with
  | line text => rw [Item.lines, List.map_singleton, unindented_margin, Item.bare]
  | blank => rfl
  | block header body =>
      have hclose : unindented blockClose = blockClose.toList := rfl
      rw [Item.lines, List.cons_append, List.map_cons, List.map_append, map_unindented_linesOf,
        List.map_singleton, unindented_margin, unindented_margin, hclose, Item.bare]

theorem map_unindented_linesOf (width : Int) (depth : Nat) (items : List Item) :
    (linesOf width depth items).map unindented = bareOf items := by
  cases items with
  | nil => rfl
  | cons item rest =>
      rw [linesOf, List.map_append, map_unindented_lines, map_unindented_linesOf, bareOf]

end

theorem unindented_reflowed {text : String} (h : Whole text) (width wider : Int) (depth further : Nat) :
    (reflowed (margin width depth) (margin wider further ++ text)).map unindented = [unindented text] := by
  have hfree : OneLine (margin wider further ++ text) := by
    rw [OneLine, String.toList_append, List.mem_append, not_or]
    exact ⟨newline_not_mem_margin wider further, h.1⟩
  rw [reflowed_of_not_mem hfree, indented, isBlankText_margin, h.2, if_neg Bool.false_ne_true,
    List.map_singleton, unindented_margin, unindented_margin]

theorem Item.Made.map_unindented_reflowed {item : Item} (h : item.Made Whole Whole) (width wider : Int)
    (depth further : Nat) :
    ((item.lines wider further).flatMap (reflowed (margin width depth))).map unindented = item.bare := by
  induction h generalizing further with
  | line h => rw [Item.lines, List.flatMap_singleton, unindented_reflowed h, Item.bare]
  | blank => rfl
  | @block opening body h _ ih =>
      have hclose : Whole blockClose := ⟨by decide, by decide⟩
      have hbare : unindented blockClose = blockClose.toList := rfl
      have hbody : ((linesOf wider (further + 1) body).flatMap (reflowed (margin width depth))).map
          unindented = bareOf body := by
        rw [linesOf_eq_flatMap, List.flatMap_assoc, List.map_flatMap, bareOf_eq_flatMap]
        exact List.flatMap_congr fun item hitem => ih item hitem (further + 1)
      rw [Item.lines, List.cons_append, List.flatMap_cons, List.flatMap_append, List.map_append,
        List.map_append, hbody, List.flatMap_singleton, unindented_reflowed h, unindented_reflowed hclose,
        hbare, Item.bare, List.singleton_append]

/-- Items that were rendered before they are spliced have the lines they would have otherwise. -/
theorem bareOf_spliced_render {items : List Item} (hne : items ≠ [])
    (h : ∀ item ∈ items, item.Made Whole Whole) (width : Int) :
    bareOf (spliced (render width items)) = bareOf items := by
  have hlines : linesOf width 0 items ≠ [] := by
    obtain ⟨item, rest, rfl⟩ := List.exists_cons_of_ne_nil hne
    simp [linesOf, lines_ne_nil]
  rw [← map_unindented_linesOf 0 0, render, linesOf_spliced 0 0 hlines, linesOf_eq_flatMap,
    List.flatMap_assoc, List.map_flatMap, bareOf_eq_flatMap]
  exact List.flatMap_congr fun item hitem => (h item hitem).map_unindented_reflowed 0 width 0 0

theorem Item.Made.oneLine {item : Item} (h : item.Made OneLine OneLine) (width : Int) (depth : Nat) :
    ∀ line ∈ item.lines width depth, OneLine line := by
  have hmargin : ∀ depth text, OneLine text → OneLine (margin width depth ++ text) := by
    intro depth text htext
    rw [OneLine, String.toList_append, List.mem_append, not_or]
    exact ⟨newline_not_mem_margin width depth, htext⟩
  induction h generalizing depth with
  | line h => exact List.forall_mem_singleton.mpr (hmargin _ _ h)
  | blank => exact List.forall_mem_singleton.mpr (by decide)
  | block h _ ih =>
      intro line hline
      rw [Item.lines, List.cons_append, List.mem_cons, List.mem_append, List.mem_singleton] at hline
      rcases hline with rfl | hline | rfl
      · exact hmargin _ _ h
      · rw [linesOf_eq_flatMap] at hline
        obtain ⟨item, hitem, hline⟩ := List.mem_flatMap.mp hline
        exact ih item hitem (depth + 1) line hline
      · exact hmargin _ _ (by decide)

theorem bareLines_render {items : List Item} (hne : items ≠ [])
    (h : ∀ item ∈ items, item.Made OneLine OneLine) (width : Int) :
    bareLines (render width items) = bareOf items := by
  have hlines : linesOf width 0 items ≠ [] := by
    obtain ⟨item, rest, rfl⟩ := List.exists_cons_of_ne_nil hne
    simp [linesOf, lines_ne_nil]
  have hfree : ∀ line ∈ linesOf width 0 items, OneLine line := by
    intro line hline
    rw [linesOf_eq_flatMap] at hline
    obtain ⟨item, hitem, hline⟩ := List.mem_flatMap.mp hline
    exact (h item hitem).oneLine width 0 line hline
  rw [bareLines, render, Text.joinLines, Text.splitOnChar_intercalate_of_not_mem rfl hlines hfree,
    map_unindented_linesOf]

theorem made_spliced (fragment : String) : ∀ item ∈ spliced fragment, item.Made OneLine OneLine := by
  intro item hitem
  obtain ⟨line, hline, rfl⟩ := List.mem_map.mp hitem
  split
  · exact .blank
  · exact .line (Text.not_mem_of_mem_splitOnChar hline)

theorem oneLine_of_isTerm {text : String} (h : IsTerm text) : OneLine text :=
  fun hmem => (h.2 _ hmem).ne (by decide) rfl

/-- A line of words and literals is one line, and not blank. -/
theorem whole_of_worded {closing text : String} (hclosing : OneLine closing)
    (h : Worded OneLine OneLine closing text) : Whole text := by
  obtain ⟨word, rest, hword, hrest, htext⟩ := h
  have hpart : ∀ part ∈ rest, '\n' ∉ part.chars := by
    intro part hmem
    cases part with
    | bare text => exact hrest _ hmem
    | literal text =>
        have hheld : '\n' ∉ text.toList := hrest _ hmem
        rw [Part.chars, Statement.toList_quote, List.mem_cons, List.mem_append, List.mem_singleton,
          mem_escapeChars_iff (by decide)]
        simpa using hheld
  constructor
  · rw [htext, phrase, List.mem_append, List.mem_append, List.mem_flatMap]
    rintro ((hmem | ⟨part, hmem, hchar⟩) | hmem)
    · exact oneLine_of_isTerm hword hmem
    · exact hpart part hmem (List.mem_of_ne_of_mem (by decide) hchar)
    · exact hclosing hmem
  · rw [Bool.eq_false_iff]
    intro hblank
    rw [Text.isBlankText_iff, htext, phrase, List.append_assoc] at hblank
    exact (hword.beginsInked.append _).not_allBlank hblank

theorem whole_of_isStatement {text : String} (h : IsStatement OneLine OneLine text) : Whole text :=
  h.elim (whole_of_worded (by decide)) (whole_of_worded (by decide))

theorem whole_of_isHeader {text : String} (h : IsHeader OneLine OneLine text) : Whole text :=
  whole_of_worded (by decide) h

theorem unindented_of_eq_phrase {word text : String} {rest : List Part} {closing : List Char}
    (hword : IsTerm word) (htext : text.toList = phrase word rest ++ closing) :
    unindented text = phrase word rest ++ closing := by
  rw [unindented_of_beginsInked, htext]
  rw [htext, phrase, List.append_assoc]
  exact hword.beginsInked.append _

end Layout

/-- What a reader finds of a view. -/
def View.reading (paths : Naming.PathMap) (view : View) : Block ViewHead Entry where
  head := ⟨view.viewType, if view.viewType.takesScope then view.element.map paths.resolve else none,
    underscored view.title⟩
  body := view.included.map (fun ref => .included (View.entryText paths ref)) ++
    view.excluded.map fun ref => .excluded (View.entryText paths ref)

def ElementStyle.reading (style : ElementStyle) : Block String (String × String) :=
  ⟨style.tag, style.attributes⟩

def RelationshipStyle.reading (style : RelationshipStyle) : Block String (String × String) :=
  ⟨style.tag, style.attributes⟩

/-- The texts of a view that keep to their line. -/
structure View.InLines (view : View) : Prop where
  title : OneLine view.title
  entries : ∀ text, .raw text ∈ view.included ++ view.excluded → OneLine text

/-- The tags and the values of styles that keep to their line. -/
structure Style.InLines (elements : List ElementStyle) (relationships : List RelationshipStyle) : Prop where
  tags : ∀ tag ∈ elements.map (·.tag) ++ relationships.map (·.tag), OneLine tag
  values : ∀ entry ∈ elements.flatMap ElementStyle.attributes ++
    relationships.flatMap RelationshipStyle.attributes, OneLine entry.2

/-- Every path keeps to its line. -/
def Naming.PathMap.InLines (paths : Naming.PathMap) : Prop :=
  ∀ entry ∈ paths.paths, OneLine entry.2

theorem Naming.PathMap.InLines.resolve {paths : Naming.PathMap} (h : paths.InLines) (ref : Reference) :
    OneLine (paths.resolve ref) := by
  rw [Naming.PathMap.resolve]
  cases ref.endpoint with
  | raw text => exact oneLine_of_isTerm (isTerm_of_isReference (Naming.isReference_reference text))
  | identity identity =>
      rw [Naming.PathMap.resolveEndpoint]
      cases hpath : paths.path? identity with
      | none => exact oneLine_of_isTerm (isTerm_of_isIdentifier (Naming.isIdentifier_baseIdentifier _))
      | some path => exact h _ (Naming.PathMap.mem_of_path? hpath)

namespace View

theorem oneLine_underscored {title : String} (h : OneLine title) : OneLine (underscored title) := by
  rw [OneLine, underscored, String.toList_ofList, List.mem_map]
  rintro ⟨c, hc, hline⟩
  split at hline
  · exact absurd hline (by decide)
  · exact h (hline ▸ hc)

theorem space_not_mem_underscored (title : String) : ' ' ∉ (underscored title).toList := by
  rw [underscored, String.toList_ofList, List.mem_map]
  rintro ⟨c, -, hspace⟩
  split at hspace
  · exact absurd hspace (by decide)
  · rename_i hne
    exact hne hspace

variable {paths : Naming.PathMap} {view : View}

theorem made_whole_block (hpaths : paths.InLines) (h : view.InLines) : (view.block paths).Made Whole Whole := by
  have hentries : ∀ text, .raw text ∈ view.included ++ view.excluded → OneLine (Text.strip text) := by
    intro text hmem hbreak
    rw [Text.strip, String.toList_ofList] at hbreak
    exact h.entries text hmem (Text.mem_of_mem_stripBlanks hbreak)
  exact (made_block hpaths.resolve (oneLine_underscored h.title) hentries).mono
    (fun _ => whole_of_isStatement) fun _ => whole_of_isHeader

theorem bare_block (paths : Naming.PathMap) (view : View) :
    (view.block paths).bare = (view.reading paths).lines ViewHead.line Entry.line := by
  have hinclude : IsTerm "include" := by decide
  have hexclude : IsTerm "exclude" := by decide
  have hincluded : ∀ ref, unindented (Statement.viewInclude (entryText paths ref)) =
      (Entry.included (entryText paths ref)).line := fun ref =>
    (unindented_of_eq_phrase hinclude ((Statement.toList_viewInclude _).trans (List.append_nil _).symm)).trans
      (List.append_nil _)
  have hexcluded : ∀ ref, unindented (Statement.viewExclude (entryText paths ref)) =
      (Entry.excluded (entryText paths ref)).line := fun ref =>
    (unindented_of_eq_phrase hexclude ((Statement.toList_viewExclude _).trans (List.append_nil _).symm)).trans
      (List.append_nil _)
  have hbody : bareOf (view.entryItems paths) = (view.reading paths).body.map Entry.line := by
    rw [entryItems, bareOf_append, bareOf_map_line, bareOf_map_line, reading, List.map_append, List.map_map,
      List.map_map]
    exact congrArg₂ _ (List.map_congr_left fun ref _ => hincluded ref)
      (List.map_congr_left fun ref _ => hexcluded ref)
  rw [block, Item.bare, hbody, Block.lines,
    unindented_of_eq_phrase view.viewType.isTerm_keyword (Statement.toList_viewOpen _ _ _)]
  rfl

/-- Every view that has a header is read back, if it has the element that its type asks for. -/
theorem legible_reading (hscoped : view.Scoped) :
    (view.reading paths).Legible viewHead? entry? ViewHead.line Entry.line where
  head := by
    refine viewHead?_line ?_ (space_not_mem_underscored _)
    rw [Scoped, ← takesScope_iff] at hscoped
    rw [reading]
    cases htakes : view.viewType.takesScope with
    | false => simp
    | true => simpa [Option.isSome_iff_ne_none] using hscoped htakes
  body entry _ := entry?_line entry
  inside entry _ := by
    cases entry with
    | included => exact phrase_ne_blockClose _ _
    | excluded => exact phrase_ne_blockClose _ _

end View

namespace Style

theorem space_not_mem_of_isTerm {text : String} (h : IsTerm text) : ' ' ∉ text.toList :=
  fun hmem => (h.2 _ hmem).ne (by decide) rfl

/-- The lines of a style with its tag in the header and its attributes inside. -/
theorem bare_item {kind tag opening : String} {attributes : List (String × String)} (hkind : IsTerm kind)
    (hopening : opening.toList = styleTagLine kind tag) (hnames : ∀ entry ∈ attributes, IsTerm entry.1) :
    (Item.block opening (attributeLines attributes)).bare =
      (Block.mk tag attributes).lines (styleTagLine kind) attributeLine := by
  have hbody : bareOf (attributeLines attributes) = attributes.map attributeLine := by
    rw [attributeLines, bareOf_map_line]
    refine List.map_congr_left fun entry hentry => ?_
    exact (unindented_of_eq_phrase (hnames entry hentry)
      ((Statement.toList_styleAttribute _ _).trans (List.append_nil _).symm)).trans (List.append_nil _)
  rw [Item.bare, hbody, Block.lines, unindented_of_eq_phrase hkind hopening]
  rfl

theorem legible_reading {kind tag : String} {attributes : List (String × String)} (hkind : IsTerm kind)
    (hnames : ∀ entry ∈ attributes, IsTerm entry.1) :
    (Block.mk tag attributes).Legible (styleTag? kind) attribute? (styleTagLine kind) attributeLine where
  head := styleTag?_line (space_not_mem_of_isTerm hkind) tag
  body entry hentry := attribute?_line (space_not_mem_of_isTerm (hnames entry hentry))
  inside _ _ := phrase_ne_blockClose _ _

variable (elements : List ElementStyle) (relationships : List RelationshipStyle)

theorem bare_block : (block elements relationships).bare =
    Statement.stylesOpen.toList ::
      ((elements.map ElementStyle.reading).flatMap (Block.lines (styleTagLine "element") attributeLine) ++
        ((relationships.map RelationshipStyle.reading).flatMap
          (Block.lines (styleTagLine "relationship") attributeLine) ++ [blockClose.toList])) := by
  have helement : IsTerm "element" := by decide
  have hrelationship : IsTerm "relationship" := by decide
  have hopen : unindented Statement.stylesOpen = Statement.stylesOpen.toList := rfl
  have helements : bareOf (elements.map elementBlock) = (elements.map ElementStyle.reading).flatMap
      (Block.lines (styleTagLine "element") attributeLine) := by
    rw [bareOf_eq_flatMap, List.flatMap_map, List.flatMap_map]
    exact List.flatMap_congr fun style _ =>
      bare_item helement (Statement.toList_elementStyleOpen _) style.isTerm_attributes
  have hrelationships : bareOf (relationships.map relationshipBlock) =
      (relationships.map RelationshipStyle.reading).flatMap
        (Block.lines (styleTagLine "relationship") attributeLine) := by
    rw [bareOf_eq_flatMap, List.flatMap_map, List.flatMap_map]
    exact List.flatMap_congr fun style _ =>
      bare_item hrelationship (Statement.toList_relationshipStyleOpen _) style.isTerm_attributes
  rw [block, Item.bare, bareOf_append, helements, hrelationships, hopen, List.append_assoc]

/-- The styles of elements end where those of relationships begin, and these at the closing brace. -/
theorem stylesBody_lines (after : List (List Char)) :
    stylesBody ((elements.map ElementStyle.reading).flatMap
        (Block.lines (styleTagLine "element") attributeLine) ++
      ((relationships.map RelationshipStyle.reading).flatMap
        (Block.lines (styleTagLine "relationship") attributeLine) ++ blockClose.toList :: after)) =
      some (elements.map ElementStyle.reading, relationships.map RelationshipStyle.reading, after) := by
  have helement : IsTerm "element" := by decide
  have hrelationship : IsTerm "relationship" := by decide
  have hclose : ∀ kind, styleTag? kind blockClose.toList = none := fun _ => rfl
  have hother : ∀ tag, styleTag? "element" (styleTagLine "relationship" tag) = none :=
    styleTag?_line_other (by decide) (by decide)
  have hends : Unopened (styleTag? "relationship") (blockClose.toList :: after) := by
    rintro line ⟨⟩
    exact hclose _
  have hturns : Unopened (styleTag? "element") ((relationships.map RelationshipStyle.reading).flatMap
      (Block.lines (styleTagLine "relationship") attributeLine) ++ blockClose.toList :: after) := by
    cases relationships with
    | nil =>
        rintro line ⟨⟩
        exact hclose _
    | cons style rest =>
        rintro line ⟨⟩
        exact hother _
  rw [stylesBody, blocks_flatMap_lines _ hturns, Option.bind_eq_bind, Option.bind_some]
  · dsimp only
    rw [blocks_flatMap_lines _ hends]
    · rfl
    · intro block hblock
      obtain ⟨style, -, rfl⟩ := List.mem_map.mp hblock
      exact legible_reading hrelationship style.isTerm_attributes
  · intro block hblock
    obtain ⟨style, -, rfl⟩ := List.mem_map.mp hblock
    exact legible_reading helement style.isTerm_attributes

end Style

namespace View

/-- The lines of a finished text behind views and styles, without the spaces before them. -/
def fragmentLines (fragment : String) : List (List Char) :=
  bareOf (fragmentItems false [fragment])

/-- A finished text that begins neither like a view nor like the block of styles. -/
def SetApart (fragment : String) : Prop :=
  ∀ line ∈ (fragmentLines fragment).head?, viewHead? line = none ∧ line ≠ Statement.stylesOpen.toList

theorem fragmentItems_cons (separate : Bool) {fragment : String} (h : fragment ≠ "") (rest : List String) :
    fragmentItems separate (fragment :: rest) =
      (if separate then [.blank] else []) ++ spliced fragment ++ fragmentItems true rest := by
  rw [fragmentItems, String.isEmpty_eq_false_iff.mpr h, if_neg Bool.false_ne_true]

/-- The blank line before the first fragment is found exactly where views stand before it. -/
theorem separated_fragmentItems (before : Bool) (fragments : List String) :
    separated before (bareOf (fragmentItems before fragments)) =
      some (bareOf (fragmentItems false fragments)) := by
  induction fragments with
  | nil => cases before <;> rfl
  | cons fragment rest ih =>
      by_cases hempty : fragment = ""
      · rw [hempty]
        exact ih
      · rw [fragmentItems_cons before hempty, fragmentItems_cons false hempty]
        cases before <;> rfl

theorem made_fragmentItems (before : Bool) (fragments : List String) :
    ∀ item ∈ fragmentItems before fragments, item.Made OneLine OneLine := by
  induction fragments generalizing before with
  | nil => exact List.forall_mem_nil _
  | cons fragment rest ih =>
      by_cases hempty : fragment = ""
      · rw [hempty]
        exact ih before
      · intro item hitem
        rw [fragmentItems_cons before hempty, List.mem_append, List.mem_append] at hitem
        rcases hitem with (hitem | hitem) | hitem
        · cases before with
          | false => cases hitem
          | true =>
              obtain rfl := List.mem_singleton.mp hitem
              exact .blank
        · exact made_spliced fragment item hitem
        · exact ih true item hitem

theorem unopened_fragmentItems {fragments : List String}
    (h : Unopened viewHead? (bareOf (fragmentItems false fragments))) (before : Bool) :
    Unopened viewHead? (bareOf (fragmentItems before fragments)) := by
  have hseparated := separated_fragmentItems before fragments
  cases before with
  | false => exact h
  | true =>
      intro line hline
      cases hlines : bareOf (fragmentItems true fragments) with
      | nil =>
          rw [hlines] at hline
          cases hline
      | cons first rest =>
          rw [hlines] at hline hseparated
          obtain rfl := Option.some.inj hline
          cases first with
          | nil => rfl
          | cons => cases hseparated

end View

theorem Style.text_of_ne_nil {width : Int} {elements : List ElementStyle}
    {relationships : List RelationshipStyle} (h : ¬(elements = [] ∧ relationships = [])) :
    Style.text width elements relationships = Layout.render width [Style.block elements relationships] := by
  have hsome : ¬(elements.isEmpty && relationships.isEmpty) = true := by
    rwa [Bool.and_eq_true, List.isEmpty_iff, List.isEmpty_iff]
  rw [Style.text, if_neg hsome]

theorem Style.text_eq_empty_iff {width : Int} {elements : List ElementStyle}
    {relationships : List RelationshipStyle} :
    Style.text width elements relationships = "" ↔ elements = [] ∧ relationships = [] := by
  constructor
  · intro hempty
    by_contra hsome
    rw [Style.text_of_ne_nil hsome] at hempty
    exact render_block_ne_empty _ _ _ hempty
  · rintro ⟨rfl, rfl⟩
    rfl

namespace View

variable {width : Int} {views : List View} {elements : List ElementStyle}
  {relationships : List RelationshipStyle} {configuration : String}

variable (width configuration) in
/-- The lines of the styles and of what comes after them. -/
theorem bareOf_fragments (hstyles : Style.InLines elements relationships)
    (h : ¬(elements = [] ∧ relationships = [])) :
    bareOf (fragmentItems false [Style.text width elements relationships, configuration]) =
      (Style.block elements relationships).bare ++ bareOf (fragmentItems true [configuration]) := by
  have hmade : (Style.block elements relationships).Made Whole Whole :=
    (Style.made_block hstyles.tags hstyles.values).mono (fun _ => whole_of_isStatement)
      fun _ => whole_of_isHeader
  have hne : render width [Style.block elements relationships] ≠ "" := render_block_ne_empty _ _ _
  rw [Style.text_of_ne_nil h, fragmentItems_cons false hne, bareOf_append,
    if_neg Bool.false_ne_true, List.nil_append,
    bareOf_spliced_render (List.cons_ne_nil _ _) (List.forall_mem_singleton.mpr hmade), bareOf, bareOf,
    List.append_nil]

/-- The lines in a block of views are read as the views, the styles and the lines after them. -/
theorem sectionBody_lines {paths : Naming.PathMap} (hscoped : ∀ view ∈ views, view.Scoped)
    (hstyles : Style.InLines elements relationships) (hconfiguration : SetApart configuration) :
    sectionBody ((views.map (reading paths)).flatMap (Block.lines ViewHead.line Entry.line) ++
      bareOf (fragmentItems (!views.isEmpty) [Style.text width elements relationships, configuration])) =
      some ⟨views.map (reading paths), elements.map ElementStyle.reading,
        relationships.map RelationshipStyle.reading, (fragmentLines configuration).map String.ofList⟩ := by
  have hlegible : ∀ block ∈ views.map (reading paths),
      block.Legible viewHead? entry? ViewHead.line Entry.line := by
    intro block hblock
    obtain ⟨view, hview, rfl⟩ := List.mem_map.mp hblock
    exact legible_reading (hscoped view hview)
  by_cases hnone : elements = [] ∧ relationships = []
  · obtain ⟨rfl, rfl⟩ := hnone
    have hrest : bareOf (fragmentItems false [Style.text width [] [], configuration]) =
        fragmentLines configuration := rfl
    have hunopened : Unopened viewHead?
        (bareOf (fragmentItems false [Style.text width [] [], configuration])) :=
      fun line hline => (hconfiguration line hline).1
    have hother : (fragmentLines configuration).head? ≠ some Statement.stylesOpen.toList :=
      fun hline => (hconfiguration _ hline).2 rfl
    rw [sectionBody, blocks_flatMap_lines hlegible (unopened_fragmentItems hunopened _),
      Option.bind_eq_bind, Option.bind_some]
    dsimp only
    rw [List.isEmpty_map, separated_fragmentItems, hrest, Option.bind_eq_bind, Option.bind_some,
      if_neg hother]
    rfl
  · have hrest := bareOf_fragments width configuration hstyles hnone
    rw [Style.bare_block, List.cons_append, List.append_assoc, List.append_assoc,
      List.singleton_append] at hrest
    have hunopened : Unopened viewHead?
        (bareOf (fragmentItems false [Style.text width elements relationships, configuration])) := by
      rw [hrest]
      rintro line ⟨⟩
      rfl
    rw [sectionBody, blocks_flatMap_lines hlegible (unopened_fragmentItems hunopened _),
      Option.bind_eq_bind, Option.bind_some]
    dsimp only
    rw [List.isEmpty_map, separated_fragmentItems, hrest, Option.bind_eq_bind, Option.bind_some,
      List.head?_cons, if_pos rfl, List.tail_cons, Style.stylesBody_lines, Option.bind_eq_bind,
      Option.bind_some]
    dsimp only
    rw [separated_fragmentItems]
    rfl

theorem oneLine_items {paths : Naming.PathMap} (hpaths : paths.InLines) (hviews : ∀ view ∈ views, view.InLines)
    (before : Bool) (fragments : List String) :
    ∀ item ∈ views.map (block paths) ++ fragmentItems before fragments, item.Made OneLine OneLine := by
  intro item hitem
  rcases List.mem_append.mp hitem with hitem | hitem
  · obtain ⟨view, hview, rfl⟩ := List.mem_map.mp hitem
    exact (made_whole_block hpaths (hviews view hview)).mono (fun _ hwhole => hwhole.1) fun _ hwhole => hwhole.1
  · exact made_fragmentItems before fragments item hitem

/-- The text of a block of views is read back by what stands in the block. -/
theorem readSection?_render {items : List Item} (h : ∀ item ∈ items, item.Made OneLine OneLine) (width : Int) :
    readSection? (render width [.block Statement.viewsOpen items]) = sectionBody (bareOf items) := by
  have hmade : (Item.block Statement.viewsOpen items).Made OneLine OneLine := .block (by decide) h
  have hopen : unindented Statement.viewsOpen = Statement.viewsOpen.toList := rfl
  have hbare : bareLines (render width [.block Statement.viewsOpen items]) =
      Statement.viewsOpen.toList :: (bareOf items ++ [blockClose.toList]) := by
    rw [bareLines_render (List.cons_ne_nil _ _) (List.forall_mem_singleton.mpr hmade), bareOf, bareOf,
      Item.bare, List.append_nil, hopen]
  have hends : (Statement.viewsOpen.toList :: (bareOf items ++ [blockClose.toList])).getLast? =
      some blockClose.toList := by
    rw [← List.cons_append, List.getLast?_concat]
  rw [readSection?, String.isEmpty_eq_false_iff.mpr (render_block_ne_empty _ _ _), if_neg Bool.false_ne_true,
    hbare, if_pos ⟨List.head?_cons, hends⟩, List.tail_cons, List.dropLast_concat]

/-- Views and styles are rendered faithfully. Styles are rendered exactly if every number in them can be written,
and views with them exactly if every view that needs an element has one; they are rendered as nothing exactly
if there is nothing to render. What is rendered is read back view by view and style by style, if no text and no
path goes over its line. -/
theorem renderAll_faithful (width wider : Int) (paths : Naming.PathMap) (views : List View)
    (elements : List ElementStyle) (relationships : List RelationshipStyle) (configuration : String) :
    ((∃ styles, Style.render wider elements relationships = .ok styles) ↔
        Style.Writable elements relationships) ∧
      ∀ styles, Style.render wider elements relationships = .ok styles →
        ((∃ text, renderAll width paths views styles configuration = .ok text) ↔
          ∀ view ∈ views, view.Scoped) ∧
        ∀ text, renderAll width paths views styles configuration = .ok text →
          (text = "" ↔ views = [] ∧ elements = [] ∧ relationships = [] ∧ configuration = "") ∧
          (paths.InLines → (∀ view ∈ views, view.InLines) → Style.InLines elements relationships →
            SetApart configuration →
            readSection? text = some ⟨views.map (reading paths), elements.map ElementStyle.reading,
              relationships.map RelationshipStyle.reading,
              (fragmentLines configuration).map String.ofList⟩) := by
  refine ⟨by simp only [Style.render_eq_ok_iff, exists_and_left, exists_eq', and_true], fun styles hstyles => ?_⟩
  obtain ⟨-, rfl⟩ := Style.render_eq_ok_iff.mp hstyles
  refine ⟨exists_renderAll_iff, fun text h => ?_⟩
  have hscoped : ∀ view ∈ views, view.Scoped := exists_renderAll_iff.mp ⟨text, h⟩
  have hnothing : (views.isEmpty && (Style.text wider elements relationships).isEmpty &&
      configuration.isEmpty) = true ↔
        views = [] ∧ elements = [] ∧ relationships = [] ∧ configuration = "" := by
    rw [Bool.and_eq_true, Bool.and_eq_true, List.isEmpty_iff, String.isEmpty_iff, String.isEmpty_iff,
      Style.text_eq_empty_iff, and_assoc, and_assoc]
  rw [renderAll_eq h]
  constructor
  case left =>
    by_cases hempty : views = [] ∧ elements = [] ∧ relationships = [] ∧ configuration = ""
    · rw [if_pos (hnothing.mpr hempty)]
      exact iff_of_true rfl hempty
    · rw [if_neg fun hall => hempty (hnothing.mp hall)]
      exact iff_of_false (render_block_ne_empty _ _ _) hempty
  case right =>
    intro hpaths hviews hstyles hconfiguration
    by_cases hempty : views = [] ∧ elements = [] ∧ relationships = [] ∧ configuration = ""
    · rw [if_pos (hnothing.mpr hempty)]
      obtain ⟨rfl, rfl, rfl, rfl⟩ := hempty
      rfl
    · have hblocks : bareOf (views.map (block paths)) =
          (views.map (reading paths)).flatMap (Block.lines ViewHead.line Entry.line) := by
        rw [bareOf_eq_flatMap, List.flatMap_map, List.flatMap_map]
        exact List.flatMap_congr fun view _ => view.bare_block paths
      rw [if_neg fun hall => hempty (hnothing.mp hall), readSection?_render (oneLine_items hpaths hviews _ _),
        bareOf_append, hblocks, sectionBody_lines hscoped hstyles hconfiguration]

/-- A landscape with an element that it does not need, and a view of a shop whose path holds quotes and a
brace, with styles and a finished text behind them. -/
theorem renderAll_faithful_shop :
    ∃ styles text,
      Style.render 2 [{ tag := "Person", size := some (.number 3), shape := some "Box" }]
          [{ dashed := some false }] = .ok styles ∧
      renderAll 4 ⟨[(Bookshop.shop.identity, "a \"b\" \x7b")]⟩
        [⟨.systemLandscape, "All of it", some (.raw "a"), [.raw " * "], []⟩,
          ⟨.container, "In the shop", some (.element (.softwareSystem Bookshop.shop)),
            [.identity Bookshop.shop.identity], [.raw "element.tag==x"]⟩]
        styles "!docs here" = .ok text ∧
      readSection? text = some
        ⟨[⟨⟨.systemLandscape, none, "All_of_it"⟩, [.included "*"]⟩,
          ⟨⟨.container, some "a \"b\" \x7b", "In_the_shop"⟩,
            [.included "a \"b\" \x7b", .excluded "element.tag==x"]⟩],
          [⟨"Person", [("shape", "Box"), ("size", "3")]⟩], [⟨"Relationship", [("dashed", "false")]⟩],
          ["!docs here"]⟩ := by
  obtain ⟨hstyled, hviews⟩ := renderAll_faithful 4 2 ⟨[(Bookshop.shop.identity, "a \"b\" \x7b")]⟩
    [⟨.systemLandscape, "All of it", some (.raw "a"), [.raw " * "], []⟩,
      ⟨.container, "In the shop", some (.element (.softwareSystem Bookshop.shop)),
        [.identity Bookshop.shop.identity], [.raw "element.tag==x"]⟩]
    [{ tag := "Person", size := some (.number 3), shape := some "Box" }] [{ dashed := some false }]
    "!docs here"
  obtain ⟨styles, hstyles⟩ := hstyled.mpr (by decide +kernel)
  obtain ⟨hrendered, hread⟩ := hviews styles hstyles
  obtain ⟨text, htext⟩ := hrendered.mpr (by simp [Scoped])
  refine ⟨styles, text, hstyles, htext, ((hread text htext).2 ?_ ?_ ?_ ?_).trans ?_⟩
  case refine_1 => exact List.forall_mem_singleton.mpr (by decide)
  case refine_2 =>
    refine List.forall_mem_cons.mpr ⟨⟨by decide, ?_⟩, List.forall_mem_singleton.mpr ⟨by decide, ?_⟩⟩
    · simp [OneLine]
    · simp [OneLine]
  case refine_3 => exact ⟨by decide, by decide⟩
  case refine_4 =>
    have hlines : (fragmentLines "!docs here").head? = some "!docs here".toList := by decide +kernel
    have hread : viewHead? "!docs here".toList = none := by decide +kernel
    intro line hline
    rw [hlines, Option.mem_some] at hline
    rw [← hline]
    exact ⟨hread, by decide⟩
  case refine_5 => decide +kernel

/-- A path of three lines: what its text says is a view that ends and another one that begins. -/
def strayingPath : Naming.PathMap :=
  ⟨[(Bookshop.shop.identity, "a \"T\" \x7b\n    \x7d\n    systemContext b")]⟩

def oneView : List View :=
  [⟨.systemContext, "T", some (.element (.softwareSystem Bookshop.shop)), [], []⟩]

def twoViews : List View :=
  [⟨.systemContext, "T", some (.raw "a"), [], []⟩, ⟨.systemContext, "T", some (.raw "b"), [], []⟩]

/-- Where a path goes over its line, no reader can tell one view from two; and there is nothing to read of a style
whose size is too large to be written. -/
theorem no_reader_of_straying_path :
    (¬ ∃ read : String → Option Reading.Section, ∀ views : List View, (∀ view ∈ views, view.InLines) →
      ∀ text, renderAll 4 strayingPath views "" "" = .ok text →
        read text = some { views := views.map (reading strayingPath) }) ∧
      Style.render 4 Bookshop.oversized.elementStyles [] = .error .tooLarge := by
  refine ⟨?_, Style.render_eq_error_iff.mpr ⟨by decide +kernel, rfl⟩⟩
  rintro ⟨read, hread⟩
  obtain ⟨one, hone⟩ : ∃ text, renderAll 4 strayingPath oneView "" "" = .ok text :=
    exists_renderAll_iff.mpr (by simp [oneView, Scoped])
  obtain ⟨two, htwo⟩ : ∃ text, renderAll 4 strayingPath twoViews "" "" = .ok text :=
    exists_renderAll_iff.mpr (by simp [twoViews, Scoped])
  have hsame : one = two := by
    rw [renderAll_eq hone, renderAll_eq htwo]
    decide +kernel
  have hreadone := hread oneView (List.forall_mem_singleton.mpr ⟨by decide, by simp⟩) one hone
  have hreadtwo := hread twoViews (List.forall_mem_cons.mpr ⟨⟨by decide, by simp⟩,
    List.forall_mem_singleton.mpr ⟨by decide, by simp⟩⟩) two htwo
  rw [hsame, hreadtwo] at hreadone
  have hlength := congrArg (Option.map fun found => found.views.length) hreadone
  rw [Option.map_some, Option.map_some, List.length_map, List.length_map] at hlength
  exact absurd hlength (by decide)

end View

end C4Model
