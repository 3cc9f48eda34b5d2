import C4Model.Proofs.Reading.Contents
import C4Model.Proofs.Workspace.Paths
import C4Model.Proofs.Workspace.Success

/-! Reading a document back. Each line of the header and the model gives its tokens wherever it stands, so
the document gives the tokens of what it says, and these are read back: the elements in the order in
which they were named, and the relationships with their references. -/

namespace C4Model

/-- What the declaration of an element says. -/
def Named.declared (named : Named) : Reading.Declared :=
  ⟨named.identifier, named.keyword, named.name, named.description,
    Layout.Line.present named.technology, named.external⟩

/-- What the line of a relationship says, with its ends as they are written. -/
def Relationship.arrow (paths : Naming.PathMap) (relationship : Relationship) : Reading.Arrow :=
  ⟨paths.resolveEndpoint relationship.source, paths.resolveEndpoint relationship.target,
    relationship.description, Layout.Line.present relationship.technology⟩

namespace Reading

open Layout Outline Outcome
open Text (linesText linesText_append toList_joinLines)

/-- A line at any depth gives its tokens. -/
theorem tokens_line {text : String} {ts : List Token}
    (htext : ∀ rest, tokens (text.toList ++ '\n' :: rest) = ts ++ tokens rest) (width : Int)
    (depth : Nat) (rest : List Char) :
    tokens (linesText [margin width depth ++ text] ++ rest) = ts ++ tokens rest := by
  have hchars : linesText [margin width depth ++ text] ++ rest =
      (margin width depth).toList ++ (text.toList ++ '\n' :: rest) := by
    simp [linesText]
  rw [hchars, tokens_margin, htext]

theorem tokens_optional (technology : Option String) (rest : List Char) :
    tokens ((Statement.optional technology).toList ++ rest) =
      (Line.present technology).toList.map .literal ++ tokens rest := by
  rw [Line.optional_eq]
  cases Line.present technology with
  | none => rfl
  | some text =>
      have hchars : (" " ++ Statement.quote text).toList ++ rest =
          ' ' :: ((Statement.quote text).toList ++ rest) := by simp
      rw [Option.map_some, Option.getD_some, hchars, tokens_space rfl, tokens_quote]
      rfl

theorem isName_keyword (keyword : Keyword) : IsName keyword.text := by
  cases keyword <;> decide

theorem tokens_equals (rest : List Char) :
    tokens ('=' :: ' ' :: rest) = .equals :: tokens rest := by
  have hword : IsWord "=" := by decide
  have hsign := tokens_ofWord hword (c := ' ') (by decide) rest
  rw [tokens_space rfl] at hsign
  exact hsign

theorem tokens_arrow (rest : List Char) :
    tokens ('-' :: '>' :: ' ' :: rest) = .arrow :: tokens rest := by
  have hword : IsWord "->" := by decide
  have hsign := tokens_ofWord hword (c := ' ') (by decide) rest
  rw [tokens_space rfl] at hsign
  exact hsign

theorem tokens_spaced {text : String} (htext : IsName text) (rest : List Char) :
    tokens (text.toList ++ ' ' :: rest) = .word text :: tokens rest := by
  rw [tokens_name htext (by decide), tokens_space rfl]

theorem tokens_declarationLine {named : Named} (hidentifier : IsName named.identifier)
    (rest : List Char) :
    tokens ((Document.declarationLine named).toList ++ rest) = named.declared.head ++ tokens rest := by
  have hchars : (Document.declarationLine named).toList ++ rest =
      named.identifier.toList ++ ' ' :: '=' :: ' ' :: (named.keyword.text.toList ++ ' ' ::
        ((Statement.quote named.name).toList ++ ' ' :: ((Statement.quote named.description).toList ++
          ((Statement.optional named.technology).toList ++ rest)))) := by
    simp [Document.declarationLine, Statement.element]
  rw [hchars, tokens_spaced hidentifier, tokens_equals, tokens_spaced (isName_keyword _), tokens_quote,
    tokens_space rfl, tokens_quote, tokens_optional]
  rfl

theorem tokens_emptyBody (keyword : Keyword) (rest : List Char) :
    tokens ((Document.emptyBody keyword).toList ++ '\n' :: rest) =
      emptyBraces keyword ++ tokens rest := by
  have hbraces : tokens (' ' :: '\x7b' :: '\x7d' :: '\n' :: rest) =
      [.opening, .closing] ++ tokens rest := by
    rw [tokens_space rfl, tokens_opening, tokens_closing, tokens_space rfl]
    rfl
  cases keyword with
  | softwareSystem | container => exact hbraces
  | person | component => exact tokens_space rfl rest

theorem tokens_leaf {named : Named} (hidentifier : IsName named.identifier) (rest : List Char) :
    tokens ((Document.declarationLine named ++ Document.emptyBody named.keyword).toList ++
      '\n' :: rest) = named.declared.head ++ emptyBraces named.keyword ++ tokens rest := by
  rw [String.toList_append, List.append_assoc, tokens_declarationLine hidentifier, tokens_emptyBody,
    List.append_assoc]

theorem tokens_holder {named : Named} (hidentifier : IsName named.identifier) (rest : List Char) :
    tokens ((Document.declarationLine named ++ " \x7b").toList ++ '\n' :: rest) =
      named.declared.head ++ [.opening] ++ tokens rest := by
  have hopening : tokens (' ' :: '\x7b' :: '\n' :: rest) = .opening :: tokens rest := by
    rw [tokens_space rfl, tokens_opening, tokens_space rfl]
  rw [String.toList_append, List.append_assoc, tokens_declarationLine hidentifier, List.append_assoc]
  exact congrArg _ hopening

/-- A block gives the tokens of its header, of its body and of its closing brace. -/
theorem tokens_block {header : String} {ts inner : List Token} {body : List Item} {width : Int}
    {depth : Nat}
    (hheader : ∀ rest, tokens (header.toList ++ '\n' :: rest) = ts ++ tokens rest)
    (hbody : ∀ rest, tokens (linesText (linesOf width (depth + 1) body) ++ rest) =
      inner ++ tokens rest) (rest : List Char) :
    tokens (linesText ((Item.block header body).lines width depth) ++ rest) =
      ts ++ (inner ++ .closing :: tokens rest) := by
  have hclose : ∀ rest, tokens (blockClose.toList ++ '\n' :: rest) = [.closing] ++ tokens rest := by
    intro rest
    have hspace : tokens ('\n' :: rest) = tokens rest := tokens_space rfl rest
    exact (tokens_closing _).trans (congrArg _ hspace)
  have hlines : (Item.block header body).lines width depth =
      [margin width depth ++ header] ++ linesOf width (depth + 1) body ++
        [margin width depth ++ blockClose] := rfl
  rw [hlines, linesText_append, linesText_append, List.append_assoc, List.append_assoc,
    tokens_line hheader, hbody, tokens_line hclose]
  rfl

theorem tokens_tags (external : Bool) (width : Int) (depth : Nat) (rest : List Char) :
    tokens (linesText (linesOf width depth
        (if external then [Item.line Statement.externalTags] else [])) ++ rest) =
      tagTokens external ++ tokens rest := by
  cases external with
  | false => rfl
  | true =>
      refine tokens_line (fun rest => ?_) width depth rest
      have hchars : Statement.externalTags.toList ++ '\n' :: rest =
          "tags".toList ++ ' ' :: ((Statement.quote Statement.externalTag).toList ++ '\n' :: rest) := by
        simp [Statement.externalTags]
      rw [hchars, tokens_spaced (by decide), tokens_quote, tokens_space rfl]
      rfl

theorem declarationItem_eq (named : Named) (children : List (Tree Named)) :
    Document.declarationItem named (Document.forestItems children) =
      if !named.external && children.isEmpty then
        .line (Document.declarationLine named ++ Document.emptyBody named.keyword)
      else .block (Document.declarationLine named ++ " \x7b")
        ((if named.external then [Item.line Statement.externalTags] else [])
          ++ Document.forestItems children) := by
  have hempty : ((if named.external then [Item.line Statement.externalTags] else [])
      ++ Document.forestItems children).isEmpty = (!named.external && children.isEmpty) := by
    cases named.external <;> cases children <;> simp [Document.forestItems]
  simp only [Document.declarationItem, hempty]

mutual

theorem tokens_treeItem {tree : Tree Named} (hnames : ∀ named ∈ elements tree, IsName named.identifier)
    (width : Int) (depth : Nat) (rest : List Char) :
    tokens (linesText ((Document.treeItem tree).lines width depth) ++ rest) =
      treeTokens (tree.map Named.declared) ++ tokens rest := by
  cases tree with
  | node named children =>
      have hidentifier : IsName named.identifier := hnames named List.mem_cons_self
      have hinner : ∀ rest, tokens (linesText (linesOf width (depth + 1)
          (Document.forestItems children)) ++ rest) =
            forestTokens (children.map (Tree.map Named.declared)) ++ tokens rest :=
        tokens_forestItems (fun other hother => hnames other (List.mem_cons_of_mem _ hother)) width
          (depth + 1)
      rw [Document.treeItem, declarationItem_eq, Tree.map, treeTokens, Declared.braces, Tree.mapAll_eq,
        List.isEmpty_map]
      split
      · rename_i hempty
        rw [if_pos (show (!named.declared.external && children.isEmpty) = true from hempty)]
        exact tokens_line (tokens_leaf hidentifier) width depth rest
      · rename_i hempty
        have hbody : ∀ rest, tokens (linesText (linesOf width (depth + 1)
            ((if named.external then [Item.line Statement.externalTags] else [])
              ++ Document.forestItems children)) ++ rest) =
                tagTokens named.external ++
                  forestTokens (children.map (Tree.map Named.declared)) ++ tokens rest := by
          intro rest
          rw [linesOf_append, linesText_append, List.append_assoc, tokens_tags, hinner,
            List.append_assoc]
        rw [if_neg (show ¬(!named.declared.external && children.isEmpty) = true from hempty),
          tokens_block (tokens_holder hidentifier) hbody]
        simp [Named.declared]

/-- The declarations of elements give the tokens of what they say. -/
theorem tokens_forestItems {forest : List (Tree Named)}
    (hnames : ∀ named ∈ elementsOf forest, IsName named.identifier) (width : Int) (depth : Nat)
    (rest : List Char) :
    tokens (linesText (linesOf width depth (Document.forestItems forest)) ++ rest) =
      forestTokens (forest.map (Tree.map Named.declared)) ++ tokens rest := by
  cases forest with
  | nil => rfl
  | cons tree others =>
      rw [Document.forestItems, linesOf, linesText_append, List.append_assoc,
        tokens_treeItem fun named hnamed => hnames named (List.mem_append_left _ hnamed),
        tokens_forestItems fun named hnamed => hnames named (List.mem_append_right _ hnamed),
        List.map_cons, forestTokens, List.append_assoc]

end

/-- Every end of a relationship is written as a reference, if all paths are references. -/
theorem isReference_resolveEndpoint {paths : Naming.PathMap}
    (hpaths : ∀ entry ∈ paths.paths, Naming.IsReference entry.2) (endpoint : Endpoint) :
    Naming.IsReference (paths.resolveEndpoint endpoint) := by
  cases endpoint with
  | raw text => exact Naming.isReference_reference text
  | identity identity =>
      rw [Naming.PathMap.resolveEndpoint]
      cases hpath : paths.path? identity with
      | none =>
          exact Naming.isReference_of_isIdentifier (Naming.isIdentifier_baseIdentifier identity.name)
      | some path => exact hpaths _ (Naming.PathMap.mem_of_path? hpath)

theorem isName_resolveEndpoint {paths : Naming.PathMap}
    (hpaths : ∀ entry ∈ paths.paths, Naming.IsReference entry.2) (endpoint : Endpoint) :
    IsName (paths.resolveEndpoint endpoint) :=
  isName_of_isReference (isReference_resolveEndpoint hpaths endpoint)

theorem tokens_relationshipItem {paths : Naming.PathMap}
    (hpaths : ∀ entry ∈ paths.paths, Naming.IsReference entry.2) (relationship : Relationship)
    (width : Int) (depth : Nat) (rest : List Char) :
    tokens (linesText ((Document.relationshipItem paths relationship).lines width depth) ++ rest) =
      (relationship.arrow paths).tokens ++ tokens rest := by
  refine tokens_line (fun rest => ?_) width depth rest
  have hchars : (Statement.relationship (paths.resolveEndpoint relationship.source)
      (paths.resolveEndpoint relationship.target) relationship.description
        relationship.technology).toList ++ '\n' :: rest =
      (paths.resolveEndpoint relationship.source).toList ++ ' ' :: '-' :: '>' :: ' ' ::
        ((paths.resolveEndpoint relationship.target).toList ++ ' ' ::
          ((Statement.quote relationship.description).toList ++
            ((Statement.optional relationship.technology).toList ++ '\n' :: rest))) := by
    simp [Statement.relationship]
  rw [hchars, tokens_spaced (isName_resolveEndpoint hpaths _), tokens_arrow,
    tokens_spaced (isName_resolveEndpoint hpaths _), tokens_quote, tokens_optional, tokens_space rfl]
  rfl

theorem tokens_relationshipItems {paths : Naming.PathMap}
    (hpaths : ∀ entry ∈ paths.paths, Naming.IsReference entry.2) (relationships : List Relationship)
    (width : Int) (depth : Nat) (rest : List Char) :
    tokens (linesText (linesOf width depth
        (relationships.map (Document.relationshipItem paths))) ++ rest) =
      (relationships.map (Relationship.arrow paths)).flatMap Arrow.tokens ++ tokens rest := by
  induction relationships with
  | nil => rfl
  | cons relationship others ih =>
      rw [List.map_cons, linesOf, linesText_append, List.append_assoc,
        tokens_relationshipItem hpaths, ih, List.map_cons, List.flatMap_cons, List.append_assoc]

end Reading

namespace Workspace

open Reading Layout Outline Outcome
open Text (linesText linesText_append toList_joinLines)

variable {w : Workspace} {attachments : Hierarchy.Attachments}

/-- What the document of a workspace says in its header and its model. -/
def contents (w : Workspace) (attachments : Hierarchy.Attachments) : Contents where
  title := w.title
  summary := w.summary
  declarations := (w.named attachments).map (Tree.map Named.declared)
  relationships := w.relationships.map (Relationship.arrow (pathMap (w.named attachments)))

theorem isReference_of_mem_pathMap {entry : Identity × String}
    (hentry : entry ∈ (pathMap (w.named attachments)).paths) : Naming.IsReference entry.2 := by
  obtain ⟨named, hnamed, rfl⟩ := List.mem_map.mp hentry
  exact (follow_path hnamed).1

theorem tokens_modelItem (width : Int) (depth : Nat) (rest : List Char) :
    tokens (linesText ((Document.modelItem w (w.named attachments)
        (pathMap (w.named attachments))).lines width depth) ++ rest) =
      [.word "model", .opening] ++ (forestTokens (w.contents attachments).declarations ++
        ((w.contents attachments).relationships.flatMap Arrow.tokens ++ .closing :: tokens rest)) := by
  have hheader : ∀ rest, tokens (Statement.modelOpen.toList ++ '\n' :: rest) =
      [.word "model", .opening] ++ tokens rest := by
    intro rest
    have hword : IsName "model" := by decide
    have hchars : Statement.modelOpen.toList ++ '\n' :: rest =
        "model".toList ++ ' ' :: '\x7b' :: '\n' :: rest := by
      simp [Statement.modelOpen]
    rw [hchars, tokens_spaced hword, tokens_opening, tokens_space rfl]
    rfl
  have hbody : ∀ rest, tokens (linesText (linesOf width (depth + 1)
      (Document.forestItems (w.named attachments) ++
        w.relationships.map (Document.relationshipItem (pathMap (w.named attachments))))) ++ rest) =
      forestTokens (w.contents attachments).declarations ++
        (w.contents attachments).relationships.flatMap Arrow.tokens ++ tokens rest := by
    intro rest
    rw [linesOf_append, linesText_append, List.append_assoc,
      tokens_forestItems fun named hnamed => isName_of_isIdentifier (isIdentifier_named hnamed),
      tokens_relationshipItems fun entry => isReference_of_mem_pathMap, List.append_assoc]
    rfl
  rw [Document.modelItem, tokens_block hheader hbody, List.append_assoc]

theorem tokens_workspaceOpen (name description : String) (rest : List Char) :
    tokens ((Statement.workspaceOpen name description).toList ++ '\n' :: rest) =
      [.word "workspace", .literal name, .literal description, .opening] ++ tokens rest := by
  have hword : IsName "workspace" := by decide
  have hchars : (Statement.workspaceOpen name description).toList ++ '\n' :: rest =
      "workspace".toList ++ ' ' :: ((Statement.quote name).toList ++
        ' ' :: ((Statement.quote description).toList ++ ' ' :: '\x7b' :: '\n' :: rest)) := by
    simp [Statement.workspaceOpen]
  rw [hchars, tokens_spaced hword, tokens_quote, tokens_space rfl, tokens_quote, tokens_space rfl,
    tokens_opening, tokens_space rfl]
  rfl

theorem tokens_directive (rest : List Char) :
    tokens (Statement.identifiersDirective.toList ++ '\n' :: rest) =
      [.word "!identifiers", .word "hierarchical"] ++ tokens rest := by
  have hdirective : IsName "!identifiers" := by decide
  have hmode : IsName "hierarchical" := by decide
  have hchars : Statement.identifiersDirective.toList ++ '\n' :: rest =
      "!identifiers".toList ++ ' ' :: ("hierarchical".toList ++ '\n' :: rest) := by
    simp [Statement.identifiersDirective]
  rw [hchars, tokens_spaced hdirective, tokens_name hmode (by decide), tokens_space rfl]
  rfl

/-- Whatever views follow, the header and the model are read back. -/
theorem decode_render (w : Workspace) (attachments : Hierarchy.Attachments) (views : List Item)
    (width : Int) :
    decode (render width [.block (Statement.workspaceOpen w.title w.summary)
      (.line Statement.identifiersDirective :: .blank :: Document.modelItem w (w.named attachments)
        (pathMap (w.named attachments)) :: views)]) = some (w.contents attachments) := by
  have hblank : ∀ rest, tokens (linesText [""] ++ rest) = tokens rest := tokens_space rfl
  have hlines : (render width [.block (Statement.workspaceOpen w.title w.summary)
      (.line Statement.identifiersDirective :: .blank :: Document.modelItem w (w.named attachments)
        (pathMap (w.named attachments)) :: views)]).toList =
      linesText [margin width 0 ++ Statement.workspaceOpen w.title w.summary] ++
        (linesText [margin width 1 ++ Statement.identifiersDirective] ++ (linesText [""] ++
          (linesText ((Document.modelItem w (w.named attachments)
            (pathMap (w.named attachments))).lines width 1) ++
              (linesText (linesOf width 1 views) ++ (margin width 0 ++ blockClose).toList)))) := by
    simp only [render, linesOf, Item.lines, List.append_nil, toList_joinLines]
    simp only [linesText, List.cons_append, List.nil_append, List.flatMap_cons, List.flatMap_append,
      List.flatMap_nil, List.append_nil, List.append_assoc]
  rw [decode, hlines, tokens_line (tokens_workspaceOpen _ _), tokens_line tokens_directive, hblank,
    tokens_modelItem]
  exact contents_tokens (w.contents attachments) _

theorem decode_of_serialize {text : String} (h : w.serialize = .ok text) :
    ∃ attachments, w.attachments = .ok attachments ∧ decode text = some (w.contents attachments) := by
  obtain ⟨attachments, hattachments, views, -, rfl⟩ := serialize_eq_ok_iff.mp h
  exact ⟨attachments, hattachments, w.decode_render attachments views _⟩

end Workspace

end C4Model
