import C4Model.Proofs.Layout.Wording
import C4Model.Proofs.Workspace.Endpoints

/-! References that are given as texts. Whatever the text is, a reference of as many segments comes of it, and a
text that is a reference already stays as it is. Paths are references, so the text of a path stands for the
element just as well as the element itself. -/

namespace C4Model

open Hierarchy Naming Outline Outcome

namespace Naming

variable {text : String}

theorem identifier_of_isIdentifier (h : IsIdentifier text) : identifier text = text := by
  obtain ⟨c, rest, hchars, hstart, hall⟩ := h
  have hkept : ∀ d ∈ c :: rest, identifierChar d = d := by
    intro d hd
    have hkind : (Text.isAlphanumeric d || decide (d = '_')) = true := by
      simpa [IsIdentifierChar] using hall d hd
    rw [identifierChar, if_pos hkind]
  have hsame : (c :: rest).map identifierChar = c :: rest :=
    (List.map_congr_left hkept).trans (List.map_id _)
  rw [identifier, identifierChars, hchars, hsame]
  dsimp only
  rw [if_pos hstart, ← hchars, String.ofList_toList]

theorem strip_of_isReference (h : IsReference text) : Text.strip text = text := by
  have hterm := Layout.isTerm_of_isReference h
  have hempty : Text.AllBlank [] := nofun
  have hstripped := Text.stripBlanks_of_inked hempty hterm.beginsInked hterm.endsInked
  rw [Text.strip, ← List.nil_append text.toList, hstripped, String.ofList_toList]

/-- The references are the texts that are kept as they are. -/
theorem reference_eq_self_iff : reference text = text ↔ IsReference text := by
  constructor
  · intro h
    rw [← h]
    exact isReference_reference text
  · intro h
    obtain ⟨pieces, hpieces, hall, rfl⟩ := id h
    have hsegments : Text.splitOnChar '.' (joinPath pieces) = pieces := segments_joinPath hpieces hall
    have hsame : pieces.map identifier = pieces :=
      (List.map_congr_left fun piece hpiece => identifier_of_isIdentifier (hall piece hpiece)).trans
        (List.map_id _)
    rw [reference, strip_of_isReference h, hsegments, hsame]

/-- Every segment becomes an identifier, so none is lost and none is added. -/
theorem segments_reference (text : String) :
    segments (reference text) = (segments (Text.strip text)).map identifier := by
  refine segments_joinPath (List.map_eq_nil_iff.not.mpr (Text.splitOnChar_ne_nil _ _)) ?_
  intro segment hsegment
  obtain ⟨piece, -, rfl⟩ := List.mem_map.mp hsegment
  exact isIdentifier_identifier piece

/-- Two ways to give an end: one and the same, or an element that has a path and the text of that path. -/
inductive PathMap.SameEnd (paths : PathMap) : Endpoint → Endpoint → Prop where
  | same (endpoint : Endpoint) : paths.SameEnd endpoint endpoint
  | byPath {identity : Identity} {path : String} (h : paths.path? identity = some path) :
      paths.SameEnd (.identity identity) (.raw path)
  | byElement {identity : Identity} {path : String} (h : paths.path? identity = some path) :
      paths.SameEnd (.raw path) (.identity identity)

variable {paths : PathMap}

theorem PathMap.resolveEndpoint_identity {identity : Identity} {path : String}
    (h : paths.path? identity = some path) : paths.resolveEndpoint (.identity identity) = path := by
  rw [resolveEndpoint, h, Option.getD_some]

theorem PathMap.resolveEndpoint_raw (hpaths : ∀ entry ∈ paths.paths, IsReference entry.2)
    {identity : Identity} {path : String} (h : paths.path? identity = some path) :
    paths.resolveEndpoint (.raw path) = path :=
  reference_eq_self_iff.mpr (hpaths _ (mem_of_path? h))

theorem PathMap.SameEnd.resolveEndpoint_eq (hpaths : ∀ entry ∈ paths.paths, IsReference entry.2)
    {first second : Endpoint} (h : paths.SameEnd first second) :
    paths.resolveEndpoint first = paths.resolveEndpoint second := by
  cases h with
  | same => rfl
  | byPath h => rw [resolveEndpoint_identity h, resolveEndpoint_raw hpaths h]
  | byElement h => rw [resolveEndpoint_identity h, resolveEndpoint_raw hpaths h]

end Naming

/-- Two relationships of which the same is to be written, whose ends may be given in different ways. -/
structure Relationship.SameEnds (paths : PathMap) (first second : Relationship) : Prop where
  source : paths.SameEnd first.source second.source
  target : paths.SameEnd first.target second.target
  description : first.description = second.description
  technology : first.technology = second.technology

theorem Document.relationshipItem_eq {paths : PathMap}
    (hpaths : ∀ entry ∈ paths.paths, IsReference entry.2) {first second : Relationship}
    (h : first.SameEnds paths second) : relationshipItem paths first = relationshipItem paths second := by
  rw [relationshipItem, relationshipItem, h.source.resolveEndpoint_eq hpaths,
    h.target.resolveEndpoint_eq hpaths, h.description, h.technology]

namespace Workspace

variable {w : Workspace}

/-- A document stays the same if ends of relationships are given in another way. -/
theorem serialize_withEnds {attachments : Attachments} (hattachments : w.attachments = .ok attachments)
    {relationships : List Relationship} (hends : List.Forall₂
      (Relationship.SameEnds (pathMap (w.named attachments))) w.relationships relationships) :
    { w with relationships }.serialize = w.serialize := by
  have hlines : relationships.map (Document.relationshipItem (pathMap (w.named attachments))) =
      w.relationships.map (Document.relationshipItem (pathMap (w.named attachments))) := by
    refine List.forall₂_eq_eq_eq ▸ List.forall₂_map_left_iff.mpr (List.forall₂_map_right_iff.mpr ?_)
    exact hends.flip.imp fun _ _ h =>
      (Document.relationshipItem_eq (fun entry => isReference_of_mem_pathMap) h).symm
  have hitems : { w with relationships }.items = w.items := by
    have hpaths := (attachesAs_of_attachments hattachments).registerPaths_named
    have hsame : { w with relationships }.attachments = .ok attachments := hattachments
    have hnamed : { w with relationships }.named attachments = w.named attachments := rfl
    have hviews : ∀ paths, Document.viewsSection { w with relationships } paths =
        Document.viewsSection w paths := fun _ => rfl
    simp only [items, hsame, hattachments, hnamed, hviews, hpaths, Document.modelItem, hlines, title,
      summary, Except.mapError, bind, Except.bind]
  rw [serialize, serialize, hitems]

/-- Of every text comes a reference of as many segments, and the references are the texts that stay as they are.
All paths of a document are references; so an end of a relationship is written alike whether it is given as an
element of the document or as the text of its path, and the whole document stays the same. -/
theorem paths_stay_references :
    (∀ text, IsReference (reference text) ∧
      (segments (reference text)).length = (segments (Text.strip text)).length ∧
      reference (reference text) = reference text) ∧
    (∀ text, reference text = text ↔ IsReference text) ∧
    ∀ (w : Workspace) (text : String), w.serialize = .ok text →
      ∃ attachments paths, w.attachments = .ok attachments ∧
        registerPaths (w.named attachments) = .ok paths ∧
        (∀ entry ∈ paths.paths, IsReference entry.2) ∧
        (∀ element ∈ w.placed, ∃ path, paths.path? element.identity = some path ∧
          paths.resolveEndpoint (.identity element.identity) = path ∧
          paths.resolveEndpoint (.raw path) = path) ∧
        ∀ relationships, List.Forall₂ (Relationship.SameEnds paths) w.relationships relationships →
          { w with relationships }.serialize = .ok text := by
  refine ⟨fun text => ⟨isReference_reference text, ?_, ?_⟩, fun text => reference_eq_self_iff,
    fun w text h => ?_⟩
  · rw [segments_reference, List.length_map]
  · exact reference_eq_self_iff.mpr (isReference_reference text)
  · obtain ⟨attachments, hattachments, -⟩ := serialize_eq_ok_iff.mp h
    have hattaches := attachesAs_of_attachments hattachments
    refine ⟨attachments, _, hattachments, hattaches.registerPaths_named,
      fun entry => isReference_of_mem_pathMap, fun element helement => ?_, fun relationships hends => ?_⟩
    · obtain ⟨named, hnamed, hidentity⟩ :=
        List.mem_map.mp (hattaches.mem_writtenIdentities.mpr (List.mem_map_of_mem helement))
      have hpath := hattaches.path?_named hnamed
      rw [hidentity] at hpath
      exact ⟨named.path, hpath, PathMap.resolveEndpoint_identity hpath,
        PathMap.resolveEndpoint_raw (fun entry => isReference_of_mem_pathMap) hpath⟩
    · rw [serialize_withEnds hattachments hends, h]

/-- The reader of the bookshop and its shelf, both given by the texts of their paths. -/
theorem bookshop_by_paths :
    ∃ text, Bookshop.workspace.serialize = .ok text ∧
      { Bookshop.workspace with
        relationships := [⟨.raw "r", .raw "s.s.s", "Looks at", none, .synchronous⟩] }.serialize =
          .ok text := by
  obtain ⟨text, htext⟩ := Bookshop.exists_document
  obtain ⟨attachments, paths, hattachments, hpaths, -, -, hsame⟩ :=
    paths_stay_references.2.2 Bookshop.workspace text htext
  obtain rfl := Except.ok.inj (Bookshop.attachments_eq.symm.trans hattachments)
  obtain rfl := Except.ok.inj ((attachesAs_of_attachments hattachments).registerPaths_named.symm.trans
    hpaths)
  refine ⟨text, htext, hsame _ (.cons ⟨.byPath ?_, .byPath ?_, rfl, rfl⟩ .nil)⟩
  · decide +kernel
  · decide +kernel

end Workspace

end C4Model
