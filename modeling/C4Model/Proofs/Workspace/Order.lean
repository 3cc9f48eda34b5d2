import C4Model.Proofs.Workspace.Locality
import C4Model.Workspace.Assembly

/-! The order in which a workspace is put together. People, systems, relationships, views and styles are written
in the order in which they are added, and so are the children declared for one parent. All else may change
places if declared parents are given by themselves: then a declaration is accepted on account of the
elements that are not declared along with it, wherever it stands among the others. -/

namespace C4Model

open Hierarchy Outline
open scoped List

namespace Hierarchy

variable {α : Type} {kind : ChildKind α} {placed : List Element}
  {declarations declarations' : List (Declaration α)}

/-- For every parent the same children are declared in the same order. -/
def SameByParent (declarations declarations' : List (Declaration α)) : Prop :=
  ∀ parent : Endpoint, (declarations.filter fun declaration => declaration.parent.endpoint = parent) =
    declarations'.filter fun declaration => declaration.parent.endpoint = parent

/-- Lists that hold the same under every key are the same up to their order. -/
theorem perm_of_filter_eq {β κ : Type} [DecidableEq κ] (key : β → κ) {first second : List β}
    (h : ∀ k, (first.filter fun item => key item = k) = second.filter fun item => key item = k) :
    first ~ second := by
  classical
  refine List.perm_iff_count.mpr fun item => ?_
  have hcount : ∀ list : List β, (list.filter fun other => key other = key item).count item =
      list.count item := fun list => List.count_filter (by simp)
  rw [← hcount first, ← hcount second, h]

theorem SameByParent.perm (h : SameByParent declarations declarations') :
    declarations ~ declarations' :=
  perm_of_filter_eq (fun declaration : Declaration α => declaration.parent.endpoint) h

/-- Among different elements the first one with an identity is the only one. -/
theorem resolveAmong_append_of_mem {ref : Reference} {parent : Element}
    (hdistinct : (placed.map Element.identity).Nodup) (hmem : parent ∈ placed)
    (href : ref.endpoint = .identity parent.identity) (more : List Element) :
    resolveAmong (placed ++ more) ref = some parent := by
  obtain ⟨before, after, rfl⟩ := List.append_of_mem hmem
  rw [List.map_append, List.map_cons, List.nodup_append] at hdistinct
  have hbefore : before.find? (fun element => decide (element.identity = parent.identity)) = none := by
    rw [List.find?_eq_none]
    intro element helement hsame
    exact hdistinct.2.2 _ (List.mem_map_of_mem helement) _ List.mem_cons_self (of_decide_eq_true hsame)
  simp only [resolveAmong, href]
  rw [List.append_assoc, List.find?_append, hbefore, Option.none_or, List.cons_append]
  exact List.find?_cons_of_pos (decide_eq_true rfl)

/-- If no child may be a parent itself, declared parents are found among what stands before all
declarations. -/
theorem parentsResolve_iff_of_byIdentity (hdistinct : (placed.map Element.identity).Nodup)
    (hchildren : ∀ child, ∀ element ∈ kind.elements child, element.kind ≠ kind.expected)
    (hparents : ∀ declaration ∈ declarations, declaration.ByIdentity) :
    ParentsResolve kind placed declarations ↔
      ∀ declaration ∈ declarations, ∃ parent ∈ placed,
        declaration.parent.endpoint = .identity parent.identity ∧ parent.kind = kind.expected := by
  constructor
  · intro h declaration hmem
    obtain ⟨before, after, hsplit⟩ := List.append_of_mem hmem
    obtain ⟨parent, hresolve, hkind⟩ := h before declaration after hsplit
    refine ⟨parent, ?_, ?_, hkind⟩
    · rcases List.mem_append.mp (mem_of_resolveAmong hresolve) with hplaced | hearlier
      · exact hplaced
      · obtain ⟨earlier, -, helement⟩ := List.mem_flatMap.mp hearlier
        exact absurd hkind (hchildren earlier.child parent helement)
    · obtain ⟨who, hwho⟩ := hparents declaration hmem
      have hrefers := refersTo_of_resolveAmong hresolve
      rw [Registry.refersTo, hwho] at hrefers
      rw [hwho, of_decide_eq_true hrefers]
  · intro h before declaration after hsplit
    have hmem : declaration ∈ declarations := by
      rw [hsplit]
      exact List.mem_append_right _ List.mem_cons_self
    obtain ⟨parent, hplaced, href, hkind⟩ := h declaration hmem
    exact ⟨parent, resolveAmong_append_of_mem hdistinct hplaced href _, hkind⟩

/-- The children of a parent are those declared for it. -/
theorem childrenOf_of_byIdentity {attached : List (Identity × α)}
    (h : List.Forall₂ (AttachedTo kind placed) declarations attached)
    (hparents : ∀ declaration ∈ declarations, declaration.ByIdentity) (parent : Identity) :
    childrenOf attached parent =
      (declarations.filter fun declaration => declaration.parent.endpoint = .identity parent).map
        (·.child) := by
  induction h with
  | nil => rfl
  | @cons declaration entry rest others hentry _ ih =>
      obtain ⟨hfirst, hrest⟩ := List.forall_mem_cons.mp hparents
      obtain ⟨hchild, above, -, habove, -, hrefers⟩ := hentry
      obtain ⟨who, hwho⟩ := hfirst
      rw [Registry.refersTo, hwho] at hrefers
      have hendpoint : declaration.parent.endpoint = .identity entry.1 := by
        rw [hwho, of_decide_eq_true hrefers, habove]
      have hstep := ih hrest
      rw [childrenOf] at hstep ⊢
      by_cases hsame : entry.1 = parent
      · simp [hendpoint, hsame, hstep, hchild]
      · simp [hendpoint, hsame, hstep]

end Hierarchy

namespace Workspace

/-- The workspaces differ in nothing but the places of declarations for different parents. -/
structure Rearranged (w w' : Workspace) : Prop where
  same : w' = { w with
    containerDeclarations := w'.containerDeclarations
    componentDeclarations := w'.componentDeclarations }
  containers : SameByParent w.containerDeclarations w'.containerDeclarations
  components : SameByParent w.componentDeclarations w'.componentDeclarations

variable {w w' : Workspace}

theorem Rearranged.symm (h : Rearranged w w') : Rearranged w' w where
  same := by rw [h.same]
  containers := fun parent => (h.containers parent).symm
  components := fun parent => (h.components parent).symm

theorem Rearranged.topElements_eq (h : Rearranged w w') : w'.topElements = w.topElements := by
  rw [h.same]
  rfl

theorem Rearranged.declaredContainers_perm (h : Rearranged w w') :
    w.declaredContainers ~ w'.declaredContainers :=
  h.containers.perm.flatMap_right _

theorem Rearranged.placed_perm (h : Rearranged w w') : w.placed ~ w'.placed := by
  rw [placed, placed, h.topElements_eq]
  exact (h.declaredContainers_perm.append_left _).append (h.components.perm.flatMap_right _)

theorem ParentsByIdentity.rearranged (hparents : w.ParentsByIdentity) (h : Rearranged w w') :
    w'.ParentsByIdentity where
  containers := fun declaration hmem =>
    hparents.containers declaration (h.containers.perm.mem_iff.mpr hmem)
  components := fun declaration hmem =>
    hparents.components declaration (h.components.perm.mem_iff.mpr hmem)

/-- What is declared for a system is no system, and what is declared for a container is no container. -/
theorem kind_ne_expected_of_container (container : Container) :
    ∀ element ∈ containerChildren.elements container, element.kind ≠ containerChildren.expected := by
  intro element helement
  rcases List.mem_cons.mp helement with rfl | hheld
  · exact fun h => by cases h
  · obtain ⟨component, -, rfl⟩ := List.mem_map.mp hheld
    exact fun h => by cases h

theorem kind_ne_expected_of_component (component : Component) :
    ∀ element ∈ componentChildren.elements component, element.kind ≠ componentChildren.expected := by
  intro element helement
  obtain rfl := List.mem_singleton.mp helement
  exact fun h => by cases h

theorem Placeable.rearranged (hplaceable : w.Placeable) (hparents : w.ParentsByIdentity)
    (h : Rearranged w w') : w'.Placeable := by
  have hdistinct : (w'.placed.map Element.identity).Nodup :=
    (h.placed_perm.map _).nodup_iff.mp hplaceable.distinct
  have hparents' := hparents.rearranged h
  refine ⟨hdistinct, ?_, ?_, ?_⟩
  · have hfound := (parentsResolve_iff_of_byIdentity (distinct_topElements hplaceable.distinct)
      kind_ne_expected_of_container hparents.containers).mp hplaceable.containerParents
    refine (parentsResolve_iff_of_byIdentity (distinct_topElements hdistinct)
      kind_ne_expected_of_container hparents'.containers).mpr fun declaration hmem => ?_
    rw [h.topElements_eq]
    exact hfound declaration (h.containers.perm.mem_iff.mpr hmem)
  · have hfound := (parentsResolve_iff_of_byIdentity (distinct_topAndContainers hplaceable.distinct)
      kind_ne_expected_of_component hparents.components).mp hplaceable.componentParents
    refine (parentsResolve_iff_of_byIdentity (distinct_topAndContainers hdistinct)
      kind_ne_expected_of_component hparents'.components).mpr fun declaration hmem => ?_
    obtain ⟨parent, hplaced, hparent⟩ := hfound declaration (h.components.perm.mem_iff.mpr hmem)
    refine ⟨parent, ?_, hparent⟩
    rw [h.topElements_eq]
    exact (h.declaredContainers_perm.append_left _).mem_iff.mp hplaced
  · rw [h.same]
    exact hplaceable.viewsScoped

/-- Every parent gets the same children in the same order. -/
theorem Rearranged.ofWorkspace_eq (h : Rearranged w w') (hparents : w.ParentsByIdentity)
    {attachments attachments' : Attachments} (hattachments : w.AttachesAs attachments)
    (hattachments' : w'.AttachesAs attachments') :
    ofWorkspace w' attachments' = ofWorkspace w attachments := by
  have hparents' := hparents.rearranged h
  have hcontainers : attachments'.containersOf = attachments.containersOf := by
    funext system
    rw [Attachments.containersOf, Attachments.containersOf,
      childrenOf_of_byIdentity hattachments.containers hparents.containers,
      childrenOf_of_byIdentity hattachments'.containers hparents'.containers, h.containers]
  have hcomponents : attachments'.componentsOf = attachments.componentsOf := by
    funext container
    rw [Attachments.componentsOf, Attachments.componentsOf,
      childrenOf_of_byIdentity hattachments.components hparents.components,
      childrenOf_of_byIdentity hattachments'.components hparents'.components, h.components]
  have hcontainer : ofContainer attachments' = ofContainer attachments := by
    funext container
    rw [ofContainer, ofContainer, hcomponents]
  have hsystem : ofSystem attachments' = ofSystem attachments := by
    funext system
    rw [ofSystem, ofSystem, hcontainers, hcontainer]
  rw [ofWorkspace, ofWorkspace, hsystem, h.same]

theorem serialize_of_rearranged (h : Rearranged w w') (hparents : w.ParentsByIdentity) {text : String}
    (htext : w.serialize = .ok text) : w'.serialize = .ok text := by
  obtain ⟨attachments, hattachments, views, hviews, rfl⟩ := serialize_eq_ok_iff.mp htext
  obtain ⟨hplaceable, hwritable⟩ := exists_serialize_iff.mp ⟨_, htext⟩
  have hwritable' : w'.StylesWritable := by
    rw [h.same]
    exact hwritable
  obtain ⟨text', htext'⟩ := exists_serialize_iff.mpr ⟨hplaceable.rearranged hparents h, hwritable'⟩
  obtain ⟨attachments', hattachments', -⟩ := serialize_eq_ok_iff.mp htext'
  have htrees := h.ofWorkspace_eq hparents (attachesAs_of_attachments hattachments)
    (attachesAs_of_attachments hattachments')
  have hnamed : w'.named attachments' = w.named attachments := by
    rw [named, named, htrees, h.same]
  refine serialize_eq_ok_iff.mpr ⟨attachments', hattachments', views, ?_, ?_⟩
  · rw [hnamed, h.same]
    exact hviews
  · rw [hnamed, h.same]
    rfl

end Workspace

namespace Addition

/-- What counts as one row: the additions of one kind, and of declared children those for one parent. -/
inductive Row where
  | people
  | systems
  | containersOf (parent : Endpoint)
  | componentsOf (parent : Endpoint)
  | relationships
  | views
  | elementStyles
  | relationshipStyles
  deriving DecidableEq

def row : Addition → Row
  | .person _ => .people
  | .softwareSystem _ => .systems
  | .container parent _ => .containersOf parent.endpoint
  | .component parent _ => .componentsOf parent.endpoint
  | .relationship .. => .relationships
  | .view _ => .views
  | .elementStyle _ => .elementStyles
  | .relationshipStyle _ => .relationshipStyles

/-- A declared parent is given by itself, not by a name. -/
def ParentByIdentity : Addition → Prop
  | .container parent _ => ∃ who, parent.endpoint = .identity who
  | .component parent _ => ∃ who, parent.endpoint = .identity who
  | _ => True

@[simp] def person? : Addition → Option Person
  | .person added => some added
  | _ => none

@[simp] def softwareSystem? : Addition → Option SoftwareSystem
  | .softwareSystem added => some added
  | _ => none

@[simp] def container? : Addition → Option (Declaration Container)
  | .container parent added => some ⟨added, parent⟩
  | _ => none

@[simp] def component? : Addition → Option (Declaration Component)
  | .component parent added => some ⟨added, parent⟩
  | _ => none

/-- The relationship that is added, unless it is refused. -/
@[simp] def relationship? : Addition → Option Relationship
  | .relationship source target description technology interaction =>
      (Relationship.make source target description technology interaction).toOption
  | _ => none

@[simp] def view? : Addition → Option View
  | .view added => some added
  | _ => none

@[simp] def elementStyle? : Addition → Option ElementStyle
  | .elementStyle added => some added
  | _ => none

@[simp] def relationshipStyle? : Addition → Option RelationshipStyle
  | .relationshipStyle added => some added
  | _ => none

theorem eq_of_container? {addition : Addition} {declaration : Declaration Container}
    (h : addition.container? = some declaration) :
    addition = .container declaration.parent declaration.child := by
  cases addition with
  | container parent added =>
      obtain rfl := Option.some.inj h
      rfl
  | _ => cases h

theorem eq_of_component? {addition : Addition} {declaration : Declaration Component}
    (h : addition.component? = some declaration) :
    addition = .component declaration.parent declaration.child := by
  cases addition with
  | component parent added =>
      obtain rfl := Option.some.inj h
      rfl
  | _ => cases h

/-- The same additions, with those of every row in the same order. -/
def Reordered (additions additions' : List Addition) : Prop :=
  ∀ row, (additions.filter fun addition => addition.row = row) =
    additions'.filter fun addition => addition.row = row

variable {additions additions' : List Addition}

theorem Reordered.perm (h : Reordered additions additions') : additions ~ additions' :=
  perm_of_filter_eq row h

/-- What is taken from one row only comes in the same order. -/
theorem Reordered.filterMap_eq {β : Type} (h : Reordered additions additions') (row : Row)
    (part : Addition → Option β)
    (hpart : ∀ addition value, part addition = some value → addition.row = row) :
    additions.filterMap part = additions'.filterMap part := by
  have hrow : ∀ list : List Addition,
      (list.filter fun addition => addition.row = row).filterMap part = list.filterMap part := by
    intro list
    rw [List.filterMap_filter]
    refine List.filterMap_congr fun addition _ => ?_
    cases hvalue : part addition with
    | none => simp
    | some value => simp [hpart addition value hvalue]
  rw [← hrow additions, ← hrow additions', h row]

/-- What is declared for one parent comes in the same order. -/
theorem Reordered.sameByParent {α : Type} (h : Reordered additions additions')
    (rowOf : Endpoint → Row) {part : Addition → Option (Declaration α)}
    (hpart : ∀ addition declaration, part addition = some declaration →
      addition.row = rowOf declaration.parent.endpoint) (before : List (Declaration α)) :
    SameByParent (before ++ additions.filterMap part) (before ++ additions'.filterMap part) := by
  intro parent
  rw [List.filter_append, List.filter_append, List.filter_filterMap, List.filter_filterMap]
  congr 1
  refine h.filterMap_eq (rowOf parent) _ ?_
  intro addition declaration hdeclared
  obtain ⟨hsome, hparent⟩ := Option.filter_eq_some_iff.mp hdeclared
  rw [hpart addition declaration hsome, of_decide_eq_true hparent]

end Addition

namespace Workspace

open Addition

/-- What a workspace holds after additions, kind by kind. -/
theorem addAll_eq (w : Workspace) (additions : List Addition) :
    w.addAll additions = { w with
      people := w.people ++ additions.filterMap person?
      systems := w.systems ++ additions.filterMap softwareSystem?
      containerDeclarations := w.containerDeclarations ++ additions.filterMap container?
      componentDeclarations := w.componentDeclarations ++ additions.filterMap component?
      relationships := w.relationships ++ additions.filterMap relationship?
      views := w.views ++ additions.filterMap view?
      elementStyles := w.elementStyles ++ additions.filterMap elementStyle?
      relationshipStyles := w.relationshipStyles ++ additions.filterMap relationshipStyle? } := by
  induction additions generalizing w with
  | nil => simp [addAll]
  | cons addition rest ih =>
      cases addition with
      | relationship source target description technology interaction =>
          cases hmade : Relationship.make source target description technology interaction with
          | error error => simp [addAll, add, hmade, ih, List.filterMap_cons, Except.map, Except.toOption]
          | ok relationship =>
              simp [addAll, add, hmade, ih, addRelationship, List.filterMap_cons, Except.map,
                Except.toOption]
      | person | softwareSystem | container | component | view | elementStyle | relationshipStyle =>
          simp [addAll, add, ih, addPerson, addSoftwareSystem, addContainer, addComponent, addView,
            addElementStyle, addRelationshipStyle, List.filterMap_cons]

theorem addAll_append (w : Workspace) (first second : List Addition) :
    w.addAll (first ++ second) = (w.addAll first).addAll second := by
  simp only [addAll_eq, List.filterMap_append, List.append_assoc]

/-- What is refused leaves no trace. -/
theorem addAll_of_refused {w : Workspace} {before : List Addition} {refused : Addition}
    {error : FieldError} (h : (w.addAll before).add refused = .error error) (after : List Addition) :
    w.addAll (before ++ refused :: after) = w.addAll (before ++ after) := by
  rw [addAll_append, addAll_append, addAll, h]

theorem ParentsByIdentity.addAll {w : Workspace} (hw : w.ParentsByIdentity) {additions : List Addition}
    (hparents : ∀ addition ∈ additions, addition.ParentByIdentity) :
    (w.addAll additions).ParentsByIdentity := by
  rw [addAll_eq]
  constructor
  · intro declaration hmem
    rcases List.mem_append.mp hmem with hthere | hadded
    · exact hw.containers declaration hthere
    · obtain ⟨addition, haddition, hpart⟩ := List.mem_filterMap.mp hadded
      obtain rfl := eq_of_container? hpart
      exact hparents _ haddition
  · intro declaration hmem
    rcases List.mem_append.mp hmem with hthere | hadded
    · exact hw.components declaration hthere
    · obtain ⟨addition, haddition, hpart⟩ := List.mem_filterMap.mp hadded
      obtain rfl := eq_of_component? hpart
      exact hparents _ haddition

/-- Additions in another order change the places of declarations for different parents and nothing else. -/
theorem rearranged_addAll (w : Workspace) {additions additions' : List Addition}
    (h : Reordered additions additions') :
    Rearranged (w.addAll additions) (w.addAll additions') := by
  rw [addAll_eq, addAll_eq]
  constructor
  case same =>
    have hpeople := h.filterMap_eq .people person?
      fun addition _ _ => by cases addition <;> simp_all [row]
    have hsystems := h.filterMap_eq .systems softwareSystem?
      fun addition _ _ => by cases addition <;> simp_all [row]
    have hrelationships := h.filterMap_eq .relationships relationship?
      fun addition _ _ => by cases addition <;> simp_all [row]
    have hviews := h.filterMap_eq .views view?
      fun addition _ _ => by cases addition <;> simp_all [row]
    have helementStyles := h.filterMap_eq .elementStyles elementStyle?
      fun addition _ _ => by cases addition <;> simp_all [row]
    have hrelationshipStyles := h.filterMap_eq .relationshipStyles relationshipStyle?
      fun addition _ _ => by cases addition <;> simp_all [row]
    simp only [hpeople, hsystems, hrelationships, hviews, helementStyles, hrelationshipStyles]
  case containers =>
    refine h.sameByParent .containersOf (fun addition declaration hdeclared => ?_) _
    rw [eq_of_container? hdeclared, row]
  case components =>
    refine h.sameByParent .componentsOf (fun addition declaration hdeclared => ?_) _
    rw [eq_of_component? hdeclared, row]

/-- The order of additions matters only among those of one kind, and among declared children only for those of
one parent: otherwise the same document comes out, in either mode, or none in both cases. An addition that
is refused is as good as none. -/
theorem serialize_addAll_of_reordered {start : Workspace} {additions additions' : List Addition}
    (hstart : start.ParentsByIdentity) (h : Reordered additions additions')
    (hparents : ∀ addition ∈ additions, addition.ParentByIdentity) :
    (∀ text, (start.addAll additions).serialize = .ok text ↔
      (start.addAll additions').serialize = .ok text) ∧
    ∀ before refused after error, (start.addAll before).add refused = .error error →
      start.addAll (before ++ refused :: after) = start.addAll (before ++ after) := by
  have hrearranged := start.rearranged_addAll h
  have hparents' : ∀ addition ∈ additions', addition.ParentByIdentity :=
    fun addition hmem => hparents addition (h.perm.mem_iff.mpr hmem)
  constructor
  · intro text
    constructor
    · exact serialize_of_rearranged hrearranged (hstart.addAll hparents)
    · exact serialize_of_rearranged hrearranged.symm (hstart.addAll hparents')
  · intro before refused after error hrefused
    exact addAll_of_refused hrefused after

end Workspace

namespace Bookshop

/-- The bookshop, put together from the outermost element inwards. -/
def inwards : List Addition :=
  [.person reader, .softwareSystem shop, .container (.element (.softwareSystem shop)) stock,
    .component (.identity stock.identity) shelf,
    .relationship (.element (.person reader)) (.element (.component shelf)) " " none .synchronous,
    .relationship (.element (.person reader)) (.element (.component shelf)) "Looks at" none .synchronous,
    .view ⟨.container, "In the shop", some (.element (.softwareSystem shop)),
      [.identity shelf.identity], []⟩]

/-- The same additions from the innermost element outwards. -/
def outwards : List Addition :=
  [.component (.identity stock.identity) shelf,
    .relationship (.element (.person reader)) (.element (.component shelf)) " " none .synchronous,
    .container (.element (.softwareSystem shop)) stock,
    .view ⟨.container, "In the shop", some (.element (.softwareSystem shop)),
      [.identity shelf.identity], []⟩,
    .softwareSystem shop,
    .relationship (.element (.person reader)) (.element (.component shelf)) "Looks at" none .synchronous,
    .person reader]

theorem reordered : Addition.Reordered inwards outwards := by
  intro row
  cases row <;> rfl

theorem addAll_inwards : ({} : Workspace).addAll inwards = declared := by
  rfl

end Bookshop

namespace Workspace

open Bookshop

/-- The bookshop has the same document outwards and inwards, and a relationship without a description, refused
behind the first four additions, does not show in it. -/
theorem serialize_inwards_outwards :
    (∃ text, (({} : Workspace).addAll inwards).serialize = .ok text ∧
      (({} : Workspace).addAll outwards).serialize = .ok text) ∧
    ({} : Workspace).addAll inwards = ({} : Workspace).addAll (inwards.take 4 ++ inwards.drop 5) := by
  have hstart : ({} : Workspace).ParentsByIdentity := ⟨by simp, by simp⟩
  have hparents : ∀ addition ∈ inwards, addition.ParentByIdentity := by
    simp [inwards, Addition.ParentByIdentity, Reference.endpoint]
  obtain ⟨hsame, hrefused⟩ := serialize_addAll_of_reordered hstart reordered hparents
  obtain ⟨text, htext⟩ := exists_serialize_iff.mpr ⟨declared_placeable, by decide +kernel⟩
  rw [← addAll_inwards] at htext
  exact ⟨⟨text, htext, (hsame text).mp htext⟩, hrefused (inwards.take 4) _ (inwards.drop 5) _ rfl⟩

end Workspace

end C4Model
