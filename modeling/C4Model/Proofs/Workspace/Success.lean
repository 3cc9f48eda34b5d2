import C4Model.Proofs.Layout.Pattern
import C4Model.Proofs.View.Section
import C4Model.Proofs.Workspace.Outline

/-! When a workspace has a document. It has one exactly if no element is placed twice, every declared parent
is found where it may be, every view that is rendered has the element it is about, and every number in a style
that is rendered can be written. Otherwise one of four errors says why, unless only the numbers are in the way;
in particular no element is ever given a second path. -/

namespace C4Model

open Hierarchy Outcome

/-- The errors that a workspace is refused with. -/
inductive SerializeError.Foreseen : SerializeError → Prop
  | duplicate (kind : ElementKind) (element : String) :
      Foreseen (.hierarchy (.duplicate kind element))
  | invalidParent (child : String) (expected : ElementKind) (actual : Option ElementKind)
      (parent : String) : Foreseen (.hierarchy (.invalidParent child expected actual parent))
  | circular (element : String) : Foreseen (.hierarchy (.circular element))
  | scopeMissing (viewType : ViewType) (title : String) :
      Foreseen (.render (.scopeMissing viewType title))

namespace Workspace

/-- What a workspace needs to have a document. -/
structure Placeable (w : Workspace) : Prop where
  distinct : (w.placed.map Element.identity).Nodup
  containerParents : ParentsResolve containerChildren w.topElements w.containerDeclarations
  componentParents : ParentsResolve componentChildren (w.topElements ++ w.declaredContainers)
    w.componentDeclarations
  viewsScoped : w.viewsText.getD "" = "" → ∀ view ∈ w.views, view.Scoped

theorem exists_viewsFragment_iff {w : Workspace} {paths : Naming.PathMap} :
    (∃ fragment, Document.viewsFragment w paths = .ok fragment) ↔
      (w.viewsText.getD "" = "" → ∀ view ∈ w.views, view.Scoped) ∧ w.StylesWritable := by
  by_cases h : w.viewsText.getD "" = ""
  · simp only [viewsFragment_eq_ok_iff_of_none h, exists_and_left, View.exists_renderAll_iff,
      forall_prop_of_true h]
    exact and_comm
  · exact iff_of_true ⟨_, viewsFragment_of_some h⟩ ⟨fun hnone => absurd hnone h, fun hnone => absurd hnone h⟩

/-- What keeps views from being rendered, of which the styles come first. -/
theorem viewsFragment_error {w : Workspace} {paths : Naming.PathMap} {error : SerializeError}
    (h : Document.viewsFragment w paths = .error error) :
    error = .numeral .tooLarge ∧ ¬w.StylesWritable ∨
      w.StylesWritable ∧ ∃ viewType title, error = .render (.scopeMissing viewType title) := by
  by_cases hnone : w.viewsText.getD "" = ""
  · rw [viewsFragment_of_none hnone] at h
    rcases bind_eq_error_iff.mp h with h | ⟨styles, hstyles, h⟩
    · obtain ⟨cause, hcause, rfl⟩ := mapError_eq_error_iff.mp h
      obtain ⟨rfl, htext, hlarge⟩ := stylesFragment_eq_error hcause
      exact Or.inl ⟨rfl, fun hwritable => hlarge (hwritable hnone htext)⟩
    · obtain ⟨cause, hcause, rfl⟩ := mapError_eq_error_iff.mp h
      obtain ⟨viewType, title, rfl⟩ := View.renderAll_error hcause
      exact Or.inr ⟨fun _ => (stylesFragment_eq_ok_iff.mp (mapError_eq_ok_iff.mp hstyles)).1, viewType, title,
        rfl⟩
  · rw [viewsFragment_of_some hnone] at h
    cases h

/-- A document is what three steps give, of which the second never fails once the first is done. -/
theorem items_eq_ok_iff {w : Workspace} {items : List Layout.Item} :
    w.items = .ok items ↔
      ∃ attachments, w.attachments = .ok attachments ∧
        ∃ views, Document.viewsSection w (Outline.pathMap (w.named attachments)) = .ok views ∧
          items = [.block (Layout.Statement.workspaceOpen w.title w.summary)
            (.line Layout.Statement.identifiersDirective :: .blank ::
              Document.modelItem w (w.named attachments) (Outline.pathMap (w.named attachments)) ::
                views)] := by
  simp only [Workspace.items, bind_eq_ok_iff, mapError_eq_ok_iff, pure, Except.pure, Except.ok.injEq]
  constructor
  · rintro ⟨attachments, hattachments, paths, hpaths, views, hviews, rfl⟩
    rw [(attachesAs_of_attachments hattachments).registerPaths_named] at hpaths
    obtain rfl := Except.ok.inj hpaths
    exact ⟨attachments, hattachments, views, hviews, rfl⟩
  · rintro ⟨attachments, hattachments, views, hviews, rfl⟩
    exact ⟨attachments, hattachments, _,
      (attachesAs_of_attachments hattachments).registerPaths_named, views, hviews, rfl⟩

theorem serialize_eq_ok_iff {w : Workspace} {text : String} :
    w.serialize = .ok text ↔
      ∃ attachments, w.attachments = .ok attachments ∧
        ∃ views, Document.viewsSection w (Outline.pathMap (w.named attachments)) = .ok views ∧
          text = Layout.render w.settings.indentWidth
            [.block (Layout.Statement.workspaceOpen w.title w.summary)
              (.line Layout.Statement.identifiersDirective :: .blank :: Document.modelItem w
                (w.named attachments) (Outline.pathMap (w.named attachments)) :: views)] := by
  rw [serialize, map_eq_ok_iff]
  constructor
  · rintro ⟨items, hitems, rfl⟩
    obtain ⟨attachments, hattachments, views, hviews, rfl⟩ := items_eq_ok_iff.mp hitems
    exact ⟨attachments, hattachments, views, hviews, rfl⟩
  · rintro ⟨attachments, hattachments, views, hviews, rfl⟩
    exact ⟨_, items_eq_ok_iff.mpr ⟨attachments, hattachments, views, hviews, rfl⟩, rfl⟩

theorem exists_items_iff {w : Workspace} :
    (∃ items, w.items = .ok items) ↔ w.Placeable ∧ w.StylesWritable := by
  constructor
  · rintro ⟨items, h⟩
    obtain ⟨attachments, hattachments, views, hviews, -⟩ := items_eq_ok_iff.mp h
    have hattaches := attachesAs_of_attachments hattachments
    obtain ⟨fragment, hfragment, -⟩ := bind_eq_ok_iff.mp hviews
    obtain ⟨hscoped, hwritable⟩ := exists_viewsFragment_iff.mp ⟨fragment, hfragment⟩
    exact ⟨⟨hattaches.distinct, hattaches.containerParents, hattaches.componentParents, hscoped⟩, hwritable⟩
  · rintro ⟨h, hwritable⟩
    obtain ⟨attachments, hattachments⟩ :=
      attachments_of_parentsResolve h.distinct h.containerParents h.componentParents
    obtain ⟨fragment, hfragment⟩ := exists_viewsFragment_iff.mpr ⟨h.viewsScoped, hwritable⟩
    exact ⟨_, items_eq_ok_iff.mpr ⟨attachments, hattachments, _,
      bind_eq_ok_iff.mpr ⟨fragment, hfragment, rfl⟩, rfl⟩⟩

/-- A workspace is refused for its declarations, or else for its styles, or else for its views. -/
theorem items_error {w : Workspace} {error : SerializeError} (h : w.items = .error error) :
    (∃ cause, w.attachments = .error cause ∧ error = .hierarchy cause) ∨
      error = .numeral .tooLarge ∧ ¬w.StylesWritable ∨
      w.StylesWritable ∧ ∃ viewType title, error = .render (.scopeMissing viewType title) := by
  rcases bind_eq_error_iff.mp h with h | ⟨attachments, hattachments, h⟩
  · obtain ⟨cause, hcause, rfl⟩ := mapError_eq_error_iff.mp h
    exact Or.inl ⟨cause, hcause, rfl⟩
  · have hattaches := attachesAs_of_attachments (mapError_eq_ok_iff.mp hattachments)
    rcases bind_eq_error_iff.mp h with h | ⟨paths, -, h⟩
    · rw [hattaches.registerPaths_named] at h
      cases h
    · rcases bind_eq_error_iff.mp h with h | ⟨views, -, h⟩
      · rcases bind_eq_error_iff.mp h with h | ⟨_, -, h⟩
        · exact Or.inr (viewsFragment_error h)
        · cases h
      · cases h

theorem serialize_error {w : Workspace} {error : SerializeError} (h : w.serialize = .error error) :
    error.Foreseen ∨ error = .numeral .tooLarge ∧ ¬w.StylesWritable := by
  rcases items_error (map_eq_error_iff.mp h) with ⟨cause, hcause, rfl⟩ | hlarge | ⟨-, viewType, title, rfl⟩
  · have hknown := attachments_error hcause
    refine Or.inl ?_
    cases cause with
    | duplicate kind element => exact .duplicate kind element
    | invalidParent child expected actual parent =>
        exact .invalidParent child expected actual parent
    | circular element => exact .circular element
    | unregisteredAncestor => exact absurd rfl hknown
  · exact Or.inr hlarge
  · exact Or.inl (.scopeMissing viewType title)

theorem exists_serialize_iff {w : Workspace} :
    (∃ text, w.serialize = .ok text) ↔ w.Placeable ∧ w.StylesWritable := by
  rw [← exists_items_iff]
  constructor
  · rintro ⟨text, h⟩
    obtain ⟨items, hitems, -⟩ := map_eq_ok_iff.mp h
    exact ⟨items, hitems⟩
  · rintro ⟨items, hitems⟩
    exact ⟨_, map_eq_ok_iff.mpr ⟨items, hitems, rfl⟩⟩

/-- Numbers that cannot be written are enough for a refusal. -/
theorem serialize_of_not_writable {w : Workspace} {attachments : Attachments}
    (hattachments : w.attachments = .ok attachments) (h : ¬w.StylesWritable) :
    w.serialize = .error (.numeral .tooLarge) := by
  cases hserialize : w.serialize with
  | ok text => exact absurd (exists_serialize_iff.mp ⟨text, hserialize⟩).2 h
  | error error =>
      rcases items_error (map_eq_error_iff.mp hserialize) with ⟨cause, hcause, -⟩ | ⟨rfl, -⟩ | ⟨hwritable, -⟩
      · rw [hattachments] at hcause
        cases hcause
      · rfl
      · exact absurd hwritable h

/-- A workspace has a document exactly if it is placeable and the numbers in its styles can be written. A refusal
is one of the foreseen errors, never a second path for an element, a missing ancestor, or a line whose template
lacks a field; but a placeable workspace is refused for the numbers alone, with an error of no such kind. -/
theorem serialize_succeeds_iff (w : Workspace) :
    ((∃ text, w.serialize = .ok text) ↔ w.Placeable ∧ w.StylesWritable) ∧
      (∀ error, w.serialize = .error error →
        error.Foreseen ∨ error = .numeral .tooLarge ∧ ¬w.StylesWritable) ∧
      (w.Placeable → ¬w.StylesWritable → w.serialize = .error (.numeral .tooLarge)) ∧
      ∀ line : Layout.Line, renderPattern line.template.pattern line.fields = .ok line.text := by
  refine ⟨exists_serialize_iff, fun _ => serialize_error, fun h hlarge => ?_,
    Layout.Line.renderPattern_template⟩
  obtain ⟨attachments, hattachments⟩ :=
    attachments_of_parentsResolve h.distinct h.containerParents h.componentParents
  exact serialize_of_not_writable hattachments hlarge

end Workspace

/-! ### A placeable workspace

A container is declared for a system by a name with blanks around it, and a component for that container. -/

namespace Bookshop

def reader : Person where
  identity := ⟨0, .person, 1, "Reader"⟩
  name := "Reader"
  description := "Reads \"books\""
  location := .external

def shop : SoftwareSystem where
  identity := ⟨1, .softwareSystem, 1, "Shop"⟩
  name := "Shop"
  description := "Sells books"

def stock : Container where
  identity := ⟨2, .container, 1, "Stock"⟩
  name := "Stock"
  description := "Holds shelves"

def shelf : Component where
  identity := ⟨3, .component, 1, "Shelf"⟩
  name := "Shelf"
  description := "Holds books"
  technology := some "Wood"

def workspace : Workspace where
  people := [reader]
  systems := [shop]
  containerDeclarations := [⟨stock, .raw " Shop "⟩]
  componentDeclarations := [⟨shelf, .raw "Stock"⟩]
  relationships := [⟨.identity reader.identity, .identity shelf.identity, "Looks at", none, .synchronous⟩]
  views := [⟨.container, "In the shop", some (.element (.softwareSystem shop)),
    [.identity shelf.identity], []⟩]

theorem placeable : workspace.Placeable where
  distinct := by decide
  containerParents := parentsResolve_cons.mpr ⟨⟨.softwareSystem shop, rfl, rfl⟩, parentsResolve_nil _ _⟩
  componentParents := parentsResolve_cons.mpr ⟨⟨.container stock, rfl, rfl⟩, parentsResolve_nil _ _⟩
  viewsScoped := by simp [workspace, View.Scoped]

theorem exists_document : ∃ text, workspace.serialize = .ok text :=
  Workspace.exists_serialize_iff.mpr ⟨placeable, by decide +kernel⟩

/-- A style asks for a size of more digits than may be written. -/
def oversized : Workspace :=
  { workspace with elementStyles := [{ tag := "Person", size := some (.number (Int.ofNat (16 ^ 3572))) }] }

/-- Nothing but the size of a style is in the way of the document. -/
theorem serialize_oversized :
    oversized.Placeable ∧ oversized.serialize = .error (.numeral .tooLarge) ∧
      ¬(SerializeError.numeral .tooLarge).Foreseen := by
  have hplaceable : oversized.Placeable := ⟨placeable.distinct, placeable.containerParents,
    placeable.componentParents, placeable.viewsScoped⟩
  have hlarge : ¬oversized.StylesWritable := by decide +kernel
  exact ⟨hplaceable, (oversized.serialize_succeeds_iff).2.2.1 hplaceable hlarge, nofun⟩

theorem attachments_eq : workspace.attachments =
    .ok ⟨[(shop.identity, stock)], [(stock.identity, shelf)]⟩ := by
  rfl

end Bookshop

end C4Model
