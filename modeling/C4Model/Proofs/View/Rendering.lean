import C4Model.Proofs.Layout.Splice
import C4Model.Proofs.Outcome
import C4Model.View.Basic

/-! When a block of views is rendered, and what it then holds. The one reason against it is a view without
the element that it is about. -/

namespace C4Model.View

open Outcome

/-- The view has the element that its type asks for. -/
def Scoped (view : View) : Prop :=
  view.viewType ≠ .systemLandscape → view.element ≠ none

theorem takesScope_iff {viewType : ViewType} :
    viewType.takesScope = true ↔ viewType ≠ .systemLandscape := by
  cases viewType <;> simp [ViewType.takesScope]

theorem exists_item_iff {paths : Naming.PathMap} {view : View} :
    (∃ item, view.item paths = .ok item) ↔ view.Scoped := by
  rw [Scoped, ← takesScope_iff]
  cases htakes : view.viewType.takesScope <;> cases helement : view.element <;>
    simp [item, header, htakes, helement, Except.map]

theorem item_error {paths : Naming.PathMap} {view : View} {error : RenderError}
    (h : view.item paths = .error error) :
    error = .scopeMissing view.viewType view.title := by
  rw [item, map_eq_error_iff, header] at h
  cases htakes : view.viewType.takesScope <;> cases helement : view.element <;>
    simp [htakes, helement] at h
  exact h.symm

theorem exists_renderAll_iff {width : Int} {paths : Naming.PathMap} {views : List View}
    {styles configuration : String} :
    (∃ text, renderAll width paths views styles configuration = .ok text) ↔
      ∀ view ∈ views, view.Scoped := by
  have hitems : (∃ items, views.mapM (item paths) = .ok items) ↔ ∀ view ∈ views, view.Scoped := by
    simp only [exists_mapM_eq_ok_iff, exists_item_iff]
  rw [← hitems, renderAll]
  by_cases hnothing : (views.isEmpty && styles.isEmpty && configuration.isEmpty) = true
  · have hviews : views = [] := by
      rw [Bool.and_eq_true, Bool.and_eq_true, List.isEmpty_iff] at hnothing
      exact hnothing.1.1
    rw [if_pos hnothing, hviews]
    simp [pure, Except.pure]
  · rw [if_neg hnothing]
    constructor
    · rintro ⟨text, h⟩
      obtain ⟨items, hok, -⟩ := bind_eq_ok_iff.mp h
      exact ⟨items, hok⟩
    · rintro ⟨items, hok⟩
      exact ⟨_, bind_eq_ok_iff.mpr ⟨items, hok, rfl⟩⟩

theorem renderAll_error {width : Int} {paths : Naming.PathMap} {views : List View}
    {styles configuration : String} {error : RenderError}
    (h : renderAll width paths views styles configuration = .error error) :
    ∃ viewType title, error = .scopeMissing viewType title := by
  rw [renderAll] at h
  split at h
  · cases h
  · rcases bind_eq_error_iff.mp h with h | ⟨_, -, h⟩
    · obtain ⟨view, -, hview⟩ := exists_error_of_mapM h
      exact ⟨_, _, item_error hview⟩
    · cases h

/-- The block of a view, with the element that it is about as it is written. -/
def block (paths : Naming.PathMap) (view : View) : Layout.Item :=
  .block (Layout.Statement.viewOpen view.viewType.keyword
      (if view.viewType.takesScope then view.element.map paths.resolve else none)
      (Naming.viewKey view.title))
    (view.entryItems paths)

theorem eq_block_of_item {paths : Naming.PathMap} {view : View} {item : Layout.Item}
    (h : view.item paths = .ok item) : item = view.block paths := by
  obtain ⟨header, hheader, rfl⟩ := map_eq_ok_iff.mp h
  rw [View.header] at hheader
  cases htakes : view.viewType.takesScope <;> cases helement : view.element <;>
    simp [htakes, helement] at hheader <;> simp [block, htakes, helement, hheader]

end C4Model.View
