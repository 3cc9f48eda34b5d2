import C4Model.Proofs.Outcome
import C4Model.View.Style

/-! Styles and the numbers in them. If every number has a numeral that may be written, the styles are written as
one block; otherwise there is no text of them at all. What the block says depends on the texts of the values
alone. -/

namespace C4Model

open Layout Outcome

/-- The text of a value, be its numeral as long as it may. -/
def StyleValue.plain : StyleValue → String
  | .text word => word
  | .number n => toString n

/-- The value is a word, or a number whose numeral may be written. -/
def StyleValue.Writable : StyleValue → Prop
  | .text _ => True
  | .number n => n.natAbs < leastBeyond numeralLimit

instance : DecidablePred StyleValue.Writable
  | .text _ => .isTrue trivial
  | .number n => inferInstanceAs (Decidable (n.natAbs < leastBeyond numeralLimit))

theorem StyleValue.written_eq (value : StyleValue) :
    value.written = if value.Writable then .ok value.plain else .error .tooLarge := by
  cases value with
  | text word => exact (if_pos trivial).symm
  | number n => rfl

/-- The attributes that are set, with the texts of their values. -/
def ElementStyle.attributes (style : ElementStyle) : List (String × String) :=
  style.values.map fun (name, value) => (name, value.plain)

/-- The attributes that are set, with the texts of their values. -/
def RelationshipStyle.attributes (style : RelationshipStyle) : List (String × String) :=
  style.values.map fun (name, value) => (name, value.plain)

namespace Style

variable (width : Int) (elements : List ElementStyle) (relationships : List RelationshipStyle)

/-- Every number in the styles has a numeral that may be written. -/
def Writable : Prop :=
  ∀ entry ∈ elements.flatMap ElementStyle.values ++ relationships.flatMap RelationshipStyle.values,
    entry.2.Writable

instance : Decidable (Writable elements relationships) :=
  inferInstanceAs (Decidable (∀ entry ∈ elements.flatMap ElementStyle.values ++
    relationships.flatMap RelationshipStyle.values, entry.2.Writable))

def elementBlock (style : ElementStyle) : Item :=
  .block (Statement.elementStyleOpen style.tag) (attributeLines style.attributes)

def relationshipBlock (style : RelationshipStyle) : Item :=
  .block (Statement.relationshipStyleOpen style.tag) (attributeLines style.attributes)

/-- The block of all styles. -/
def block : Item :=
  .block Statement.stylesOpen (elements.map elementBlock ++ relationships.map relationshipBlock)

/-- The text of all styles, which is empty if there is none. -/
def text : String :=
  if elements.isEmpty && relationships.isEmpty then "" else Layout.render width [block elements relationships]

theorem writeAll_eq (values : List (String × StyleValue)) :
    writeAll values =
      if ∀ entry ∈ values, entry.2.Writable then .ok (values.map fun (name, value) => (name, value.plain))
      else .error .tooLarge := by
  refine mapM_eq_ite (fun (name, value) => ?_) values
  dsimp only
  rw [StyleValue.written_eq]
  split <;> rfl

theorem elementItem_eq (style : ElementStyle) :
    elementItem style =
      if ∀ entry ∈ style.values, entry.2.Writable then .ok (elementBlock style) else .error .tooLarge := by
  rw [elementItem, writeAll_eq]
  split <;> rfl

theorem relationshipItem_eq (style : RelationshipStyle) :
    relationshipItem style =
      if ∀ entry ∈ style.values, entry.2.Writable then .ok (relationshipBlock style)
      else .error .tooLarge := by
  rw [relationshipItem, writeAll_eq]
  split <;> rfl

theorem writable_iff :
    Writable elements relationships ↔
      (∀ style ∈ elements, ∀ entry ∈ style.values, entry.2.Writable) ∧
        ∀ style ∈ relationships, ∀ entry ∈ style.values, entry.2.Writable := by
  simp only [Writable, List.forall_mem_append, List.forall_mem_flatMap]

/-- There is a text of the styles exactly if all their numbers can be written. -/
theorem render_eq :
    render width elements relationships =
      if Writable elements relationships then .ok (text width elements relationships)
      else .error .tooLarge := by
  simp only [render, mapM_eq_ite elementItem_eq, mapM_eq_ite relationshipItem_eq, writable_iff]
  by_cases hnone : (elements.isEmpty && relationships.isEmpty) = true
  · have hempty := Bool.and_eq_true_iff.mp hnone
    rw [List.isEmpty_iff, List.isEmpty_iff] at hempty
    obtain ⟨rfl, rfl⟩ := hempty
    rfl
  · rw [if_neg hnone, text, if_neg hnone]
    by_cases hfirst : ∀ style ∈ elements, ∀ entry ∈ style.values, entry.2.Writable
    · by_cases hsecond : ∀ style ∈ relationships, ∀ entry ∈ style.values, entry.2.Writable
      · rw [if_pos hfirst, if_pos hsecond, if_pos ⟨hfirst, hsecond⟩]
        rfl
      · rw [if_pos hfirst, if_neg hsecond, if_neg (not_and_of_not_right _ hsecond)]
        rfl
    · rw [if_neg hfirst, if_neg (not_and_of_not_left _ hfirst)]
      rfl

variable {width elements relationships}

theorem render_eq_ok_iff {written : String} :
    render width elements relationships = .ok written ↔
      Writable elements relationships ∧ text width elements relationships = written := by
  rw [render_eq]
  split <;> simp [*]

theorem render_eq_error_iff {error : NumeralError} :
    render width elements relationships = .error error ↔
      ¬Writable elements relationships ∧ error = .tooLarge := by
  rw [render_eq]
  split <;> simp [*, eq_comm]

end Style

end C4Model
