import C4Model.Naming.Identifier
import Mathlib.Data.List.Basic

/-! What identifiers are made of. Whatever text an identifier comes from, it is not empty, begins with a
letter of ASCII or an underscore, and has letters, digits and underscores in it only. -/

namespace C4Model.Naming

def IsIdentifierChar (c : Char) : Prop :=
  Text.isAlphanumeric c = true ∨ c = '_'

instance (c : Char) : Decidable (IsIdentifierChar c) :=
  inferInstanceAs (Decidable (_ ∨ _))

/-- The form of an identifier. -/
def IsIdentifier (text : String) : Prop :=
  ∃ c rest, text.toList = c :: rest ∧ isIdentifierStart c = true ∧ ∀ d ∈ c :: rest, IsIdentifierChar d

/-- The form of a reference: identifiers joined by points. -/
def IsReference (text : String) : Prop :=
  ∃ segments, segments ≠ [] ∧ (∀ segment ∈ segments, IsIdentifier segment) ∧
    text = joinPath segments

theorem isIdentifierChar_identifierChar (c : Char) : IsIdentifierChar (identifierChar c) := by
  rw [identifierChar]
  split
  · rename_i h
    simpa [IsIdentifierChar] using h
  · exact Or.inr rfl

theorem isIdentifier_identifier (text : String) : IsIdentifier (identifier text) := by
  rw [IsIdentifier, identifier, String.toList_ofList, identifierChars]
  split
  · have hplaceholder : (placeholder.toList.all fun d => decide (IsIdentifierChar d)) = true := by
      decide
    refine ⟨'e', "lement".toList, rfl, rfl, fun d hd => ?_⟩
    exact of_decide_eq_true (List.all_eq_true.mp hplaceholder d hd)
  · rename_i c rest hmap
    have hchars : ∀ d ∈ c :: rest, IsIdentifierChar d := by
      intro d hd
      rw [← hmap] at hd
      obtain ⟨d, -, rfl⟩ := List.mem_map.mp hd
      exact isIdentifierChar_identifierChar d
    split
    · rename_i hstart
      exact ⟨c, rest, rfl, hstart, hchars⟩
    · refine ⟨'_', c :: rest, rfl, by decide, fun d hd => ?_⟩
      rcases List.mem_cons.mp hd with rfl | hd
      · exact Or.inr rfl
      · exact hchars d hd

theorem isIdentifier_baseIdentifier (name : String) : IsIdentifier (baseIdentifier name) :=
  isIdentifier_identifier _

theorem IsIdentifier.append {text : String} (h : IsIdentifier text) {more : String}
    (hmore : ∀ d ∈ more.toList, IsIdentifierChar d) : IsIdentifier (text ++ more) := by
  obtain ⟨c, rest, hchars, hstart, hall⟩ := h
  refine ⟨c, rest ++ more.toList, by rw [String.toList_append, hchars, List.cons_append], hstart, ?_⟩
  intro d hd
  rw [← List.cons_append] at hd
  exact (List.mem_append.mp hd).elim (hall d) (hmore d)

theorem IsIdentifier.isIdentifierChar {text : String} (h : IsIdentifier text) {c : Char}
    (hc : c ∈ text.toList) : IsIdentifierChar c := by
  obtain ⟨_, _, hchars, -, hall⟩ := h
  exact hall c (hchars ▸ hc)

theorem IsIdentifier.ne_empty {text : String} (h : IsIdentifier text) : text.toList ≠ [] := by
  obtain ⟨c, rest, hchars, -⟩ := h
  simp [hchars]

theorem IsIdentifier.not_mem {text : String} (h : IsIdentifier text) {c : Char}
    (hc : ¬ IsIdentifierChar c) : c ∉ text.toList :=
  fun hmem => hc (h.isIdentifierChar hmem)

theorem isReference_of_isIdentifier {text : String} (h : IsIdentifier text) : IsReference text :=
  ⟨[text], by simp, by simpa using h, by simp [joinPath]⟩

theorem isReference_reference (text : String) : IsReference (reference text) := by
  refine ⟨_, ?_, ?_, rfl⟩
  · simp [Text.splitOnChar, Text.splitAtChar_ne_nil]
  · intro segment hsegment
    obtain ⟨piece, -, rfl⟩ := List.mem_map.mp hsegment
    exact isIdentifier_identifier piece

/-- A path goes on with the identifier of a child. -/
theorem joinPath_concat {segments : List String} (hsegments : segments ≠ []) (identifier : String) :
    joinPath [joinPath segments, identifier] = joinPath (segments ++ [identifier]) := by
  simp only [joinPath, String.intercalate_append_of_ne_nil hsegments (List.cons_ne_nil identifier []),
    String.intercalate_cons_cons, String.intercalate_singleton]

end C4Model.Naming
