import Mathlib.Data.List.Nodup

/-! Lists of pairs in which no key comes twice: looking a key up gives the value of the one pair that has
it. -/

namespace C4Model.Association

variable {κ α : Type} [BEq κ] [LawfulBEq κ] {entries : List (κ × α)} {key : κ} {value : α}

theorem lookup_eq_none (h : key ∉ entries.map Prod.fst) : entries.lookup key = none := by
  rw [List.lookup_eq_none_iff]
  intro entry hentry
  rw [bne_iff_ne]
  rintro rfl
  exact h (List.mem_map_of_mem hentry)

theorem mem_of_lookup (h : entries.lookup key = some value) : (key, value) ∈ entries := by
  obtain ⟨before, after, hsplit, -⟩ := List.lookup_eq_some_iff.mp h
  rw [hsplit]
  exact List.mem_append_right _ List.mem_cons_self

theorem lookup_of_mem (hdistinct : (entries.map Prod.fst).Nodup) (hmem : (key, value) ∈ entries) :
    entries.lookup key = some value := by
  obtain ⟨before, after, hsplit⟩ := List.append_of_mem hmem
  rw [hsplit, List.map_append, List.map_cons, List.nodup_append] at hdistinct
  have hbefore : before.lookup key = none :=
    lookup_eq_none fun hbefore => hdistinct.2.2 _ hbefore _ List.mem_cons_self rfl
  rw [hsplit, List.lookup_append, hbefore, List.lookup_cons_self, Option.none_or]

end C4Model.Association
