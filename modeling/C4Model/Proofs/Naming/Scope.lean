import C4Model.Naming.Scope
import C4Model.Proofs.Naming.Identifier
import Mathlib.Data.List.Perm.Subperm
import Mathlib.Tactic.Tauto
import Mathlib.Data.List.Nodup

/-! Scopes give out identifiers, and none twice. One more candidate is tried than there are taken
identifiers, and the candidates differ, so one of them is free. -/

namespace C4Model.Naming

theorem toString_injective : Function.Injective (fun n : Nat => toString n) := by
  intro i j h
  have hdigits : (toString i).toList = (toString j).toList := congrArg String.toList h
  rw [Nat.toString_eq_ofList_toDigits, Nat.toString_eq_ofList_toDigits, String.toList_ofList,
    String.toList_ofList] at hdigits
  simpa using congrArg (fun digits => Nat.ofDigitChars 10 digits 0) hdigits

theorem numbered_eq (base : String) (n : Nat) :
    numbered base n = if n = 0 then base else base ++ toString n := by
  cases n <;> rfl

theorem numbered_injective (base : String) : Function.Injective (numbered base) := by
  have hlonger : ∀ n : Nat, base ++ toString n ≠ base := by
    intro n h
    have hdigits := congrArg String.toList h
    rw [String.toList_append, List.append_right_eq_self, Nat.toString_eq_ofList_toDigits,
      String.toList_ofList] at hdigits
    exact Nat.toDigits_ne_nil hdigits
  intro i j h
  rw [numbered_eq, numbered_eq] at h
  split at h <;> split at h
  · omega
  · exact absurd h.symm (hlonger j)
  · exact absurd h (hlonger i)
  · exact toString_injective (String.append_right_inj _ |>.mp h)

theorem isIdentifierChar_of_isDigit {c : Char} (h : c.isDigit = true) : IsIdentifierChar c := by
  have hrange : c.toNat < 128 := by
    rw [Char.isDigit] at h
    simp only [Bool.and_eq_true, decide_eq_true_eq, UInt32.le_iff_toNat_le] at h
    exact Nat.lt_of_le_of_lt h.2 (by decide)
  exact Or.inl (by rw [Text.isAlphanumeric, if_pos hrange, Text.isAsciiAlphanumeric, h, Bool.or_true])

theorem isIdentifier_numbered {base : String} (hbase : IsIdentifier base) (n : Nat) :
    IsIdentifier (numbered base n) := by
  rw [numbered_eq]
  split
  · exact hbase
  · refine hbase.append fun d hd => ?_
    rw [Nat.toString_eq_ofList_toDigits, String.toList_ofList] at hd
    exact isIdentifierChar_of_isDigit (Nat.isDigit_of_mem_toDigits (by decide) (by decide) hd)

/-- More candidates than taken identifiers: one of them is free. -/
theorem exists_free (base : String) (taken : List String) :
    ∃ n ∈ List.range (taken.length + 1), numbered base n ∉ taken := by
  by_contra hall
  push Not at hall
  have hdistinct : ((List.range (taken.length + 1)).map (numbered base)).Nodup :=
    List.Nodup.map (numbered_injective base) List.nodup_range
  have hsub : (List.range (taken.length + 1)).map (numbered base) ⊆ taken := by
    intro candidate hcandidate
    obtain ⟨n, hn, rfl⟩ := List.mem_map.mp hcandidate
    exact hall n hn
  have hlength := (hdistinct.subperm hsub).length_le
  rw [List.length_map, List.length_range] at hlength
  omega

/-- The candidate with this number is free, and no candidate before it is. -/
structure LeastFree (base : String) (taken : List String) (number : Nat) : Prop where
  free : numbered base number ∉ taken
  least : ∀ smaller < number, numbered base smaller ∈ taken

theorem LeastFree.unique {base : String} {taken : List String} {first second : Nat}
    (hfirst : LeastFree base taken first) (hsecond : LeastFree base taken second) : first = second := by
  rcases Nat.lt_trichotomy first second with hlt | heq | hlt
  · exact absurd (hsecond.least first hlt) hfirst.free
  · exact heq
  · exact absurd (hfirst.least second hlt) hsecond.free

theorem firstFree_spec (base : String) (taken : List String) :
    ∃ n ≤ taken.length, firstFree base taken = numbered base n ∧ LeastFree base taken n := by
  obtain ⟨n, hn, hfree⟩ := exists_free base taken
  rw [firstFree, List.find?_map]
  cases hfound : (List.range (taken.length + 1)).find?
      ((fun candidate => !taken.contains candidate) ∘ numbered base) with
  | none =>
      rw [List.find?_eq_none] at hfound
      exact absurd (by simpa using hfree) (hfound n hn)
  | some m =>
      obtain ⟨hm, hrange, hleast⟩ := List.find?_range_eq_some.mp hfound
      exact ⟨m, Nat.lt_succ_iff.mp (List.mem_range.mp hrange), rfl, by simpa using hm,
        fun smaller hsmaller => by simpa using hleast smaller hsmaller⟩

namespace Scope

theorem allocate_not_mem (scope : Scope) (name : String) : (scope.allocate name).1 ∉ scope.taken := by
  obtain ⟨n, -, hn, hleast⟩ := firstFree_spec (baseIdentifier name) scope.taken
  rw [allocate, hn]
  exact hleast.free

theorem isIdentifier_allocate (scope : Scope) (name : String) :
    IsIdentifier (scope.allocate name).1 := by
  obtain ⟨n, -, hn, -⟩ := firstFree_spec (baseIdentifier name) scope.taken
  rw [allocate, hn]
  exact isIdentifier_numbered (isIdentifier_baseIdentifier name) n

theorem allocateAll_cons (scope : Scope) (name : String) (rest : List String) :
    scope.allocateAll (name :: rest) =
      ((scope.allocate name).1 :: ((scope.allocate name).2.allocateAll rest).1,
        ((scope.allocate name).2.allocateAll rest).2) := rfl

theorem allocateAll_append (scope : Scope) (first second : List String) :
    scope.allocateAll (first ++ second) =
      ((scope.allocateAll first).1 ++ ((scope.allocateAll first).2.allocateAll second).1,
        ((scope.allocateAll first).2.allocateAll second).2) := by
  induction first generalizing scope with
  | nil => rfl
  | cons name rest ih => rw [List.cons_append, allocateAll_cons, ih, allocateAll_cons, List.cons_append]

/-- From one state of a scope to a later one, exactly these identifiers were given out, in order. -/
structure Gives (scope : Scope) (given : List String) (after : Scope) : Prop where
  distinct : given.Nodup
  fresh : ∀ identifier ∈ given, identifier ∉ scope.taken
  taken : ∀ identifier, identifier ∈ after.taken ↔ identifier ∈ given ∨ identifier ∈ scope.taken

theorem gives_nothing (scope : Scope) : scope.Gives [] scope :=
  ⟨List.nodup_nil, by simp, by simp⟩

theorem gives_allocate (scope : Scope) (name : String) :
    scope.Gives [(scope.allocate name).1] (scope.allocate name).2 :=
  ⟨List.nodup_singleton _, by simpa using scope.allocate_not_mem name, by simp [allocate]⟩

/-- What is given out later differs from what was given out before. -/
theorem Gives.append {scope between after : Scope} {first second : List String}
    (hfirst : scope.Gives first between) (hsecond : between.Gives second after) :
    scope.Gives (first ++ second) after := by
  refine ⟨List.nodup_append.mpr ⟨hfirst.distinct, hsecond.distinct, ?_⟩, ?_, ?_⟩
  · rintro identifier hmem _ hother rfl
    exact hsecond.fresh identifier hother ((hfirst.taken identifier).mpr (Or.inl hmem))
  · intro identifier hmem htaken
    rcases List.mem_append.mp hmem with hmem | hmem
    · exact hfirst.fresh identifier hmem htaken
    · exact hsecond.fresh identifier hmem ((hfirst.taken identifier).mpr (Or.inr htaken))
  · intro identifier
    rw [hsecond.taken, hfirst.taken, List.mem_append]
    tauto

end Scope

end C4Model.Naming
