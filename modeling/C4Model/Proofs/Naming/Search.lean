import C4Model.Proofs.Naming.Scope
import C4Model.Proofs.Text.Blank

/-! The search for a free identifier, one candidate after another. It looks at the base first, then at the
base with 1, 2, 3 and so on after it, for as long as the candidate is taken. Nothing bounds it beforehand: it
ends because the candidates differ and only finitely many texts are taken. What a scope gives out is where it
ends. -/

namespace C4Model.Naming

/-- From a candidate, with the number that is tried next, the search ends after some steps. -/
inductive Search (base : String) (taken : List String) : String → Nat → Nat → String → Prop where
  | free {candidate : String} {next : Nat} (h : candidate ∉ taken) :
      Search base taken candidate next 0 candidate
  | step {candidate found : String} {next steps : Nat} (h : candidate ∈ taken)
      (rest : Search base taken (base ++ toString next) (next + 1) steps found) :
      Search base taken candidate next (steps + 1) found

variable {base found : String} {taken : List String} {start steps : Nat}

/-- A search that begins at some number passes over taken candidates until the first free one. -/
theorem search_numbered_iff :
    Search base taken (numbered base start) (start + 1) steps found ↔
      found = numbered base (start + steps) ∧ numbered base (start + steps) ∉ taken ∧
        ∀ passed < steps, numbered base (start + passed) ∈ taken := by
  induction steps generalizing start with
  | zero =>
      constructor
      · rintro ⟨hfree⟩
        exact ⟨rfl, hfree, nofun⟩
      · rintro ⟨rfl, hfree, -⟩
        exact .free hfree
  | succ steps ih =>
      have hnext : base ++ toString (start + 1) = numbered base (start + 1) := rfl
      have hshift : ∀ count, start + 1 + count = start + (count + 1) := fun count => by omega
      constructor
      · rintro (_ | ⟨htaken, hrest⟩)
        rw [hnext, ih, hshift] at hrest
        refine ⟨hrest.1, hrest.2.1, fun passed hpassed => ?_⟩
        cases passed with
        | zero => exact htaken
        | succ passed =>
            rw [← hshift]
            exact hrest.2.2 passed (Nat.lt_of_succ_lt_succ hpassed)
      · rintro ⟨hfound, hfree, hpassed⟩
        refine .step (hpassed 0 (Nat.succ_pos steps)) ?_
        rw [hnext, ih, hshift]
        refine ⟨hfound, hfree, fun passed hless => ?_⟩
        rw [hshift]
        exact hpassed (passed + 1) (Nat.succ_lt_succ hless)

theorem search_iff :
    Search base taken base 1 steps found ↔ LeastFree base taken steps ∧ found = numbered base steps := by
  have hbegin : Search base taken base 1 steps found ↔
      Search base taken (numbered base 0) (0 + 1) steps found := Iff.rfl
  simp only [hbegin, search_numbered_iff, Nat.zero_add]
  exact ⟨fun h => ⟨⟨h.2.1, h.2.2⟩, h.1⟩, fun h => ⟨h.2, h.1.free, h.1.least⟩⟩

namespace Scope

/-- What a scope does with a name: the search for a free identifier ends, and where it ends is given out. -/
structure Allots (scope : Scope) (name chosen : String) (after : Scope) : Prop where
  ends : ∃ count ≤ scope.taken.length, ∀ steps found,
    Search (baseIdentifier name) scope.taken (baseIdentifier name) 1 steps found ↔
      steps = count ∧ found = chosen
  /-- The base is given out as it is, unless it is taken. -/
  base : baseIdentifier name ∉ scope.taken → chosen = baseIdentifier name
  /-- Else it is given out with the least number that makes it free. -/
  numbered : baseIdentifier name ∈ scope.taken → ∃ number ≥ 1,
    chosen = baseIdentifier name ++ toString number ∧ chosen ∉ scope.taken ∧
      ∀ smaller ≥ 1, smaller < number → baseIdentifier name ++ toString smaller ∈ scope.taken
  taken : ∀ text, text ∈ after.taken ↔ text = chosen ∨ text ∈ scope.taken

theorem allots_allocate (scope : Scope) (name : String) :
    scope.Allots name (scope.allocate name).1 (scope.allocate name).2 := by
  obtain ⟨count, hcount, hchosen, hleast⟩ := firstFree_spec (baseIdentifier name) scope.taken
  have hallocate : (scope.allocate name).1 = Naming.numbered (baseIdentifier name) count := hchosen
  constructor
  case ends =>
    refine ⟨count, hcount, fun steps found => search_iff.trans ?_⟩
    rw [hallocate]
    constructor
    · rintro ⟨hsteps, rfl⟩
      obtain rfl := hsteps.unique hleast
      exact ⟨rfl, rfl⟩
    · rintro ⟨rfl, rfl⟩
      exact ⟨hleast, rfl⟩
  case base =>
    intro hfree
    have hzero : LeastFree (baseIdentifier name) scope.taken 0 := ⟨hfree, nofun⟩
    rw [hallocate, hleast.unique hzero, Naming.numbered]
  case numbered =>
    intro htaken
    have hpositive : count ≠ 0 := by
      rintro rfl
      exact hleast.free htaken
    refine ⟨count, Nat.one_le_iff_ne_zero.mpr hpositive, ?_, scope.allocate_not_mem name,
      fun smaller hsmaller hless => ?_⟩
    · rw [hallocate, numbered_eq, if_neg hpositive]
    · have hmem := hleast.least smaller hless
      rwa [numbered_eq, if_neg (Nat.one_le_iff_ne_zero.mp hsmaller)] at hmem
  case taken => exact fun text => List.mem_cons

theorem gives_allocateAll (scope : Scope) (names : List String) :
    scope.Gives (scope.allocateAll names).1 (scope.allocateAll names).2 := by
  induction names generalizing scope with
  | nil => exact scope.gives_nothing
  | cons name rest ih =>
      rw [allocateAll_cons]
      exact (scope.gives_allocate name).append (ih _)

/-- Every identifier that is given out has the form of one. -/
theorem isIdentifier_of_mem_allocateAll {scope : Scope} {names : List String} {identifier : String}
    (h : identifier ∈ (scope.allocateAll names).1) : IsIdentifier identifier := by
  induction names generalizing scope with
  | nil => cases h
  | cons name rest ih =>
      rw [allocateAll_cons] at h
      rcases List.mem_cons.mp h with rfl | h
      · exact scope.isIdentifier_allocate name
      · exact ih h

theorem length_allocateAll (scope : Scope) (names : List String) :
    (scope.allocateAll names).1.length = names.length := by
  induction names generalizing scope with
  | nil => rfl
  | cons name rest ih => rw [allocateAll_cons, List.length_cons, ih, List.length_cons]

/-- Whatever is taken, the search for a free identifier ends at the least one, which is then taken too. So
names one after another get identifiers that differ from each other and from all that was taken before, each
of them in the form of an identifier, without a point and without blanks. -/
theorem allocations (scope : Scope) :
    (∀ name, scope.Allots name (scope.allocate name).1 (scope.allocate name).2) ∧
    ∀ names, (scope.allocateAll names).1.length = names.length ∧
      scope.Gives (scope.allocateAll names).1 (scope.allocateAll names).2 ∧
      ∀ identifier ∈ (scope.allocateAll names).1, IsIdentifier identifier ∧
        '.' ∉ identifier.toList ∧ ∀ c ∈ identifier.toList, Text.isBlank c = false := by
  refine ⟨scope.allots_allocate, fun names => ⟨scope.length_allocateAll names,
    scope.gives_allocateAll names, fun identifier hidentifier => ?_⟩⟩
  have hform := isIdentifier_of_mem_allocateAll hidentifier
  exact ⟨hform, hform.not_mem (by decide), fun c hc =>
    not_isBlank_of_isIdentifierChar (hform.isIdentifierChar hc)⟩

/-- A base that ends in a digit collides with a numbered one. -/
example : (allocateAll { taken := ["u", "u2"] } ["User", "U 1", "User"]).1 = ["u1", "u11", "u3"] := by
  decide +kernel

end Scope

end C4Model.Naming
