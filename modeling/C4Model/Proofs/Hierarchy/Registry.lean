import C4Model.Hierarchy.Registry
import C4Model.Proofs.Outcome
import Mathlib.Data.List.Nodup

/-! What the register of placed elements promises. Registering refuses exactly what is registered already.
A register in which every parent was registered before its child is sound: in it the way upwards from any
element ends, so a declared parent is accepted exactly if its reference stands for a registered element of
the kind that is needed. -/

namespace C4Model.Hierarchy

open Outcome

def Entry.identity (entry : Entry) : Identity :=
  entry.element.identity

/-- Every entry comes after the entry of its parent. -/
inductive Grounded : List Entry → Prop
  | empty : Grounded []
  | snoc {entries : List Entry} {entry : Entry} (before : Grounded entries)
      (parent : ∀ above, entry.parent = some above → above ∈ entries.map Entry.identity) :
      Grounded (entries ++ [entry])

/-- The element that a reference stands for among elements in the order of their registration. -/
def resolveAmong (placed : List Element) (ref : Reference) : Option Element :=
  match ref.endpoint with
  | .raw text => placed.find? fun element => element.name == Text.strip text
  | .identity identity => placed.find? fun element => element.identity = identity

namespace Registry

def identities (registry : Registry) : List Identity :=
  registry.entries.map Entry.identity

def elements (registry : Registry) : List Element :=
  registry.entries.map (·.element)

/-- The entries with further ones after them. -/
def extend (registry : Registry) (entries : List Entry) : Registry :=
  ⟨registry.entries ++ entries⟩

/-- No element is registered twice, and none before its parent. -/
structure Sound (registry : Registry) : Prop where
  distinct : registry.identities.Nodup
  grounded : Grounded registry.entries

theorem identities_extend (registry : Registry) (entries : List Entry) :
    (registry.extend entries).identities = registry.identities ++ entries.map Entry.identity := by
  simp [identities, extend]

theorem elements_extend (registry : Registry) (entries : List Entry) :
    (registry.extend entries).elements = registry.elements ++ entries.map (·.element) := by
  simp [elements, extend]

theorem extend_extend (registry : Registry) (first second : List Entry) :
    (registry.extend first).extend second = registry.extend (first ++ second) := by
  simp [extend]

theorem entryOf?_eq_none_iff {registry : Registry} {identity : Identity} :
    registry.entryOf? identity = none ↔ identity ∉ registry.identities := by
  simp only [entryOf?, List.find?_eq_none, decide_eq_true_eq, identities, List.mem_map, not_exists,
    not_and]
  exact Iff.rfl

theorem identity_of_entryOf? {registry : Registry} {identity : Identity} {entry : Entry}
    (h : registry.entryOf? identity = some entry) : entry.element.identity = identity :=
  of_decide_eq_true
    (List.find?_some (p := fun e : Entry => decide (e.element.identity = identity)) h)

/-- In a register without repetition an entry is found by its identity. -/
theorem entryOf?_of_split {registry : Registry} {before after : List Entry} {entry : Entry}
    (hentries : registry.entries = before ++ entry :: after)
    (hdistinct : registry.identities.Nodup) : registry.entryOf? entry.identity = some entry := by
  have hfresh : entry.identity ∉ before.map Entry.identity := by
    rw [identities, hentries, List.map_append, List.map_cons, List.nodup_append] at hdistinct
    intro hmem
    exact hdistinct.2.2 _ hmem _ (List.mem_cons_self) rfl
  rw [entryOf?, hentries, List.find?_append]
  have hnone : before.find? (fun e => decide (e.element.identity = entry.identity)) = none := by
    rw [List.find?_eq_none]
    intro e he hsame
    exact hfresh (List.mem_map.mpr ⟨e, he, of_decide_eq_true hsame⟩)
  rw [hnone, Option.none_or]
  exact List.find?_cons_of_pos (by simp [Entry.identity])

theorem register_eq (registry : Registry) (element : Element) (parent : Option Identity) :
    registry.register element parent =
      if element.identity ∈ registry.identities then .error (.duplicate element.kind element.name)
      else .ok (registry.extend [⟨element, parent⟩]) := by
  by_cases hmem : element.identity ∈ registry.identities
  · have hsome : registry.entryOf? element.identity ≠ none := by
      rw [Ne, entryOf?_eq_none_iff]
      exact not_not_intro hmem
    obtain ⟨entry, hentry⟩ := Option.ne_none_iff_exists'.mp hsome
    simp [register, hentry, hmem]
  · have hnone := entryOf?_eq_none_iff.mpr hmem
    simp [register, hnone, hmem, extend]

theorem registerAll_nil (registry : Registry) : registry.registerAll [] = .ok registry := rfl

theorem registerAll_cons (registry : Registry) (entry : Entry) (rest : List Entry) :
    registry.registerAll (entry :: rest) =
      (registry.register entry.element entry.parent >>= fun registry =>
        registry.registerAll rest) := by
  simp only [registerAll, registerEach]
  cases registry.register entry.element entry.parent <;> rfl

/-- A new element keeps a register free of repetition. -/
theorem nodup_extend_singleton {registry : Registry} {entry : Entry}
    (hdistinct : registry.identities.Nodup) (hnew : entry.element.identity ∉ registry.identities) :
    (registry.extend [entry]).identities.Nodup := by
  rw [identities_extend, List.map_singleton, List.nodup_append]
  refine ⟨hdistinct, List.nodup_singleton _, fun identity hidentity other hother hsame => ?_⟩
  rw [List.mem_singleton] at hother
  exact hnew (by rwa [hsame, hother] at hidentity)

/-- Elements in a row are registered exactly if none of them repeats another or a registered one. -/
theorem registerAll_eq_ok_iff {registry result : Registry} {entries : List Entry}
    (hdistinct : registry.identities.Nodup) :
    registry.registerAll entries = .ok result ↔
      (registry.extend entries).identities.Nodup ∧ result = registry.extend entries := by
  induction entries generalizing registry with
  | nil => simpa [registerAll_nil, extend, eq_comm] using fun _ => hdistinct
  | cons entry rest ih =>
      rw [registerAll_cons, register_eq]
      by_cases hmem : entry.element.identity ∈ registry.identities
      · have hrepeat : ¬ (registry.extend (entry :: rest)).identities.Nodup := by
          rw [identities_extend, List.nodup_append]
          exact fun h => h.2.2 _ hmem _ List.mem_cons_self rfl
        simp [hmem, hrepeat, bind, Except.bind]
      · rw [if_neg hmem]
        simpa [bind, Except.bind, extend_extend] using ih (nodup_extend_singleton hdistinct hmem)

theorem registerAll_error {registry : Registry} {entries : List Entry} {error : HierarchyError}
    (h : registry.registerAll entries = .error error) :
    ∃ kind element, error = .duplicate kind element := by
  induction entries generalizing registry with
  | nil => simp [registerAll_nil] at h
  | cons entry rest ih =>
      rw [registerAll_cons, register_eq, bind_eq_error_iff] at h
      rcases h with h | ⟨next, -, h⟩
      · split at h
        · exact ⟨_, _, (Except.error.inj h).symm⟩
        · cases h
      · exact ih h

end Registry

/-- Entries whose parents are all there already keep a list grounded. -/
theorem Grounded.append {entries block : List Entry} (hgrounded : Grounded entries)
    (hparents : ∀ entry ∈ block, ∀ above, entry.parent = some above →
      above ∈ entries.map Entry.identity) : Grounded (entries ++ block) := by
  induction block generalizing entries with
  | nil => simpa using hgrounded
  | cons entry rest ih =>
      have hnext : Grounded (entries ++ [entry]) :=
        hgrounded.snoc (hparents entry List.mem_cons_self)
      rw [List.append_cons]
      refine ih hnext fun other hother above habove => ?_
      rw [List.map_append]
      exact List.mem_append_left _ (hparents other (List.mem_cons_of_mem _ hother) above habove)

/-- Every entry of a grounded list stands after a grounded list that holds its parent. -/
theorem Grounded.split {entries : List Entry} (hgrounded : Grounded entries) {entry : Entry}
    (hmem : entry ∈ entries) :
    ∃ before after, entries = before ++ entry :: after ∧ Grounded before ∧
      ∀ above, entry.parent = some above → above ∈ before.map Entry.identity := by
  induction hgrounded with
  | empty => simp at hmem
  | snoc hbefore hparent ih =>
      rename_i entries last
      rcases List.mem_append.mp hmem with hearlier | hlast
      · obtain ⟨before, after, hsplit, hrest⟩ := ih hearlier
        exact ⟨before, after ++ [last], by simp [hsplit], hrest⟩
      · obtain rfl := List.mem_singleton.mp hlast
        exact ⟨entries, [], by simp, hbefore, hparent⟩

namespace Registry

variable {registry : Registry}

/-- From an entry among the first ones, the way upwards ends before their number is used up. It stays
among them, so it never comes back to what was passed after them. -/
theorem walk_ends (hdistinct : registry.identities.Nodup) {before after : List Entry}
    (hentries : registry.entries = before ++ after) (hgrounded : Grounded before)
    {bound : Nat} {seen : List Identity} {current : Identity} (hbound : before.length ≤ bound)
    (hseen : ∀ identity ∈ before.map Entry.identity, identity ∉ seen)
    (hcurrent : current ∈ before.map Entry.identity) :
    ∃ chain, registry.walk bound seen (some current) = .ok chain ∧
      ∀ element ∈ chain, element.identity ∈ registry.identities := by
  induction hgrounded generalizing after bound seen current with
  | empty => simp at hcurrent
  | snoc hbefore hparent ih =>
      rename_i entries entry
      have hkeep : ∀ identity ∈ entries.map Entry.identity,
          identity ∈ (entries ++ [entry]).map Entry.identity := by
        intro identity hidentity
        rw [List.map_append]
        exact List.mem_append_left _ hidentity
      rw [List.append_assoc] at hentries
      rw [List.length_append, List.length_singleton] at hbound
      by_cases hearlier : current ∈ entries.map Entry.identity
      · exact ih hentries (by omega) (fun identity h => hseen identity (hkeep identity h)) hearlier
      · obtain rfl : current = entry.identity := by
          simpa [hearlier] using hcurrent
        obtain ⟨rest, rfl⟩ : ∃ rest, bound = rest + 1 := ⟨bound - 1, by omega⟩
        have hfound : registry.entryOf? entry.identity = some entry :=
          entryOf?_of_split hentries hdistinct
        have hregistered : entry.element.identity ∈ registry.identities := by
          rw [identities, hentries]
          simp [Entry.identity]
        have hnew : entry.identity ∉ seen := hseen _ hcurrent
        cases habove : entry.parent with
        | none =>
            refine ⟨[entry.element], by simp [walk, hfound, hnew, habove, Except.map], ?_⟩
            simpa using hregistered
        | some above =>
            have hpassed : ∀ identity ∈ entries.map Entry.identity,
                identity ∉ entry.identity :: seen := by
              intro identity hidentity hpassed
              rcases List.mem_cons.mp hpassed with rfl | hpassed
              · exact hearlier hidentity
              · exact hseen identity (hkeep identity hidentity) hpassed
            obtain ⟨chain, hchain, hmem⟩ :=
              ih hentries (show entries.length ≤ rest by omega) hpassed (hparent above habove)
            refine ⟨entry.element :: chain, ?_, ?_⟩
            · simp [walk, hfound, hnew, habove, hchain, Except.map]
            · simpa [hregistered] using hmem

/-- In a sound register the way upwards ends, and it meets registered elements only. -/
theorem ancestors_ok (hsound : registry.Sound) (element : Element) :
    ∃ chain, registry.ancestors element = .ok chain ∧
      ∀ above ∈ chain, above.identity ∈ registry.identities := by
  cases hparent : registry.parentOf element.identity with
  | none => exact ⟨[], by simp [ancestors, hparent, walk], by simp⟩
  | some above =>
      rw [ancestors, hparent]
      obtain ⟨entry, hentry, habove⟩ := Option.bind_eq_some_iff.mp hparent
      have hidentity : entry.identity = element.identity := identity_of_entryOf? hentry
      obtain ⟨before, after, hsplit, hbefore, habovemem⟩ :=
        hsound.grounded.split (List.mem_of_find?_eq_some hentry)
      refine walk_ends hsound.distinct hsplit hbefore (by rw [hsplit]; simp; omega) ?_
        (habovemem above habove)
      intro identity hidentitymem hself
      obtain rfl := List.mem_singleton.mp hself
      have hdistinct := hsound.distinct
      rw [identities, hsplit, List.map_append, List.map_cons, List.nodup_append] at hdistinct
      exact hdistinct.2.2 _ hidentitymem _ List.mem_cons_self hidentity.symm

theorem lookup_eq (registry : Registry) (ref : Reference) :
    registry.lookup ref = resolveAmong registry.elements ref := by
  cases hend : ref.endpoint with
  | raw text =>
      simp only [lookup, resolveAmong, elements, hend, named?, List.find?_map]
      rfl
  | identity identity =>
      simp only [lookup, resolveAmong, elements, hend, entryOf?, List.find?_map]
      rfl

end Registry

theorem mem_of_resolveAmong {placed : List Element} {ref : Reference} {element : Element}
    (h : resolveAmong placed ref = some element) : element ∈ placed := by
  rw [resolveAmong] at h
  split at h <;> exact List.mem_of_find?_eq_some h

theorem refersTo_of_resolveAmong {placed : List Element} {ref : Reference} {element : Element}
    (h : resolveAmong placed ref = some element) : Registry.refersTo ref element = true := by
  cases hend : ref.endpoint with
  | raw text =>
      rw [resolveAmong, hend] at h
      have hname : element.name = Text.strip text := beq_iff_eq.mp
        (List.find?_some (p := fun e : Element => e.name == Text.strip text) h)
      simp [Registry.refersTo, hend, hname]
  | identity identity =>
      rw [resolveAmong, hend] at h
      have hidentity : element.identity = identity := of_decide_eq_true
        (List.find?_some (p := fun e : Element => decide (e.identity = identity)) h)
      simp [Registry.refersTo, hend, hidentity]

namespace Registry

variable {registry : Registry} {child parent : Element} {ref : Reference} {expected : ElementKind}

theorem identity_mem_of_lookup (h : registry.lookup ref = some parent) :
    parent.identity ∈ registry.identities := by
  rw [lookup_eq] at h
  obtain ⟨entry, hentry, rfl⟩ := List.mem_map.mp (mem_of_resolveAmong h)
  exact List.mem_map.mpr ⟨entry, hentry, rfl⟩

/-- In a register without repetition, every element is found by its identity. -/
theorem lookup_of_mem (hdistinct : registry.identities.Nodup) (h : parent ∈ registry.elements)
    (href : ref.endpoint = .identity parent.identity) : registry.lookup ref = some parent := by
  obtain ⟨entry, hentry, rfl⟩ := List.mem_map.mp h
  obtain ⟨before, after, hsplit⟩ := List.append_of_mem hentry
  have hfound : registry.entryOf? entry.element.identity = some entry :=
    entryOf?_of_split hsplit hdistinct
  simp [lookup, href, hfound]

theorem identity_ne_of_checkNotWithin (h : registry.checkNotWithin child parent = .ok ()) :
    parent.identity ≠ child.identity := by
  intro hsame
  obtain ⟨above, -, h⟩ := bind_eq_ok_iff.mp h
  simp [hsame, throw, throwThe, MonadExceptOf.throw] at h

theorem checkNotWithin_ok (hsound : registry.Sound) (hchild : child.identity ∉ registry.identities)
    (hparent : parent.identity ∈ registry.identities) :
    registry.checkNotWithin child parent = .ok () := by
  obtain ⟨above, habove, hmem⟩ := registry.ancestors_ok hsound parent
  refine bind_eq_ok_iff.mpr ⟨above, habove, ?_⟩
  have hany : ((parent :: above).any fun ancestor =>
      decide (ancestor.identity = child.identity)) = false := by
    rw [List.any_eq_false]
    intro ancestor hancestor hsame
    rw [decide_eq_true_eq] at hsame
    rcases List.mem_cons.mp hancestor with rfl | hancestor
    · exact hchild (hsame ▸ hparent)
    · exact hchild (hsame ▸ hmem ancestor hancestor)
  simp [hany, pure, Except.pure]

theorem checkNotWithin_error (hsound : registry.Sound) {error : HierarchyError}
    (h : registry.checkNotWithin child parent = .error error) : error = .circular child.name := by
  obtain ⟨above, habove, -⟩ := registry.ancestors_ok hsound parent
  rcases bind_eq_error_iff.mp h with h | ⟨between, -, h⟩
  · rw [habove] at h
    cases h
  · split at h
    · exact (Except.error.inj h).symm
    · cases h

/-- An accepted parent is registered under its reference and is of the kind that is needed. -/
theorem lookup_of_checkedParent (h : registry.checkedParent child ref expected = .ok parent) :
    registry.lookup ref = some parent ∧ parent.kind = expected := by
  rw [checkedParent] at h
  split at h
  · cases h
  · rename_i found hfound
    obtain ⟨_, hwithin, h⟩ := bind_eq_ok_iff.mp h
    split at h
    · rename_i hkind
      obtain rfl : found = parent := Except.ok.inj h
      refine ⟨?_, hkind⟩
      cases hlookup : registry.lookup ref with
      | some element => simpa [hlookup] using hfound
      | none =>
          rw [hlookup, Option.none_or] at hfound
          split at hfound
          · obtain rfl := Option.some.inj hfound
            exact absurd rfl (identity_ne_of_checkNotWithin hwithin)
          · cases hfound
    · cases h

/-- A child that is new to a sound register gets every parent of the right kind that its reference
stands for. -/
theorem checkedParent_of_lookup (hsound : registry.Sound)
    (hchild : child.identity ∉ registry.identities) (hlookup : registry.lookup ref = some parent)
    (hkind : parent.kind = expected) :
    registry.checkedParent child ref expected = .ok parent := by
  have hwithin := checkNotWithin_ok hsound hchild (identity_mem_of_lookup hlookup)
  simp [checkedParent, hlookup, hwithin, hkind, bind, Except.bind, pure, Except.pure]

/-- A child that is new to a sound register is refused a parent of another kind, which is told. -/
theorem checkedParent_of_other_kind (hsound : registry.Sound)
    (hchild : child.identity ∉ registry.identities) (hlookup : registry.lookup ref = some parent)
    (hkind : parent.kind ≠ expected) :
    registry.checkedParent child ref expected =
      .error (.invalidParent child.name expected (some parent.kind) ref.endpoint.name) := by
  have hwithin := checkNotWithin_ok hsound hchild (identity_mem_of_lookup hlookup)
  simp [checkedParent, hlookup, hwithin, hkind, bind, Except.bind]
  rfl

theorem checkedParent_error (hsound : registry.Sound) {error : HierarchyError}
    (h : registry.checkedParent child ref expected = .error error) :
    error = .circular child.name ∨
      ∃ actual, error = .invalidParent child.name expected actual ref.endpoint.name := by
  rw [checkedParent] at h
  split at h
  · exact Or.inr ⟨_, (Except.error.inj h).symm⟩
  · rcases bind_eq_error_iff.mp h with h | ⟨between, -, h⟩
    · exact Or.inl (checkNotWithin_error hsound h)
    · split at h
      · cases h
      · exact Or.inr ⟨_, (Except.error.inj h).symm⟩

end Registry

end C4Model.Hierarchy
