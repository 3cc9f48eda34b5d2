import C4Model.Proofs.Hierarchy.Registry
import Mathlib.Data.List.Perm.Subperm

/-! The way upwards in any register, however its parents point: they may be missing, and they may go round.
The walk passes registered elements, none of them twice, so it has passed all that it can after as many
steps as there are entries. It stops for one of three reasons: there is no parent, the parent was passed
already, or the parent is not registered. What it gives is told by where it stops, and the number that
bounds the walk never decides anything. -/

namespace C4Model.Hierarchy.Registry

/-- Going upwards from `current` passes the elements of a chain, and comes to `next` behind them. -/
inductive Leads (registry : Registry) : Option Identity → List Element → Option Identity → Prop
  | here {current : Option Identity} : Leads registry current [] current
  | up {identity : Identity} {entry : Entry} {chain : List Element} {next : Option Identity}
      (found : registry.entryOf? identity = some entry) (rest : Leads registry entry.parent chain next) :
      Leads registry (some identity) (entry.element :: chain) next

/-- The way upwards from an element passes a chain and comes to `next`; neither the element nor any other is
passed twice. -/
structure Ascent (registry : Registry) (element : Element) (chain : List Element)
    (next : Option Identity) : Prop where
  leads : registry.Leads (registry.parentOf element.identity) chain next
  distinct : ((element :: chain).map Element.identity).Nodup

/-- Where the walk cannot go on from, if some identities are passed. -/
def Stops (registry : Registry) (passed : List Identity) (next : Option Identity) : Prop :=
  ∀ identity ∈ next, identity ∈ passed ∨ registry.entryOf? identity = none

variable {registry : Registry}

theorem Leads.subset_identities {current next : Option Identity} {chain : List Element}
    (h : registry.Leads current chain next) : chain.map Element.identity ⊆ registry.identities := by
  induction h with
  | here => exact List.nil_subset _
  | up found _ ih =>
      rw [List.map_cons, List.cons_subset]
      exact ⟨List.mem_map_of_mem (List.mem_of_find?_eq_some found), ih⟩

/-- No way that repeats nothing is longer than the list of entries. -/
theorem Leads.length_le {current next : Option Identity} {chain : List Element}
    (h : registry.Leads current chain next) (hdistinct : (chain.map Element.identity).Nodup) :
    chain.length ≤ registry.entries.length := by
  have hle := (hdistinct.subperm h.subset_identities).length_le
  simpa [identities] using hle

/-- From anywhere the way comes to a stop, or it has passed as many elements as asked for. -/
theorem exists_leads (registry : Registry) (count : Nat) {passed : List Identity}
    (hpassed : passed.Nodup) (current : Option Identity) :
    ∃ chain next, registry.Leads current chain next ∧
      (passed.reverse ++ chain.map Element.identity).Nodup ∧
      (registry.Stops ((chain.map Element.identity).reverse ++ passed) next ∨
        chain.length = count) := by
  induction count generalizing passed current with
  | zero => exact ⟨[], current, .here, by simpa using hpassed, Or.inr rfl⟩
  | succ count ih =>
      have hstop : registry.Stops passed current → ∃ chain next, registry.Leads current chain next ∧
          (passed.reverse ++ chain.map Element.identity).Nodup ∧
          (registry.Stops ((chain.map Element.identity).reverse ++ passed) next ∨
            chain.length = count + 1) :=
        fun h => ⟨[], current, .here, by simpa using hpassed, Or.inl h⟩
      cases current with
      | none => exact hstop nofun
      | some identity =>
          by_cases hmem : identity ∈ passed
          · exact hstop fun other hother => Or.inl (Option.mem_some_iff.mp hother ▸ hmem)
          · cases hfound : registry.entryOf? identity with
            | none => exact hstop fun other hother => Or.inr (Option.mem_some_iff.mp hother ▸ hfound)
            | some entry =>
                obtain ⟨chain, next, hleads, hdistinct, hend⟩ :=
                  ih (List.nodup_cons.mpr ⟨hmem, hpassed⟩) entry.parent
                have hidentity := identity_of_entryOf? hfound
                refine ⟨entry.element :: chain, next, .up hfound hleads, ?_, ?_⟩
                · simpa [hidentity] using hdistinct
                · simpa [hidentity] using hend

/-- The walk passes what the way upwards passes, and goes on behind it with what is left of its bound. -/
theorem walk_leads {current next : Option Identity} {chain : List Element}
    (h : registry.Leads current chain next) {passed : List Identity}
    (hdistinct : (passed.reverse ++ chain.map Element.identity).Nodup) (bound : Nat) :
    registry.walk (chain.length + bound) passed current =
      (registry.walk bound ((chain.map Element.identity).reverse ++ passed) next).map
        (chain ++ ·) := by
  induction h generalizing passed with
  | here =>
      rw [List.length_nil, Nat.zero_add, List.map_nil, List.reverse_nil, List.nil_append]
      exact (congrFun Except.map_id _).symm
  | @up identity entry chain next found _ ih =>
      have hidentity := identity_of_entryOf? found
      have hnew : identity ∉ passed := by
        rw [List.map_cons, hidentity, List.nodup_append] at hdistinct
        exact fun hmem => hdistinct.2.2 _ (List.mem_reverse.mpr hmem) _ List.mem_cons_self rfl
      have hlater : ((identity :: passed).reverse ++ chain.map Element.identity).Nodup := by
        simpa [hidentity] using hdistinct
      have hbound : (entry.element :: chain).length + bound = chain.length + bound + 1 := by
        rw [List.length_cons]
        omega
      have hbehind : ((entry.element :: chain).map Element.identity).reverse ++ passed =
          (chain.map Element.identity).reverse ++ identity :: passed := by
        simp [hidentity]
      rw [hbound, hbehind, walk]
      simp only [found, if_neg hnew, ih hlater]
      cases registry.walk bound ((chain.map Element.identity).reverse ++ identity :: passed) next <;> rfl

/-- What the way upwards from an element comes to: to an end, with all it has passed; back to the element or
to one that it has passed; or to a parent that is not registered. -/
inductive Arrives (registry : Registry) (element : Element) :
    Except HierarchyError (List Element) → Prop
  | top {chain : List Element} (way : registry.Ascent element chain none) :
      Arrives registry element (.ok chain)
  | back {chain : List Element} {again : Identity} {entry : Entry}
      (way : registry.Ascent element chain (some again))
      (passed : again ∈ (element :: chain).map Element.identity)
      (found : registry.entryOf? again = some entry) :
      Arrives registry element (.error (.circular entry.element.name))
  | lost {chain : List Element} {absent : Identity}
      (way : registry.Ascent element chain (some absent))
      (missing : registry.entryOf? absent = none) :
      Arrives registry element (.error .unregisteredAncestor)

/-- The way upwards from an element always comes to something. -/
theorem exists_arrives (registry : Registry) (element : Element) :
    ∃ outcome, registry.Arrives element outcome := by
  obtain ⟨chain, next, hleads, hdistinct, hend⟩ := registry.exists_leads
    (registry.entries.length + 1) (List.nodup_singleton element.identity)
    (registry.parentOf element.identity)
  rw [List.reverse_singleton, List.singleton_append] at hdistinct
  have hway : registry.Ascent element chain next := ⟨hleads, hdistinct⟩
  have hshort := hleads.length_le (List.nodup_cons.mp hdistinct).2
  have hstops := hend.resolve_right (by omega)
  cases next with
  | none => exact ⟨_, .top hway⟩
  | some identity =>
      cases hfound : registry.entryOf? identity with
      | none => exact ⟨_, .lost hway hfound⟩
      | some entry =>
          have hpassed := (hstops identity rfl).resolve_right (by simp [hfound])
          exact ⟨_, .back hway (by simpa [or_comm] using hpassed) hfound⟩

/-- Behind the elements that it passes, a walk has some of its bound left if that exceeds the number of
entries. -/
theorem Ascent.exists_walk {element : Element} {chain : List Element} {next : Option Identity}
    (h : registry.Ascent element chain next) {bound : Nat} (hbound : registry.entries.length < bound) :
    ∃ left, registry.walk bound [element.identity] (registry.parentOf element.identity) =
      (registry.walk (left + 1) ((chain.map Element.identity).reverse ++ [element.identity]) next).map
        (chain ++ ·) := by
  have hshort := h.leads.length_le (List.nodup_cons.mp h.distinct).2
  have hleft : chain.length + (bound - chain.length - 1 + 1) = bound := by omega
  have hdistinct : ([element.identity].reverse ++ chain.map Element.identity).Nodup := h.distinct
  have hwalk := walk_leads h.leads hdistinct (bound - chain.length - 1 + 1)
  rw [hleft] at hwalk
  exact ⟨_, hwalk⟩

theorem Arrives.walk_eq {element : Element} {outcome : Except HierarchyError (List Element)}
    (h : registry.Arrives element outcome) {bound : Nat} (hbound : registry.entries.length < bound) :
    registry.walk bound [element.identity] (registry.parentOf element.identity) = outcome := by
  cases h with
  | top way =>
      obtain ⟨left, hwalk⟩ := way.exists_walk hbound
      rw [hwalk, walk, Except.map, List.append_nil]
  | @back chain again entry way passed found =>
      obtain ⟨left, hwalk⟩ := way.exists_walk hbound
      have hpassed : again ∈ (chain.map Element.identity).reverse ++ [element.identity] := by
        simpa [or_comm] using passed
      rw [hwalk, walk]
      simp only [found, if_pos hpassed, Except.map]
  | lost way missing =>
      obtain ⟨left, hwalk⟩ := way.exists_walk hbound
      rw [hwalk, walk]
      simp only [missing, Except.map]

/-- A walk gives what the way upwards comes to, and every bound above the number of entries will do. -/
theorem walk_eq_iff {element : Element} {outcome : Except HierarchyError (List Element)} {bound : Nat}
    (hbound : registry.entries.length < bound) :
    registry.walk bound [element.identity] (registry.parentOf element.identity) = outcome ↔
      registry.Arrives element outcome := by
  constructor
  · rintro rfl
    obtain ⟨outcome, harrives⟩ := registry.exists_arrives element
    rwa [harrives.walk_eq hbound]
  · exact fun harrives => harrives.walk_eq hbound

end C4Model.Hierarchy.Registry
