import C4Model.Proofs.Hierarchy.Registry
import C4Model.Workspace.Basic
import Mathlib.Data.List.Forall2

/-! Which declarations of children are accepted. A run over declarations is followed in a sound register:
it succeeds exactly if no element is placed twice and the reference of every declaration stands for a
parent of the right kind among what was placed before it. What it attaches is, declaration by
declaration, the child under the identity of that parent. -/

namespace C4Model

/-- All elements of a system: itself, its containers and their components. -/
def SoftwareSystem.elements (system : SoftwareSystem) : List Element :=
  .softwareSystem system :: system.containers.flatMap fun container =>
    .container container :: container.components.map .component

namespace Hierarchy

open Outcome

variable {α : Type}

/-- A child, and then what it holds. -/
def ChildKind.elements (kind : ChildKind α) (child : α) : List Element :=
  kind.element child :: kind.held child

/-- Every declaration names a parent of the right kind among the elements placed before it. -/
def ParentsResolve (kind : ChildKind α) (placed : List Element)
    (declarations : List (Declaration α)) : Prop :=
  ∀ before declaration after, declarations = before ++ declaration :: after →
    ∃ parent,
      resolveAmong (placed ++ before.flatMap fun earlier => kind.elements earlier.child)
        declaration.parent = some parent ∧
      parent.kind = kind.expected

/-- The child of a declaration, under the identity of an element that the reference stands for. -/
def AttachedTo (kind : ChildKind α) (placed : List Element) (declaration : Declaration α)
    (entry : Identity × α) : Prop :=
  entry.2 = declaration.child ∧
  ∃ parent ∈ placed, parent.identity = entry.1 ∧ parent.kind = kind.expected ∧
    Registry.refersTo declaration.parent parent = true

theorem elements_entries (kind : ChildKind α) (parent : Option Identity) (child : α) :
    (kind.entries parent child).map (·.element) = kind.elements child := by
  simp [ChildKind.entries, ChildKind.elements, Function.comp_def]

theorem parentsResolve_nil (kind : ChildKind α) (placed : List Element) :
    ParentsResolve kind placed [] := by
  intro before declaration after h
  simp at h

theorem parentsResolve_cons {kind : ChildKind α} {placed : List Element}
    {declaration : Declaration α} {rest : List (Declaration α)} :
    ParentsResolve kind placed (declaration :: rest) ↔
      (∃ parent, resolveAmong placed declaration.parent = some parent ∧
        parent.kind = kind.expected) ∧
      ParentsResolve kind (placed ++ kind.elements declaration.child) rest := by
  constructor
  · intro h
    refine ⟨by simpa using h [] declaration rest rfl, ?_⟩
    intro before other after hsplit
    simpa using h (declaration :: before) other after (by rw [hsplit, List.cons_append])
  · rintro ⟨hfirst, hrest⟩ before other after hsplit
    cases before with
    | nil =>
        obtain ⟨rfl, rfl⟩ := List.cons.inj hsplit
        simpa using hfirst
    | cons earlier before =>
        obtain ⟨rfl, rfl⟩ := List.cons.inj hsplit
        simpa using hrest before other after rfl

theorem AttachedTo.mono {kind : ChildKind α} {placed further : List Element}
    {declaration : Declaration α} {entry : Identity × α}
    (h : AttachedTo kind placed declaration entry) (hsub : placed ⊆ further) :
    AttachedTo kind further declaration entry := by
  obtain ⟨hchild, parent, hmem, hparent⟩ := h
  exact ⟨hchild, parent, hsub hmem, hparent⟩

/-- What is registered with a child stands after its parent. -/
theorem Grounded.append_entries {entries : List Entry} (hgrounded : Grounded entries)
    {kind : ChildKind α} {parent : Identity} (hparent : parent ∈ entries.map Entry.identity)
    (child : α) : Grounded (entries ++ kind.entries (some parent) child) := by
  have hchild : Grounded (entries ++ [⟨kind.element child, some parent⟩]) := by
    refine hgrounded.snoc fun above habove => ?_
    obtain rfl := Option.some.inj habove
    exact hparent
  rw [ChildKind.entries, List.append_cons]
  refine hchild.append fun entry hentry above habove => ?_
  obtain ⟨element, -, rfl⟩ := List.mem_map.mp hentry
  obtain rfl := Option.some.inj habove
  simp [Entry.identity]

namespace Registry

variable {registry : Registry} {kind : ChildKind α}

theorem identities_eq (registry : Registry) :
    registry.identities = registry.elements.map Element.identity := by
  simp [identities, elements, Entry.identity]

theorem elements_extend_entries (registry : Registry) (kind : ChildKind α)
    (parent : Option Identity) (child : α) :
    (registry.extend (kind.entries parent child)).elements =
      registry.elements ++ kind.elements child := by
  rw [elements_extend, elements_entries]

/-- A child below a registered parent keeps a register sound if nothing repeats. -/
theorem Sound.extend_entries (hsound : registry.Sound) {parent : Identity} {child : α}
    (hparent : parent ∈ registry.identities)
    (hdistinct : (registry.extend (kind.entries (some parent) child)).identities.Nodup) :
    (registry.extend (kind.entries (some parent) child)).Sound :=
  ⟨hdistinct, hsound.grounded.append_entries hparent child⟩

end Registry

/-- What a run over declarations has done once it succeeds. -/
structure Attaches (kind : ChildKind α) (registry : Registry) (declarations : List (Declaration α))
    (result : Registry) (attached : List (Identity × α)) : Prop where
  sound : result.Sound
  elements : result.elements =
    registry.elements ++ declarations.flatMap fun declaration => kind.elements declaration.child
  parents : ParentsResolve kind registry.elements declarations
  attached : List.Forall₂ (AttachedTo kind result.elements) declarations attached

variable {kind : ChildKind α} {registry : Registry}

theorem attach_cons_eq_ok {declaration : Declaration α} {rest : List (Declaration α)}
    {result : Registry × List (Identity × α)} :
    attach kind registry (declaration :: rest) = .ok result ↔
      ∃ parent, registry.checkedParent (kind.element declaration.child) declaration.parent
          kind.expected = .ok parent ∧
        ∃ next, registry.registerAll (kind.entries (some parent.identity) declaration.child) =
            .ok next ∧
          ∃ others, attach kind next rest = .ok others ∧
            (others.1, (parent.identity, declaration.child) :: others.2) = result := by
  simp only [attach, bind_eq_ok_iff, pure, Except.pure, Except.ok.injEq]

theorem attaches_of_attach (hsound : registry.Sound) {declarations : List (Declaration α)}
    {result : Registry} {attached : List (Identity × α)}
    (h : attach kind registry declarations = .ok (result, attached)) :
    Attaches kind registry declarations result attached := by
  induction declarations generalizing registry result attached with
  | nil =>
      obtain ⟨rfl, rfl⟩ := Prod.mk.inj (Except.ok.inj h)
      exact ⟨hsound, by simp, parentsResolve_nil _ _, List.Forall₂.nil⟩
  | cons declaration rest ih =>
      obtain ⟨parent, hparent, next, hnext, ⟨last, others⟩, hrest, heq⟩ := attach_cons_eq_ok.mp h
      obtain ⟨rfl, rfl⟩ := Prod.mk.inj heq
      obtain ⟨hlookup, hkind⟩ := Registry.lookup_of_checkedParent hparent
      obtain ⟨hdistinct, rfl⟩ := (Registry.registerAll_eq_ok_iff hsound.distinct).mp hnext
      have hnextsound :=
        hsound.extend_entries (Registry.identity_mem_of_lookup hlookup) hdistinct
      have hstep := ih hnextsound hrest
      rw [Registry.lookup_eq] at hlookup
      have helements := hstep.elements
      rw [Registry.elements_extend_entries, List.append_assoc] at helements
      refine ⟨hstep.sound, by simpa using helements, ?_, List.Forall₂.cons ?_ hstep.attached⟩
      · refine parentsResolve_cons.mpr ⟨⟨parent, hlookup, hkind⟩, ?_⟩
        simpa only [Registry.elements_extend_entries] using hstep.parents
      · refine ⟨rfl, parent, ?_, rfl, hkind, refersTo_of_resolveAmong hlookup⟩
        rw [helements]
        exact List.mem_append_left _ (mem_of_resolveAmong hlookup)

theorem attach_of_parentsResolve (hsound : registry.Sound) {declarations : List (Declaration α)}
    (hdistinct : ((registry.elements ++ declarations.flatMap fun declaration =>
      kind.elements declaration.child).map Element.identity).Nodup)
    (hparents : ParentsResolve kind registry.elements declarations) :
    ∃ result attached, attach kind registry declarations = .ok (result, attached) := by
  induction declarations generalizing registry with
  | nil => exact ⟨registry, [], rfl⟩
  | cons declaration rest ih =>
      obtain ⟨⟨parent, hresolve, hkind⟩, hrest⟩ := parentsResolve_cons.mp hparents
      rw [← Registry.lookup_eq] at hresolve
      rw [List.flatMap_cons, ← List.append_assoc] at hdistinct
      have hhead : (registry.extend
          (kind.entries (some parent.identity) declaration.child)).identities.Nodup := by
        rw [Registry.identities_eq, Registry.elements_extend_entries]
        rw [List.map_append] at hdistinct
        exact (List.nodup_append.mp hdistinct).1
      have hchild : (kind.element declaration.child).identity ∉ registry.identities := by
        intro hmem
        rw [Registry.identities_extend, List.nodup_append] at hhead
        exact hhead.2.2 _ hmem _ List.mem_cons_self rfl
      have hnextsound := hsound.extend_entries (Registry.identity_mem_of_lookup hresolve) hhead
      obtain ⟨result, others, hothers⟩ := ih hnextsound
        (by rwa [Registry.elements_extend_entries])
        (by rwa [Registry.elements_extend_entries])
      exact ⟨result, _, attach_cons_eq_ok.mpr ⟨parent,
        Registry.checkedParent_of_lookup hsound hchild hresolve hkind, _,
        (Registry.registerAll_eq_ok_iff hsound.distinct).mpr ⟨hhead, rfl⟩, _, hothers, rfl⟩⟩

/-- Nothing is ever missing on the way upwards while declarations are checked. -/
theorem attach_error (hsound : registry.Sound) {declarations : List (Declaration α)}
    {error : HierarchyError} (h : attach kind registry declarations = .error error) :
    error ≠ .unregisteredAncestor := by
  induction declarations generalizing registry with
  | nil => cases h
  | cons declaration rest ih =>
      rcases bind_eq_error_iff.mp h with h | ⟨parent, hparent, h⟩
      · rcases Registry.checkedParent_error hsound h with rfl | ⟨actual, rfl⟩ <;> simp
      · rcases bind_eq_error_iff.mp h with h | ⟨next, hnext, h⟩
        · obtain ⟨_, _, rfl⟩ := Registry.registerAll_error h
          simp
        · obtain ⟨hdistinct, rfl⟩ := (Registry.registerAll_eq_ok_iff hsound.distinct).mp hnext
          have hlookup := (Registry.lookup_of_checkedParent hparent).1
          have hnextsound :=
            hsound.extend_entries (Registry.identity_mem_of_lookup hlookup) hdistinct
          rcases bind_eq_error_iff.mp h with h | ⟨others, -, h⟩
          · exact ih hnextsound h
          · cases h

end Hierarchy

end C4Model
