import C4Model.Hierarchy.Attachment
import C4Model.Proofs.Element.Renaming
import C4Model.Proofs.Hierarchy.Registry

/-! Placing elements under other identities. The register compares identities and does nothing else with
them, so every step commutes with a renaming: what is found is found under the new identity, and what is
refused is refused with the same error. -/

namespace C4Model.Hierarchy

/-- The declaration under other identities, where `child` renames the child. -/
def Declaration.renamed {α : Type} (child : (Identity → Identity) → α → α) (r : Identity → Identity)
    (declaration : Declaration α) : Declaration α :=
  ⟨child r declaration.child, declaration.parent.renamed r⟩

section Records

variable (r : Identity → Identity)

def Entry.renamed (entry : Entry) : Entry :=
  ⟨entry.element.renamed r, entry.parent.map r⟩

def Registry.renamed (registry : Registry) : Registry :=
  ⟨registry.entries.map (Entry.renamed r)⟩

def Attachments.renamed (attachments : Attachments) : Attachments where
  containers := attachments.containers.map (Prod.map r (Container.renamed r))
  components := attachments.components.map (Prod.map r (Component.renamed r))

/-- Renaming a child renames the element that it is and the elements that it holds. -/
structure ChildKind.Renames {α : Type} (kind : ChildKind α)
    (child : (Identity → Identity) → α → α) : Prop where
  element : ∀ value, kind.element (child r value) = (kind.element value).renamed r
  held : ∀ value, kind.held (child r value) = (kind.held value).map (Element.renamed r)

theorem containerChildren_renames : containerChildren.Renames r Container.renamed where
  element _ := rfl
  held container := by
    simp [containerChildren, Container.renamed, Element.renamed]

theorem componentChildren_renames : componentChildren.Renames r Component.renamed where
  element _ := rfl
  held _ := rfl

theorem entries_renamed {α : Type} {kind : ChildKind α} {child : (Identity → Identity) → α → α}
    (hkind : kind.Renames r child) (parent : Option Identity) (value : α) :
    kind.entries (parent.map r) (child r value) = (kind.entries parent value).map (Entry.renamed r) := by
  simp [ChildKind.entries, hkind.element, hkind.held, Entry.renamed]

theorem systemEntries_renamed (system : SoftwareSystem) :
    systemEntries (system.renamed r) = (systemEntries system).map (Entry.renamed r) := by
  have hcontainer (container : Container) :
      containerEntries (some (r system.identity)) (container.renamed r) =
        (containerEntries (some system.identity) container).map (Entry.renamed r) :=
    entries_renamed r (containerChildren_renames r) (some system.identity) container
  rw [systemEntries, systemEntries, List.map_cons, List.map_flatMap]
  simp only [SoftwareSystem.renamed, List.flatMap_map, hcontainer]
  rfl

end Records

namespace Registry

variable (r : Renaming) (registry : Registry)

theorem entryOf?_renamed (identity : Identity) :
    (registry.renamed r.map).entryOf? (r.map identity) =
      (registry.entryOf? identity).map (Entry.renamed r.map) := by
  rw [entryOf?, entryOf?, renamed, List.find?_map]
  refine congrArg (Option.map _) (congrArg (fun p => registry.entries.find? p) ?_)
  funext entry
  simp [Entry.renamed, r.injective.eq_iff]

theorem register_renamed (element : Element) (parent : Option Identity) :
    (registry.renamed r.map).register (element.renamed r.map) (parent.map r.map) =
      (registry.register element parent).map (renamed r.map) := by
  rw [register, register, Element.identity_renamed, entryOf?_renamed]
  cases registry.entryOf? element.identity with
  | none => simp [renamed, Entry.renamed, Except.map]
  | some entry => simp [Except.map]

theorem registerAll_renamed (entries : List Entry) :
    (registry.renamed r.map).registerAll (entries.map (Entry.renamed r.map)) =
      (registry.registerAll entries).map (renamed r.map) := by
  induction entries generalizing registry with
  | nil => rfl
  | cons entry rest ih =>
      have hfirst := registry.register_renamed r entry.element entry.parent
      rw [List.map_cons, registerAll_cons, registerAll_cons]
      simp only [Entry.renamed, hfirst]
      cases registry.register entry.element entry.parent with
      | error error => rfl
      | ok next => exact ih next

theorem lookup_renamed (ref : Reference) :
    (registry.renamed r.map).lookup (ref.renamed r.map) =
      (registry.lookup ref).map (Element.renamed r.map) := by
  rw [lookup, lookup, Reference.endpoint_renamed]
  cases ref.endpoint with
  | raw text =>
      have hname : (fun entry : Entry => entry.element.name == Text.strip text) ∘ Entry.renamed r.map =
          fun entry : Entry => entry.element.name == Text.strip text := by
        funext entry
        simp [Entry.renamed]
      simp only [Endpoint.renamed, named?, renamed, List.find?_map, hname, Option.map_map]
      rfl
  | identity who =>
      simp only [Endpoint.renamed, entryOf?_renamed, Option.map_map]
      rfl

theorem parentOf_renamed (identity : Identity) :
    (registry.renamed r.map).parentOf (r.map identity) = (registry.parentOf identity).map r.map := by
  rw [parentOf, parentOf, entryOf?_renamed]
  cases registry.entryOf? identity <;> rfl

theorem walk_renamed (bound : Nat) (seen : List Identity) (current : Option Identity) :
    (registry.renamed r.map).walk bound (seen.map r.map) (current.map r.map) =
      (registry.walk bound seen current).map (List.map (Element.renamed r.map)) := by
  induction bound generalizing seen current with
  | zero => cases current <;> rfl
  | succ bound ih =>
      cases current with
      | none => rfl
      | some current =>
          rw [Option.map_some, walk, walk, entryOf?_renamed]
          cases registry.entryOf? current with
          | none => rfl
          | some entry =>
              have hrest := ih (current :: seen) entry.parent
              have hseen : r.map current ∈ seen.map r.map ↔ current ∈ seen :=
                List.mem_map_of_injective r.injective
              simp only [Option.map_some, hseen]
              by_cases hpassed : current ∈ seen
              · simp [hpassed, Entry.renamed, Except.map]
              · rw [List.map_cons] at hrest
                simp only [hpassed, if_false, Entry.renamed, hrest]
                cases registry.walk bound (current :: seen) entry.parent <;> rfl

theorem ancestors_renamed (element : Element) :
    (registry.renamed r.map).ancestors (element.renamed r.map) =
      (registry.ancestors element).map (List.map (Element.renamed r.map)) := by
  have hwalk := registry.walk_renamed r (registry.entries.length + 2) [element.identity]
    (registry.parentOf element.identity)
  rw [ancestors, ancestors, Element.identity_renamed, parentOf_renamed, ← hwalk]
  simp [renamed]

theorem checkNotWithin_renamed (child parent : Element) :
    (registry.renamed r.map).checkNotWithin (child.renamed r.map) (parent.renamed r.map) =
      registry.checkNotWithin child parent := by
  rw [checkNotWithin, checkNotWithin, ancestors_renamed]
  cases registry.ancestors parent with
  | error error => rfl
  | ok above =>
      simp [Except.map, bind, Except.bind, r.injective.eq_iff, Function.comp_def]

theorem refersTo_renamed (ref : Reference) (element : Element) :
    refersTo (ref.renamed r.map) (element.renamed r.map) = refersTo ref element := by
  rw [refersTo, refersTo, Reference.endpoint_renamed]
  cases ref.endpoint <;> simp [Endpoint.renamed, r.injective.eq_iff]

theorem checkedParent_renamed (child : Element) (ref : Reference) (expected : ElementKind) :
    (registry.renamed r.map).checkedParent (child.renamed r.map) (ref.renamed r.map) expected =
      (registry.checkedParent child ref expected).map (Element.renamed r.map) := by
  have hfound : ((registry.renamed r.map).lookup (ref.renamed r.map)).or
      (if refersTo (ref.renamed r.map) (child.renamed r.map) then some (child.renamed r.map) else none) =
      ((registry.lookup ref).or (if refersTo ref child then some child else none)).map
        (Element.renamed r.map) := by
    rw [lookup_renamed, refersTo_renamed]
    cases registry.lookup ref <;> cases refersTo ref child <;> rfl
  rw [checkedParent, checkedParent, hfound]
  cases (registry.lookup ref).or (if refersTo ref child then some child else none) with
  | none => simp [Except.map, throw, throwThe, MonadExceptOf.throw]
  | some parent =>
      simp only [Option.map_some, checkNotWithin_renamed, Element.kind_renamed, Element.name_renamed,
        Reference.endpoint_renamed, Endpoint.name_renamed]
      cases registry.checkNotWithin child parent with
      | error error => rfl
      | ok _ => by_cases hkind : parent.kind = expected <;> simp [hkind, bind, Except.bind, Except.map,
          pure, Except.pure, throw, throwThe, MonadExceptOf.throw]

end Registry

variable (r : Renaming)

theorem attach_renamed {α : Type} {kind : ChildKind α} {child : (Identity → Identity) → α → α}
    (hkind : kind.Renames r.map child) (registry : Registry) (declarations : List (Declaration α)) :
    attach kind (registry.renamed r.map) (declarations.map (Declaration.renamed child r.map)) =
      (attach kind registry declarations).map
        (Prod.map (Registry.renamed r.map) (List.map (Prod.map r.map (child r.map)))) := by
  induction declarations generalizing registry with
  | nil => rfl
  | cons declaration rest ih =>
      have hparent := registry.checkedParent_renamed r (kind.element declaration.child)
        declaration.parent kind.expected
      rw [List.map_cons, attach, attach]
      simp only [Declaration.renamed, hkind.element, hparent]
      cases registry.checkedParent (kind.element declaration.child) declaration.parent kind.expected with
      | error error => rfl
      | ok parent =>
          have hentries := registry.registerAll_renamed r
            (kind.entries (some parent.identity) declaration.child)
          rw [← entries_renamed r.map hkind, Option.map_some] at hentries
          simp only [Except.map, bind, Except.bind, Element.identity_renamed, hentries]
          cases registry.registerAll (kind.entries (some parent.identity) declaration.child) with
          | error error => rfl
          | ok next =>
              have hrest := ih next
              simp only [Except.map, hrest]
              cases attach kind next rest with
              | error error => rfl
              | ok result => simp [pure, Except.pure, Prod.map]

theorem resolveDeclarations_renamed (people : List Person) (systems : List SoftwareSystem)
    (containers : List (Declaration Container)) (components : List (Declaration Component)) :
    resolveDeclarations (people.map (Person.renamed r.map)) (systems.map (SoftwareSystem.renamed r.map))
        (containers.map (Declaration.renamed Container.renamed r.map))
        (components.map (Declaration.renamed Component.renamed r.map)) =
      (resolveDeclarations people systems containers components).map (Attachments.renamed r.map) := by
  have hentries : (people.map (Person.renamed r.map)).map (fun person => ⟨.person person, none⟩) ++
      (systems.map (SoftwareSystem.renamed r.map)).flatMap systemEntries =
        (people.map (fun person => (⟨.person person, none⟩ : Entry)) ++
          systems.flatMap systemEntries).map (Entry.renamed r.map) := by
    simp only [List.map_append, List.map_map, List.flatMap_map, List.map_flatMap,
      systemEntries_renamed]
    rfl
  have hregistered : ({} : Registry).registerAll _ = _ := ({} : Registry).registerAll_renamed r
    (people.map (fun person => ⟨.person person, none⟩) ++ systems.flatMap systemEntries)
  rw [resolveDeclarations, resolveDeclarations]
  simp only [hentries, hregistered]
  cases ({} : Registry).registerAll
      (people.map (fun person => ⟨.person person, none⟩) ++ systems.flatMap systemEntries) with
  | error error => rfl
  | ok registry =>
      have hcontainers := attach_renamed r (containerChildren_renames r.map) registry containers
      simp only [Except.map, bind, Except.bind, hcontainers]
      cases attach containerChildren registry containers with
      | error error => rfl
      | ok result =>
          have hcomponents := attach_renamed r (componentChildren_renames r.map) result.1 components
          simp only [Except.map, Prod.map, hcomponents]
          cases attach componentChildren result.1 components <;> rfl

theorem childrenOf_renamed {α : Type} (child : α → α) (attached : List (Identity × α))
    (parent : Identity) :
    childrenOf (attached.map (Prod.map r.map child)) (r.map parent) =
      (childrenOf attached parent).map child := by
  rw [childrenOf, childrenOf, List.filterMap_map, List.map_filterMap]
  refine List.filterMap_congr fun entry _ => ?_
  by_cases hparent : entry.1 = parent <;> simp [hparent, r.injective.eq_iff]

namespace Attachments

variable (attachments : Attachments)

theorem containersOf_renamed (system : SoftwareSystem) :
    (attachments.renamed r.map).containersOf (system.renamed r.map) =
      (attachments.containersOf system).map (Container.renamed r.map) := by
  rw [containersOf, containersOf, List.map_append, ← childrenOf_renamed]
  rfl

theorem componentsOf_renamed (container : Container) :
    (attachments.renamed r.map).componentsOf (container.renamed r.map) =
      (attachments.componentsOf container).map (Component.renamed r.map) := by
  rw [componentsOf, componentsOf, List.map_append, ← childrenOf_renamed]
  rfl

end Attachments

end C4Model.Hierarchy
