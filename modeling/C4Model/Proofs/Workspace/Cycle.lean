import C4Model.Proofs.Workspace.Growth
import C4Model.Proofs.Workspace.Success

/-! Declarations that would put an element below itself. A child that is declared for itself is reported as
circular. A container that is declared for one of its own components is reported so only if the two have
their places already: what a child holds is registered behind the check of its parent, so before that
the component is a parent that is not registered. -/

namespace C4Model

open Hierarchy Outcome

namespace Hierarchy

namespace Registry

variable {registry : Registry} {child parent : Element} {ref : Reference} {expected : ElementKind}

theorem checkNotWithin_of_mem {above : List Element} (habove : registry.ancestors parent = .ok above)
    (hmem : child.identity ∈ (parent :: above).map Element.identity) :
    registry.checkNotWithin child parent = .error (.circular child.name) := by
  have hany : ((parent :: above).any fun ancestor =>
      decide (ancestor.identity = child.identity)) = true := by
    obtain ⟨ancestor, hancestor, hsame⟩ := List.mem_map.mp hmem
    exact List.any_eq_true.mpr ⟨ancestor, hancestor, decide_eq_true hsame⟩
  rw [checkNotWithin, habove]
  simp only [bind, Except.bind, hany, if_true]
  rfl

theorem checkedParent_of_circular {error : HierarchyError} (hlookup : registry.lookup ref = some parent)
    (hwithin : registry.checkNotWithin child parent = .error error) :
    registry.checkedParent child ref expected = .error error := by
  simp [checkedParent, hlookup, hwithin, bind, Except.bind]

/-- A child that is given as its own parent, by itself, is circular whether it is registered or not. -/
theorem checkedParent_self (hsound : registry.Sound) (href : ref.endpoint = .identity child.identity) :
    registry.checkedParent child ref expected = .error (.circular child.name) := by
  have hself : ∀ found : Element, found.identity = child.identity →
      registry.checkNotWithin child found = .error (.circular child.name) := by
    intro found hfound
    obtain ⟨above, habove, -⟩ := registry.ancestors_ok hsound found
    exact checkNotWithin_of_mem habove (by simp [hfound])
  cases hlookup : registry.lookup ref with
  | some found =>
      have hrefers : refersTo ref found = true := by
        rw [lookup_eq] at hlookup
        exact refersTo_of_resolveAmong hlookup
      rw [refersTo, href] at hrefers
      exact checkedParent_of_circular hlookup (hself found (of_decide_eq_true hrefers).symm)
  | none =>
      have hrefers : refersTo ref child = true := by
        simp [refersTo, href]
      simp [checkedParent, hlookup, hrefers, hself child rfl, bind, Except.bind]

/-- A parent that is neither registered nor the child itself is unknown. -/
theorem checkedParent_unregistered {who : Identity} (href : ref.endpoint = .identity who)
    (hwho : who ∉ registry.identities) (hchild : who ≠ child.identity) :
    registry.checkedParent child ref expected =
      .error (.invalidParent child.name expected none who.name) := by
  have hlookup : registry.lookup ref = none := by
    rw [lookup, href]
    simp [entryOf?_eq_none_iff.mpr hwho]
  have hrefers : refersTo ref child = false := by
    simp [refersTo, href, hchild]
  simp [checkedParent, hlookup, hrefers, href, Endpoint.name]
  rfl

theorem mem_ancestors_of_parentOf {above : List Element} {holder : Identity}
    (habove : registry.ancestors child = .ok above)
    (hholder : registry.parentOf child.identity = some holder) :
    holder ∈ above.map Element.identity := by
  rw [ancestors, hholder, walk] at habove
  cases hentry : registry.entryOf? holder with
  | none => simp [hentry] at habove
  | some entry =>
      have hidentity := identity_of_entryOf? hentry
      simp only [hentry] at habove
      split at habove
      · cases habove
      · obtain ⟨rest, -, rfl⟩ := map_eq_ok_iff.mp habove
        rw [List.map_cons, hidentity]
        exact List.mem_cons_self

/-- The components of every registered container are registered below it. -/
def HoldsComponents (registry : Registry) : Prop :=
  ∀ container, .container container ∈ registry.elements → ∀ component ∈ container.components,
    (⟨.component component, some container.identity⟩ : Entry) ∈ registry.entries

theorem HoldsComponents.extend {block : List Entry} (h : registry.HoldsComponents)
    (hblock : ∀ container, .container container ∈ block.map (·.element) →
      ∀ component ∈ container.components,
        (⟨.component component, some container.identity⟩ : Entry) ∈ block) :
    (registry.extend block).HoldsComponents := by
  intro container hcontainer component hcomponent
  rw [elements_extend] at hcontainer
  rcases List.mem_append.mp hcontainer with hthere | hnew
  · exact List.mem_append_left _ (h container hthere component hcomponent)
  · exact List.mem_append_right _ (hblock container hnew component hcomponent)

theorem HoldsComponents.checkedParent (hholds : registry.HoldsComponents) (hsound : registry.Sound)
    {container : Container} (hcontainer : .container container ∈ registry.elements)
    {component : Component} (hcomponent : component ∈ container.components)
    (href : ref.endpoint = .identity component.identity) :
    registry.checkedParent (.container container) ref expected =
      .error (.circular container.name) := by
  have hentry := hholds container hcontainer component hcomponent
  obtain ⟨before, after, hsplit⟩ := List.append_of_mem hentry
  have hfound : registry.entryOf? component.identity =
      some ⟨.component component, some container.identity⟩ :=
    entryOf?_of_split hsplit hsound.distinct
  have hlookup : registry.lookup ref = some (.component component) :=
    lookup_of_mem hsound.distinct (List.mem_map.mpr ⟨_, hentry, rfl⟩) href
  have hparent : registry.parentOf (Element.component component).identity =
      some container.identity := by
    show (registry.entryOf? component.identity).bind (·.parent) = _
    rw [hfound, Option.bind_some]
  obtain ⟨above, habove, -⟩ := registry.ancestors_ok hsound (.component component)
  refine checkedParent_of_circular hlookup (checkNotWithin_of_mem habove ?_)
  rw [List.map_cons]
  exact List.mem_cons_of_mem _ (mem_ancestors_of_parentOf habove hparent)

end Registry

/-- All containers in what is registered with a container are followed by their components. -/
theorem holds_containerEntries (parent : Option Identity) (child container : Container)
    (hcontainer : .container container ∈ (containerEntries parent child).map (·.element))
    (component : Component) (hcomponent : component ∈ container.components) :
    (⟨.component component, some container.identity⟩ : Entry) ∈ containerEntries parent child := by
  rw [containerEntries, elements_entries, ChildKind.elements, List.mem_cons] at hcontainer
  rcases hcontainer with hchild | hheld
  · obtain rfl : container = child := by
      injection hchild
    refine List.mem_cons_of_mem _ (List.mem_map.mpr ⟨.component component, ?_, rfl⟩)
    exact List.mem_map_of_mem hcomponent
  · obtain ⟨other, -, hother⟩ := List.mem_map.mp hheld
    cases hother

variable {α : Type} {kind : ChildKind α} {registry next : Registry}

/-- What is refused behind accepted declarations is what the run is refused with. -/
theorem attach_append_of_refused {earlier : List (Declaration α)} {attached : List (Identity × α)}
    (h : attach kind registry earlier = .ok (next, attached)) {child : α} {parent : Reference}
    {error : HierarchyError}
    (hrefused : next.checkedParent (kind.element child) parent kind.expected = .error error)
    (later : List (Declaration α)) :
    attach kind registry (earlier ++ ⟨child, parent⟩ :: later) = .error error := by
  induction earlier generalizing registry attached with
  | nil =>
      obtain ⟨rfl, rfl⟩ := Prod.mk.inj (Except.ok.inj h)
      simp [attach, hrefused, bind, Except.bind]
  | cons declaration rest ih =>
      obtain ⟨found, hfound, between, hbetween, others, hothers, hresult⟩ := attach_cons_eq_ok.mp h
      obtain ⟨rfl, -⟩ := Prod.mk.inj hresult
      simp [attach, hfound, hbetween, ih hothers, bind, Except.bind]

theorem holdsComponents_of_attach (hsound : registry.Sound) (hholds : registry.HoldsComponents)
    {declarations : List (Declaration Container)} {attached : List (Identity × Container)}
    (h : attach containerChildren registry declarations = .ok (next, attached)) :
    next.HoldsComponents := by
  induction declarations generalizing registry attached with
  | nil =>
      obtain ⟨rfl, -⟩ := Prod.mk.inj (Except.ok.inj h)
      exact hholds
  | cons declaration rest ih =>
      obtain ⟨found, hfound, between, hbetween, others, hothers, hresult⟩ := attach_cons_eq_ok.mp h
      obtain ⟨rfl, -⟩ := Prod.mk.inj hresult
      have hlookup := (Registry.lookup_of_checkedParent hfound).1
      obtain ⟨hdistinct, rfl⟩ := (Registry.registerAll_eq_ok_iff hsound.distinct).mp hbetween
      exact ih (hsound.extend_entries (Registry.identity_mem_of_lookup hlookup) hdistinct)
        (hholds.extend (holds_containerEntries _ _)) hothers

end Hierarchy

namespace Workspace

variable {w : Workspace}

theorem holdsComponents_topRegistry (w : Workspace) : w.topRegistry.HoldsComponents := by
  intro container hcontainer component hcomponent
  rw [elements_topRegistry] at hcontainer
  rcases List.mem_append.mp hcontainer with hperson | hsystem
  · obtain ⟨person, -, hperson⟩ := List.mem_map.mp hperson
    cases hperson
  · obtain ⟨system, hsystem, hmem⟩ := List.mem_flatMap.mp hsystem
    refine List.mem_append_right _ (List.mem_flatMap.mpr ⟨system, hsystem, ?_⟩)
    rw [← elements_systemEntries, systemEntries, List.map_cons, List.mem_cons] at hmem
    rcases hmem with hmem | hmem
    · cases hmem
    · obtain ⟨entry, hentry, helement⟩ := List.mem_map.mp hmem
      obtain ⟨owned, howned, hblock⟩ := List.mem_flatMap.mp hentry
      refine List.mem_cons_of_mem _ (List.mem_flatMap.mpr ⟨owned, howned, ?_⟩)
      exact holds_containerEntries _ _ container (List.mem_map.mpr ⟨entry, hblock, helement⟩) component
        hcomponent

/-- The people, the systems and the declarations of containers are accepted, whatever components are
declared. -/
def ContainersAccepted (w : Workspace) : Prop :=
  ∃ attachments, ({ w with componentDeclarations := [] } : Workspace).attachments = .ok attachments

/-- What is registered before the components that are declared. -/
theorem ContainersAccepted.exists_registry (h : w.ContainersAccepted) :
    ∃ registry attached, ({} : Registry).registerAll w.topEntries = .ok w.topRegistry ∧
      attach containerChildren w.topRegistry w.containerDeclarations = .ok (registry, attached) ∧
      registry.Sound ∧ registry.HoldsComponents ∧
      registry.elements = w.topElements ++ w.declaredContainers := by
  obtain ⟨attachments, hattachments⟩ := h
  obtain ⟨registry, hregistry, ⟨first, attached⟩, hfirst, -⟩ := attachments_eq_ok.mp hattachments
  obtain ⟨htop, rfl⟩ := registerAll_topEntries.mp hregistry
  have hsound : w.topRegistry.Sound := sound_topRegistry htop
  have hattaches := attaches_of_attach hsound hfirst
  refine ⟨first, attached, hregistry, hfirst, hattaches.sound,
    holdsComponents_of_attach hsound w.holdsComponents_topRegistry hfirst, ?_⟩
  exact hattaches.elements.trans (congrArg (· ++ _) w.elements_topRegistry)

theorem attachments_of_refused_container {registry : Registry} {attached : List (Identity × Container)}
    (htop : ({} : Registry).registerAll w.topEntries = .ok w.topRegistry)
    (hattach : attach containerChildren w.topRegistry w.containerDeclarations =
      .ok (registry, attached))
    {child : Container} {parent : Reference} {error : HierarchyError}
    (hrefused : registry.checkedParent (.container child) parent .softwareSystem = .error error)
    (later : List (Declaration Container)) :
    (w.extended [] (⟨child, parent⟩ :: later) []).attachments = .error error := by
  have hrun : attach containerChildren w.topRegistry
      (w.containerDeclarations ++ ⟨child, parent⟩ :: later) = .error error :=
    attach_append_of_refused hattach hrefused later
  rw [topEntries] at htop
  simp only [Workspace.attachments, extended, resolveDeclarations, List.append_nil, htop, hrun, bind,
    Except.bind]

theorem attachments_of_refused_component {registry : Registry} {attached : List (Identity × Container)}
    {next : Registry} {components : List (Identity × Component)}
    (htop : ({} : Registry).registerAll w.topEntries = .ok w.topRegistry)
    (hattach : attach containerChildren w.topRegistry w.containerDeclarations =
      .ok (registry, attached))
    (hcomponents : attach componentChildren registry w.componentDeclarations = .ok (next, components))
    {child : Component} {parent : Reference} {error : HierarchyError}
    (hrefused : next.checkedParent (.component child) parent .container = .error error)
    (later : List (Declaration Component)) :
    (w.extended [] [] (⟨child, parent⟩ :: later)).attachments = .error error := by
  have hrun : attach componentChildren registry
      (w.componentDeclarations ++ ⟨child, parent⟩ :: later) = .error error :=
    attach_append_of_refused hcomponents hrefused later
  rw [topEntries] at htop
  simp only [Workspace.attachments, extended, resolveDeclarations, List.append_nil, htop, hattach, hrun,
    bind, Except.bind]

/-- One more declaration behind accepted ones, whatever comes after it. If its child is declared for itself, it
is circular. If a container is declared for a component of its own, it is circular if the container has its
place already. If the container has none, the component is a parent of the wrong kind where it has a place
elsewhere, and one that is not registered where it has no place either. -/
theorem declared_below_itself (w : Workspace) :
    (w.ContainersAccepted → ∀ (child : Container) (parent : Reference)
      (later : List (Declaration Container)),
      (parent.endpoint = .identity child.identity →
        (w.extended [] (⟨child, parent⟩ :: later) []).attachments = .error (.circular child.name)) ∧
      ∀ component ∈ child.components, parent.endpoint = .identity component.identity →
        (.container child ∈ w.topElements ++ w.declaredContainers →
          (w.extended [] (⟨child, parent⟩ :: later) []).attachments = .error (.circular child.name)) ∧
        (component.identity ∉ (w.topElements ++ w.declaredContainers).map Element.identity →
          component.identity ≠ child.identity →
          (w.extended [] (⟨child, parent⟩ :: later) []).attachments =
            .error (.invalidParent child.name .softwareSystem none component.identity.name)) ∧
        (.component component ∈ w.topElements ++ w.declaredContainers →
          child.identity ∉ (w.topElements ++ w.declaredContainers).map Element.identity →
          (w.extended [] (⟨child, parent⟩ :: later) []).attachments =
            .error (.invalidParent child.name .softwareSystem (some .component) component.identity.name))) ∧
    ((∃ attachments, w.attachments = .ok attachments) → ∀ (child : Component) (parent : Reference)
      (later : List (Declaration Component)), parent.endpoint = .identity child.identity →
      (w.extended [] [] (⟨child, parent⟩ :: later)).attachments = .error (.circular child.name)) := by
  constructor
  · intro haccepted child parent later
    obtain ⟨registry, attached, htop, hattach, hsound, hholds, helements⟩ :=
      haccepted.exists_registry
    rw [← helements, ← Registry.identities_eq]
    refine ⟨fun hself => ?_, fun component hcomponent hparent =>
      ⟨fun hplaced => ?_, fun hunplaced hne => ?_, fun helsewhere hfresh => ?_⟩⟩
    · exact attachments_of_refused_container htop hattach
        (Registry.checkedParent_self hsound hself) later
    · exact attachments_of_refused_container htop hattach
        (hholds.checkedParent hsound hplaced hcomponent hparent) later
    · exact attachments_of_refused_container htop hattach
        (Registry.checkedParent_unregistered hparent hunplaced hne) later
    · have hkind : (Element.component component).kind ≠ .softwareSystem := ElementKind.noConfusion
      have hrefused : registry.checkedParent (.container child) parent .softwareSystem = _ :=
        Registry.checkedParent_of_other_kind hsound hfresh
          (Registry.lookup_of_mem hsound.distinct helsewhere hparent) hkind
      rw [hparent] at hrefused
      exact attachments_of_refused_container htop hattach hrefused later
  · rintro ⟨attachments, hattachments⟩ child parent later hself
    obtain ⟨registry, hregistry, ⟨first, attached⟩, hfirst, ⟨second, components⟩, hsecond, -⟩ :=
      attachments_eq_ok.mp hattachments
    obtain ⟨htop, rfl⟩ := registerAll_topEntries.mp hregistry
    have hsound := (attaches_of_attach (sound_topRegistry htop) hfirst).sound
    exact attachments_of_refused_component hregistry hfirst hsecond
      (Registry.checkedParent_self (attaches_of_attach hsound hsecond).sound hself) later

end Workspace

namespace Bookshop

def crate : Component where
  identity := ⟨7, .component, 1, "Crate"⟩
  name := "Crate"
  description := "Holds books"

/-- A container that has no place in the bookshop, with a component of its own. -/
def cellar : Container where
  identity := ⟨6, .container, 1, "Cellar"⟩
  name := "Cellar"
  description := "Holds crates"
  components := [crate]

/-- Another container for the crate, without a place. -/
def attic : Container where
  identity := ⟨8, .container, 2, "Attic"⟩
  name := "Attic"
  description := "Holds crates"
  components := [crate]

/-- The bookshop with the cellar in its shop. -/
def deepened : Workspace :=
  { workspace with systems := [{ shop with containers := [cellar] }] }

end Bookshop

namespace Workspace

open Bookshop

/-- The cellar is circular as its own parent. Its crate is an unknown parent of it, and a circular one once the
cellar has its place; for the attic the crate in the cellar is of the wrong kind. -/
theorem cellar_below_crate :
    (workspace.extended [] [⟨cellar, .element (.container cellar)⟩] []).attachments =
      .error (.circular "Cellar") ∧
    (workspace.extended [] [⟨cellar, .element (.component crate)⟩] []).attachments =
      .error (.invalidParent "Cellar" .softwareSystem none "Crate") ∧
    (deepened.extended [] [⟨cellar, .element (.component crate)⟩] []).attachments =
      .error (.circular "Cellar") ∧
    (deepened.extended [] [⟨attic, .element (.component crate)⟩] []).attachments =
      .error (.invalidParent "Attic" .softwareSystem (some .component) "Crate") ∧
    (workspace.extended [] [] [⟨shelf, .identity shelf.identity⟩]).attachments =
      .error (.circular "Shelf") := by
  have haccepted : workspace.ContainersAccepted := ⟨⟨[(shop.identity, stock)], []⟩, rfl⟩
  have hdeepened : deepened.ContainersAccepted := ⟨⟨[(shop.identity, stock)], []⟩, rfl⟩
  have hplaced : .container cellar ∈ deepened.topElements ++ deepened.declaredContainers := by
    simp [deepened, topElements, SoftwareSystem.elements]
  have helsewhere : .component crate ∈ deepened.topElements ++ deepened.declaredContainers := by
    simp [deepened, topElements, SoftwareSystem.elements, cellar]
  obtain ⟨hcontainers, hcomponents⟩ := declared_below_itself workspace
  have hdeeper := (declared_below_itself deepened).1 hdeepened
  refine ⟨?_, ?_, ?_, ?_, ?_⟩
  · exact (hcontainers haccepted cellar _ []).1 rfl
  · exact ((hcontainers haccepted cellar _ []).2 crate List.mem_cons_self rfl).2.1 (by decide) (by decide)
  · exact ((hdeeper cellar _ []).2 crate List.mem_cons_self rfl).1 hplaced
  · exact ((hdeeper attic _ []).2 crate List.mem_cons_self rfl).2.2 helsewhere (by decide)
  · exact hcomponents ⟨_, attachments_eq⟩ shelf _ [] rfl

end Workspace

end C4Model
