import C4Model.Element.Relationship
import Mathlib.Algebra.Order.BigOperators.Group.List
import Mathlib.Algebra.Order.Group.Nat
import Mathlib.Logic.Function.Basic

/-! Elements and references under other identities. Tokens, kinds and numbers may change as long as what was
different stays different; only the name in an identity has to stay, for it is written where an identity
has no element. What has finitely many identities is the same under two changes that agree on those. -/

namespace C4Model

/-- New identities for all: different ones for different ones, with the same names. -/
structure Renaming where
  map : Identity → Identity
  injective : Function.Injective map
  name_map : ∀ identity, (map identity).name = identity.name

namespace Allocator

/-- What is done with allocators: another one may take over, with numbers of its own. -/
inductive Step where
  | mint (kind : ElementKind) (name : String)
  | reset (start : Option Int)
  | another (start : Int)

/-- The identities that are issued. -/
def issue : Allocator → List Step → List Identity
  | _, [] => []
  | allocator, .mint kind name :: rest =>
      (allocator.mint kind name).1 :: issue (allocator.mint kind name).2 rest
  | allocator, .reset start :: rest => issue (allocator.reset start) rest
  | allocator, .another start :: rest => issue (startingAt start allocator) rest

theorem le_token_of_mem_issue {allocator : Allocator} {steps : List Step} {identity : Identity}
    (h : identity ∈ allocator.issue steps) : allocator.issuedEver ≤ identity.token := by
  induction steps generalizing allocator with
  | nil => cases h
  | cons step rest ih =>
      cases step with
      | mint kind name =>
          rcases List.mem_cons.mp h with rfl | hlater
          · exact Nat.le_refl _
          · exact Nat.le_of_succ_le (ih hlater)
      | reset start =>
          have hlater := ih h
          exact hlater
      | another start =>
          have hlater := ih h
          exact hlater

/-- No identity is issued twice, though kinds, numbers and names may come again. -/
theorem issue_distinct (allocator : Allocator) (steps : List Step) : (allocator.issue steps).Nodup := by
  induction steps generalizing allocator with
  | nil => exact List.nodup_nil
  | cons step rest ih =>
      cases step with
      | mint kind name =>
          refine List.nodup_cons.mpr ⟨fun hmem => ?_, ih _⟩
          exact absurd (le_token_of_mem_issue hmem) (Nat.not_succ_le_self _)
      | reset start => exact ih _
      | another start => exact ih _

end Allocator

section Records

variable (r : Identity → Identity)

def CodeElement.renamed (code : CodeElement) : CodeElement :=
  { code with identity := r code.identity }

def Component.renamed (component : Component) : Component :=
  { component with
    identity := r component.identity
    codeElements := component.codeElements.map (CodeElement.renamed r) }

def Container.renamed (container : Container) : Container :=
  { container with
    identity := r container.identity
    components := container.components.map (Component.renamed r) }

def SoftwareSystem.renamed (system : SoftwareSystem) : SoftwareSystem :=
  { system with
    identity := r system.identity
    containers := system.containers.map (Container.renamed r) }

def Person.renamed (person : Person) : Person :=
  { person with identity := r person.identity }

def Element.renamed : Element → Element
  | .person e => .person (e.renamed r)
  | .softwareSystem e => .softwareSystem (e.renamed r)
  | .container e => .container (e.renamed r)
  | .component e => .component (e.renamed r)
  | .code e => .code (e.renamed r)

def Endpoint.renamed : Endpoint → Endpoint
  | .raw text => .raw text
  | .identity who => .identity (r who)

def Reference.renamed : Reference → Reference
  | .raw text => .raw text
  | .identity who => .identity (r who)
  | .element e => .element (e.renamed r)

def Relationship.renamed (relationship : Relationship) : Relationship :=
  { relationship with
    source := relationship.source.renamed r
    target := relationship.target.renamed r }

@[simp] theorem Element.identity_renamed (element : Element) :
    (element.renamed r).identity = r element.identity := by
  cases element <;> rfl

@[simp] theorem Element.name_renamed (element : Element) : (element.renamed r).name = element.name := by
  cases element <;> rfl

@[simp] theorem Element.kind_renamed (element : Element) : (element.renamed r).kind = element.kind := by
  cases element <;> rfl

@[simp] theorem Reference.endpoint_renamed (ref : Reference) :
    (ref.renamed r).endpoint = ref.endpoint.renamed r := by
  cases ref with
  | raw | identity => rfl
  | element e => exact congrArg Endpoint.identity (e.identity_renamed r)

end Records

@[simp] theorem Endpoint.name_renamed (r : Renaming) (endpoint : Endpoint) :
    (endpoint.renamed r.map).name = endpoint.name := by
  cases endpoint with
  | raw text => rfl
  | identity who => exact r.name_map who

def Component.identities (component : Component) : List Identity :=
  component.identity :: component.codeElements.map (·.identity)

def Container.identities (container : Container) : List Identity :=
  container.identity :: container.components.flatMap Component.identities

def SoftwareSystem.identities (system : SoftwareSystem) : List Identity :=
  system.identity :: system.containers.flatMap Container.identities

def Element.identities : Element → List Identity
  | .person e => [e.identity]
  | .softwareSystem e => e.identities
  | .container e => e.identities
  | .component e => e.identities
  | .code e => [e.identity]

def Endpoint.identities : Endpoint → List Identity
  | .raw _ => []
  | .identity who => [who]

def Reference.identities : Reference → List Identity
  | .raw _ => []
  | .identity who => [who]
  | .element e => e.identities

def Relationship.identities (relationship : Relationship) : List Identity :=
  relationship.source.identities ++ relationship.target.identities

section Agreement

variable {r s : Identity → Identity}

/-- If changes that agree on its identities agree on a record, they agree on records in a row. -/
theorem map_renamed_congr {α : Type} {identities : α → List Identity}
    {renamed : (Identity → Identity) → α → α}
    (hrecord : ∀ record, (∀ identity ∈ identities record, r identity = s identity) →
      renamed r record = renamed s record)
    {records : List α} (h : ∀ identity ∈ records.flatMap identities, r identity = s identity) :
    records.map (renamed r) = records.map (renamed s) := by
  refine List.map_congr_left fun record hmem => hrecord record fun identity hidentity => ?_
  exact h identity (List.mem_flatMap.mpr ⟨record, hmem, hidentity⟩)

theorem Component.renamed_congr (component : Component)
    (h : ∀ identity ∈ component.identities, r identity = s identity) :
    component.renamed r = component.renamed s := by
  obtain ⟨hself, hcode⟩ := List.forall_mem_cons.mp h
  have hmap : component.codeElements.map (CodeElement.renamed r) =
      component.codeElements.map (CodeElement.renamed s) := by
    refine List.map_congr_left fun code hmem => ?_
    rw [CodeElement.renamed, CodeElement.renamed, hcode _ (List.mem_map_of_mem hmem)]
  rw [renamed, renamed, hself, hmap]

theorem Container.renamed_congr (container : Container)
    (h : ∀ identity ∈ container.identities, r identity = s identity) :
    container.renamed r = container.renamed s := by
  obtain ⟨hself, hcomponents⟩ := List.forall_mem_cons.mp h
  rw [renamed, renamed, hself, map_renamed_congr Component.renamed_congr hcomponents]

theorem SoftwareSystem.renamed_congr (system : SoftwareSystem)
    (h : ∀ identity ∈ system.identities, r identity = s identity) :
    system.renamed r = system.renamed s := by
  obtain ⟨hself, hcontainers⟩ := List.forall_mem_cons.mp h
  rw [renamed, renamed, hself, map_renamed_congr Container.renamed_congr hcontainers]

theorem Person.renamed_congr (person : Person) (h : r person.identity = s person.identity) :
    person.renamed r = person.renamed s := by
  rw [renamed, renamed, h]

theorem Element.renamed_congr (element : Element)
    (h : ∀ identity ∈ element.identities, r identity = s identity) :
    element.renamed r = element.renamed s := by
  cases element with
  | person e => exact congrArg person (e.renamed_congr (h _ List.mem_cons_self))
  | softwareSystem e => exact congrArg softwareSystem (e.renamed_congr h)
  | container e => exact congrArg container (e.renamed_congr h)
  | component e => exact congrArg component (e.renamed_congr h)
  | code e => rw [renamed, renamed, CodeElement.renamed, CodeElement.renamed, h _ List.mem_cons_self]

theorem Endpoint.renamed_congr (endpoint : Endpoint)
    (h : ∀ identity ∈ endpoint.identities, r identity = s identity) :
    endpoint.renamed r = endpoint.renamed s := by
  cases endpoint with
  | raw text => rfl
  | identity who => exact congrArg identity (h who List.mem_cons_self)

theorem Reference.renamed_congr (ref : Reference)
    (h : ∀ identity ∈ ref.identities, r identity = s identity) :
    ref.renamed r = ref.renamed s := by
  cases ref with
  | raw text => rfl
  | identity who => exact congrArg identity (h who List.mem_cons_self)
  | element e => exact congrArg element (e.renamed_congr h)

theorem Relationship.renamed_congr (relationship : Relationship)
    (h : ∀ identity ∈ relationship.identities, r identity = s identity) :
    relationship.renamed r = relationship.renamed s := by
  obtain ⟨hsource, htarget⟩ := List.forall_mem_append.mp h
  rw [renamed, renamed, relationship.source.renamed_congr hsource,
    relationship.target.renamed_congr htarget]

end Agreement

/-- The change `r` among known identities. All others get tokens from `bound` on. -/
def extendedRenaming (r : Identity → Identity) (known : List Identity) (bound : Nat)
    (identity : Identity) : Identity :=
  if identity ∈ known then r identity else { identity with token := bound + identity.token }

/-- Whoever tells finitely many identities apart and keeps their names can do so with all identities: those
left over get tokens that are not in use. -/
theorem exists_renaming {r : Identity → Identity} {known : List Identity}
    (hinjective : ∀ first ∈ known, ∀ second ∈ known, r first = r second → first = second)
    (hname : ∀ identity ∈ known, (r identity).name = identity.name) :
    ∃ s : Renaming, ∀ identity ∈ known, r identity = s.map identity := by
  obtain ⟨bound, hbound⟩ : ∃ bound, ∀ identity ∈ known, (r identity).token < bound := by
    refine ⟨(known.map fun identity => (r identity).token).sum + 1, fun identity hmem => ?_⟩
    have htoken : (r identity).token ∈ known.map fun identity => (r identity).token :=
      List.mem_map.mpr ⟨identity, hmem, rfl⟩
    exact Nat.lt_succ_of_le (List.le_sum_of_mem htoken)
  -- A known identity and another one do not meet, for their tokens lie on both sides of the bound.
  have happart : ∀ first ∈ known, ∀ second : Identity,
      r first ≠ { second with token := bound + second.token } := by
    intro first hfirst second hsame
    have htoken := congrArg Identity.token hsame
    have hless := hbound first hfirst
    simp only at htoken
    omega
  refine ⟨⟨extendedRenaming r known bound, ?_, ?_⟩, ?_⟩
  · intro first second hsame
    simp only [extendedRenaming] at hsame
    by_cases hfirst : first ∈ known <;> by_cases hsecond : second ∈ known
    · rw [if_pos hfirst, if_pos hsecond] at hsame
      exact hinjective first hfirst second hsecond hsame
    · rw [if_pos hfirst, if_neg hsecond] at hsame
      exact absurd hsame (happart first hfirst second)
    · rw [if_neg hfirst, if_pos hsecond] at hsame
      exact absurd hsame.symm (happart second hsecond first)
    · rw [if_neg hfirst, if_neg hsecond] at hsame
      obtain ⟨token, kind, serial, name⟩ := first
      obtain ⟨token', kind', serial', name'⟩ := second
      simp only [Identity.mk.injEq, Nat.add_left_cancel_iff] at hsame ⊢
      exact hsame
  · intro identity
    by_cases hmem : identity ∈ known
    · rw [extendedRenaming, if_pos hmem, hname identity hmem]
    · rw [extendedRenaming, if_neg hmem]
  · intro identity hmem
    exact (if_pos hmem).symm

end C4Model
