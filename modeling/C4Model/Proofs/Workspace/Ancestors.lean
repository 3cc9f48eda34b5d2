import C4Model.Proofs.Hierarchy.Ancestors
import C4Model.Proofs.Hierarchy.Lookup
import C4Model.Proofs.Workspace.Success

/-! The way upwards while the declarations of a workspace are checked. Every register that comes up on the way
is sound, also one in which the children of a declared container are not all there yet; so no walk in it
comes back to where it was, and none misses a parent. -/

namespace C4Model

open Hierarchy Outcome

namespace Hierarchy

/-- What stands before the end of a grounded list is grounded. -/
theorem Grounded.of_append {first second : List Entry} (h : Grounded (first ++ second)) :
    Grounded first := by
  generalize hentries : first ++ second = entries at h
  induction h generalizing second with
  | empty =>
      rw [(List.append_eq_nil_iff.mp hentries).1]
      exact .empty
  | @snoc entries entry before parent ih =>
      rcases List.eq_nil_or_concat second with rfl | ⟨front, last, rfl⟩
      · rw [List.append_nil] at hentries
        rw [hentries]
        exact before.snoc parent
      · rw [List.concat_eq_append, ← List.append_assoc] at hentries
        exact ih (List.append_inj' hentries rfl).1

/-- A register stays sound up to the first element that it refuses. -/
theorem Registry.Sound.registerEach {registry : Registry} (hsound : registry.Sound)
    {entries : List Entry} (hgrounded : Grounded (registry.entries ++ entries)) :
    (registry.registerEach entries).1.Sound := by
  obtain ⟨done, rest, rfl, hdone, hdistinct⟩ := registry.exists_registerEach entries
  rw [hdone]
  rw [← List.append_assoc] at hgrounded
  exact ⟨hdistinct hsound.distinct, hgrounded.of_append⟩

/-- The registers that come up while declarations of one kind are checked: those between two declarations,
and those in which a child is registered with a part of what it holds. -/
inductive Attaching {α : Type} (kind : ChildKind α) (start : Registry)
    (declarations : List (Declaration α)) : Registry → Prop
  | between {done : List (Declaration α)} {registry : Registry} {attached : List (Identity × α)}
      (first : done <+: declarations) (run : attach kind start done = .ok (registry, attached)) :
      Attaching kind start declarations registry
  | within {done : List (Declaration α)} {declaration : Declaration α} {registry : Registry}
      {attached : List (Identity × α)} {parent : Element} {entries : List Entry}
      (first : done ++ [declaration] <+: declarations)
      (run : attach kind start done = .ok (registry, attached))
      (checked : registry.checkedParent (kind.element declaration.child) declaration.parent
        kind.expected = .ok parent)
      (part : entries <+: kind.entries (some parent.identity) declaration.child) :
      Attaching kind start declarations (registry.registerEach entries).1

theorem Attaching.sound {α : Type} {kind : ChildKind α} {start registry : Registry}
    {declarations : List (Declaration α)} (hsound : start.Sound)
    (h : Attaching kind start declarations registry) : registry.Sound := by
  cases h with
  | between _ run => exact (attaches_of_attach hsound run).sound
  | @within _ declaration before _ parent entries _ run checked part =>
      have hbefore : before.Sound := (attaches_of_attach hsound run).sound
      have hparent := Registry.identity_mem_of_lookup (Registry.lookup_of_checkedParent checked).1
      have hgrounded : Grounded (before.entries ++ kind.entries (some parent.identity) declaration.child) :=
        hbefore.grounded.append_entries hparent declaration.child
      obtain ⟨rest, hrest⟩ := part
      rw [← hrest, ← List.append_assoc] at hgrounded
      exact hbefore.registerEach hgrounded.of_append

end Hierarchy

namespace Workspace

/-- The registers that come up while the declarations of a workspace are checked. -/
inductive Resolving (w : Workspace) : Registry → Prop
  | placing {entries : List Entry} (part : entries <+: w.topEntries) :
      Resolving w (({} : Registry).registerEach entries).1
  | containers {start registry : Registry} (placed : ({} : Registry).registerAll w.topEntries = .ok start)
      (attaching : Attaching containerChildren start w.containerDeclarations registry) :
      Resolving w registry
  | components {start next registry : Registry} {attached : List (Identity × Container)}
      (placed : ({} : Registry).registerAll w.topEntries = .ok start)
      (run : attach containerChildren start w.containerDeclarations = .ok (next, attached))
      (attaching : Attaching componentChildren next w.componentDeclarations registry) :
      Resolving w registry

theorem Resolving.sound {w : Workspace} {registry : Registry} (h : w.Resolving registry) :
    registry.Sound := by
  have htop : ∀ {start : Registry}, ({} : Registry).registerAll w.topEntries = .ok start →
      start.Sound := by
    intro start hplaced
    obtain ⟨hdistinct, rfl⟩ := registerAll_topEntries.mp hplaced
    exact sound_topRegistry hdistinct
  cases h with
  | placing part =>
      obtain ⟨rest, hrest⟩ := part
      have hgrounded := w.grounded_topEntries
      rw [← hrest] at hgrounded
      have hempty : ({} : Registry).Sound := ⟨List.nodup_nil, .empty⟩
      exact hempty.registerEach hgrounded.of_append
  | containers placed attaching => exact attaching.sound (htop placed)
  | components placed run attaching =>
      exact attaching.sound (attaches_of_attach (htop placed) run).sound

/-- In every register, whatever its parents are, the walk upwards gives what the way comes to: all ancestors,
the element that it comes back to, or that a parent is missing; and its bound is never what ends it.
While the declarations of a workspace are checked, it always gives the ancestors. -/
theorem ancestors_arrive :
    (∀ (registry : Registry) (element : Element),
      (∀ outcome, registry.ancestors element = outcome ↔ registry.Arrives element outcome) ∧
      ∀ bound, registry.entries.length < bound →
        registry.walk bound [element.identity] (registry.parentOf element.identity) =
          registry.ancestors element) ∧
    ∀ (w : Workspace) (registry : Registry), w.Resolving registry →
      ∀ element, ∃ chain, registry.ancestors element = .ok chain := by
  refine ⟨fun registry element => ?_, fun w registry hresolving element => ?_⟩
  · have hancestors : ∀ outcome, registry.ancestors element = outcome ↔
        registry.Arrives element outcome := fun outcome => Registry.walk_eq_iff (by omega)
    refine ⟨hancestors, fun bound hbound => ?_⟩
    rw [Registry.walk_eq_iff hbound, ← hancestors]
  · obtain ⟨chain, hchain, -⟩ := registry.ancestors_ok hresolving.sound element
    exact ⟨chain, hchain⟩

end Workspace

namespace Bookshop

/-- A shelf that holds the stock in which it stands, a reader above whom is the stock, and a shop above which
is a person who is not registered. -/
def knotted : Registry :=
  ({} : Registry).after [
    .alone (.container stock) (some (.component shelf)),
    .alone (.component shelf) (some (.container stock)),
    .alone (.person reader) (some (.container stock)),
    .alone (.softwareSystem shop) (some (.person { reader with identity := ⟨9, .person, 2, "Owner"⟩ }))]

/-- The register of the bookshop once all its declarations are checked. -/
def filled : Registry :=
  ⟨[⟨.person reader, none⟩, ⟨.softwareSystem shop, none⟩, ⟨.container stock, some shop.identity⟩,
    ⟨.component shelf, some stock.identity⟩]⟩

end Bookshop

namespace Workspace

open Bookshop

/-- The stock and the shelf come back to themselves, the reader to the stock, and the shop to nobody; once the
bookshop has its declarations, the shelf stands in the stock and the stock in the shop. -/
theorem ancestors_in_bookshop :
    knotted.ancestors (.container stock) = .error (.circular "Stock") ∧
    knotted.ancestors (.component shelf) = .error (.circular "Shelf") ∧
    knotted.ancestors (.person reader) = .error (.circular "Stock") ∧
    knotted.ancestors (.softwareSystem shop) = .error .unregisteredAncestor ∧
    workspace.Resolving filled ∧
    filled.ancestors (.component shelf) = .ok [.container stock, .softwareSystem shop] ∧
    ∀ element, ∃ chain, filled.ancestors element = .ok chain := by
  obtain ⟨hexact, hresolving⟩ := ancestors_arrive
  have hstock : knotted.entryOf? stock.identity = some ⟨.container stock, some shelf.identity⟩ := rfl
  have hshelf : knotted.entryOf? shelf.identity = some ⟨.component shelf, some stock.identity⟩ := rfl
  have habovestock : knotted.Ascent (.container stock) [.component shelf] (some stock.identity) :=
    ⟨.up hshelf .here, by decide⟩
  have haboveshelf : knotted.Ascent (.component shelf) [.container stock] (some shelf.identity) :=
    ⟨.up hstock .here, by decide⟩
  have habovereader : knotted.Ascent (.person reader) [.container stock, .component shelf]
      (some stock.identity) := ⟨.up hstock (.up hshelf .here), by decide⟩
  have haboveshop : knotted.Ascent (.softwareSystem shop) [] (some ⟨9, .person, 2, "Owner"⟩) :=
    ⟨.here, by decide⟩
  have hstanding : filled.entryOf? stock.identity = some ⟨.container stock, some shop.identity⟩ := rfl
  have hoffered : filled.entryOf? shop.identity = some ⟨.softwareSystem shop, none⟩ := rfl
  have hfilled : filled.Ascent (.component shelf) [.container stock, .softwareSystem shop] none :=
    ⟨.up hstanding (.up hoffered .here), by decide⟩
  have hlast : workspace.Resolving filled := .components rfl rfl (.between List.prefix_rfl rfl)
  refine ⟨?_, ?_, ?_, ?_, hlast, ?_, hresolving workspace filled hlast⟩
  · exact ((hexact knotted _).1 _).mpr (.back habovestock (by decide) rfl)
  · exact ((hexact knotted _).1 _).mpr (.back haboveshelf (by decide) rfl)
  · exact ((hexact knotted _).1 _).mpr (.back habovereader (by decide) rfl)
  · exact ((hexact knotted _).1 _).mpr (.lost haboveshop rfl)
  · exact ((hexact filled _).1 _).mpr (.top hfilled)

end Workspace

end C4Model
