import C4Model.Proofs.Workspace.Paths

/-! Workspaces that grow. What is added behind what is there already comes last among its siblings, so with a
scope for every parent it gets its identifier after all of them and takes none away. If parents are given
by themselves, and not by names that a new element might have too, every child stays under its parent; so
every element keeps its path. -/

namespace C4Model

open Hierarchy

/-- Trees are added in a row behind those that are there, at any level; nothing else changes. -/
inductive Tree.Grows {α : Type} : List (Tree α) → List (Tree α) → Prop
  | more (added : List (Tree α)) : Grows [] added
  | keep {value : α} {children children' rest rest' : List (Tree α)} (inner : Grows children children')
      (outer : Grows rest rest') : Grows (.node value children :: rest) (.node value children' :: rest')

/-- Trees that are made one by one grow if each of them does. -/
theorem Tree.Grows.map_append {α β : Type} {before after : β → Tree α} {list : List β}
    (h : ∀ item ∈ list, (before item).value = (after item).value ∧
      Grows (before item).children (after item).children) {rest rest' : List (Tree α)}
    (hrest : Grows rest rest') : Grows (list.map before ++ rest) (list.map after ++ rest') := by
  induction list with
  | nil => exact hrest
  | cons item others ih =>
      obtain ⟨⟨hvalue, hchildren⟩, hothers⟩ := List.forall_mem_cons.mp h
      rw [List.map_cons, List.map_cons]
      generalize before item = first, after item = second at hvalue hchildren
      obtain ⟨_, _⟩ := first
      obtain ⟨_, _⟩ := second
      obtain rfl := hvalue
      exact .keep hchildren (ih hothers)

theorem Tree.Grows.map {α β : Type} {before after : β → Tree α} {list : List β}
    (h : ∀ item ∈ list, (before item).value = (after item).value ∧
      Grows (before item).children (after item).children) (added : List (Tree α)) :
    Grows (list.map before) (list.map after ++ added) := by
  have hgrows := Grows.map_append h (.more added)
  rwa [List.append_nil] at hgrows

namespace Outline

/-- With a scope for every parent, an element keeps its identifier and its path as the trees grow. -/
theorem mem_nameForest_of_grows {forest forest' : List (Tree Placed)} (h : Tree.Grows forest forest')
    {parent : Option String} {scope : Naming.Scope} {element : Named}
    (helement : element ∈ elementsOf (nameForest .hierarchical parent scope forest).1) :
    element ∈ elementsOf (nameForest .hierarchical parent scope forest').1 := by
  induction h generalizing parent scope with
  | more => cases helement
  | @keep placed children children' rest rest' _ _ ihinner ihouter =>
      rw [nameForest_cons, elementsOf, nameTree_fst, nameTree_snd, elements, List.mem_append,
        List.mem_cons] at helement ⊢
      exact helement.imp (Or.imp_right ihinner) ihouter

end Outline

namespace Hierarchy

/-- The declared parent is given by itself, not by a name. -/
def Declaration.ByIdentity {α : Type} (declaration : Declaration α) : Prop :=
  ∃ who, declaration.parent.endpoint = .identity who

variable {α : Type} {kind : ChildKind α} {placed placed' : List Element}

theorem AttachedTo.eq_of_byIdentity {declaration : Declaration α} {entry entry' : Identity × α}
    (h : AttachedTo kind placed declaration entry) (h' : AttachedTo kind placed' declaration entry')
    (hparent : declaration.ByIdentity) : entry = entry' := by
  obtain ⟨hchild, parent, -, hidentity, -, hrefers⟩ := h
  obtain ⟨hchild', parent', -, hidentity', -, hrefers'⟩ := h'
  obtain ⟨who, hwho⟩ := hparent
  have hsame : ∀ parent, Registry.refersTo declaration.parent parent = true →
      who = parent.identity := by
    intro parent hrefers
    rw [Registry.refersTo, hwho] at hrefers
    exact of_decide_eq_true hrefers
  refine Prod.ext ?_ (hchild.trans hchild'.symm)
  rw [← hidentity, ← hidentity', ← hsame parent hrefers, ← hsame parent' hrefers']

/-- What was attached stays attached as declarations are added. -/
theorem exists_attached_append {declarations more : List (Declaration α)}
    {attached attached' : List (Identity × α)}
    (h : List.Forall₂ (AttachedTo kind placed) declarations attached)
    (h' : List.Forall₂ (AttachedTo kind placed') (declarations ++ more) attached')
    (hparents : ∀ declaration ∈ declarations, declaration.ByIdentity) :
    ∃ added, attached' = attached ++ added := by
  induction h generalizing attached' with
  | nil => exact ⟨attached', rfl⟩
  | cons hentry _ ih =>
      obtain ⟨hparent, hrest⟩ := List.forall_mem_cons.mp hparents
      cases h' with
      | cons hentry' hothers' =>
          obtain ⟨added, rfl⟩ := ih hothers' hrest
          exact ⟨added, by rw [hentry.eq_of_byIdentity hentry' hparent, List.cons_append]⟩

theorem childrenOf_append (first second : List (Identity × α)) (parent : Identity) :
    childrenOf (first ++ second) parent = childrenOf first parent ++ childrenOf second parent :=
  List.filterMap_append

end Hierarchy

namespace Workspace

/-- The workspace with further systems and declarations behind its own. -/
def extended (w : Workspace) (systems : List SoftwareSystem)
    (containers : List (Declaration Container)) (components : List (Declaration Component)) :
    Workspace :=
  { w with
    systems := w.systems ++ systems
    containerDeclarations := w.containerDeclarations ++ containers
    componentDeclarations := w.componentDeclarations ++ components }

/-- No declared parent is given by a name. -/
structure ParentsByIdentity (w : Workspace) : Prop where
  containers : ∀ declaration ∈ w.containerDeclarations, declaration.ByIdentity
  components : ∀ declaration ∈ w.componentDeclarations, declaration.ByIdentity

variable {w : Workspace} {attachments attachments' : Attachments} {systems : List SoftwareSystem}
  {containers : List (Declaration Container)} {components : List (Declaration Component)}

theorem grows_ofContainer (attachments : Attachments) (more : List (Identity × Container))
    (added : List (Identity × Component)) (container : Container) :
    (Outline.ofContainer attachments container).value =
        (Outline.ofContainer ⟨more, attachments.components ++ added⟩ container).value ∧
      Tree.Grows (Outline.ofContainer attachments container).children
        (Outline.ofContainer ⟨more, attachments.components ++ added⟩ container).children := by
  refine ⟨rfl, ?_⟩
  have hchildren : (⟨more, attachments.components ++ added⟩ : Attachments).componentsOf container =
      attachments.componentsOf container ++ childrenOf added container.identity := by
    rw [Attachments.componentsOf, childrenOf_append, ← List.append_assoc]
    rfl
  simp only [Outline.ofContainer, Tree.children, hchildren, List.map_append]
  have hleaf : ∀ component ∈ attachments.componentsOf container,
      (Outline.ofComponent component).value = (Outline.ofComponent component).value ∧
        Tree.Grows (Outline.ofComponent component).children
          (Outline.ofComponent component).children :=
    fun _ _ => ⟨rfl, .more []⟩
  exact Tree.Grows.map hleaf _

theorem grows_ofSystem (attachments : Attachments) (more : List (Identity × Container))
    (added : List (Identity × Component)) (system : SoftwareSystem) :
    (Outline.ofSystem attachments system).value = (Outline.ofSystem
        ⟨attachments.containers ++ more, attachments.components ++ added⟩ system).value ∧
      Tree.Grows (Outline.ofSystem attachments system).children (Outline.ofSystem
        ⟨attachments.containers ++ more, attachments.components ++ added⟩ system).children := by
  refine ⟨rfl, ?_⟩
  have hchildren : (⟨attachments.containers ++ more, attachments.components ++ added⟩ :
      Attachments).containersOf system =
      attachments.containersOf system ++ childrenOf more system.identity := by
    rw [Attachments.containersOf, childrenOf_append, ← List.append_assoc]
    rfl
  simp only [Outline.ofSystem, Tree.children, hchildren, List.map_append]
  exact Tree.Grows.map (fun container _ => grows_ofContainer attachments _ added container) _

theorem AttachesAs.grows (h : w.AttachesAs attachments)
    (h' : (w.extended systems containers components).AttachesAs attachments')
    (hparents : w.ParentsByIdentity) :
    Tree.Grows (Outline.ofWorkspace w attachments)
      (Outline.ofWorkspace (w.extended systems containers components) attachments') := by
  obtain ⟨more, hmore⟩ := exists_attached_append h.containers h'.containers hparents.containers
  obtain ⟨added, hadded⟩ := exists_attached_append h.components h'.components hparents.components
  obtain ⟨containers', components'⟩ := attachments'
  obtain rfl : containers' = attachments.containers ++ more := hmore
  obtain rfl : components' = attachments.components ++ added := hadded
  have hleaf : ∀ person ∈ w.people, (Outline.ofPerson person).value = (Outline.ofPerson person).value ∧
      Tree.Grows (Outline.ofPerson person).children (Outline.ofPerson person).children :=
    fun _ _ => ⟨rfl, .more []⟩
  rw [Outline.ofWorkspace, Outline.ofWorkspace, extended, List.map_append]
  exact Tree.Grows.map_append hleaf
    (Tree.Grows.map (fun system _ => grows_ofSystem attachments more added system) _)

/-- Every element keeps its path as the workspace grows. -/
theorem AttachesAs.path?_extended (h : w.AttachesAs attachments)
    (h' : (w.extended systems containers components).AttachesAs attachments')
    (hmode : w.settings.identifierScope = .hierarchical) (hparents : w.ParentsByIdentity)
    {element : Element} (helement : element ∈ w.placed) :
    ∃ path, (Outline.pathMap (w.named attachments)).path? element.identity = some path ∧
      (Outline.pathMap ((w.extended systems containers components).named attachments')).path?
        element.identity = some path := by
  have hidentity : element.identity ∈ (Outline.elementsOf (w.named attachments)).map (·.identity) := by
    rw [identities_named]
    exact (h.walked_perm_placed.map _).mem_iff.mpr (List.mem_map_of_mem helement)
  obtain ⟨named, hnamed, hsame⟩ := List.mem_map.mp hidentity
  have hnamed' : named ∈
      Outline.elementsOf ((w.extended systems containers components).named attachments') := by
    rw [Workspace.named, hmode] at hnamed
    have hmode' : (w.extended systems containers components).settings.identifierScope =
        .hierarchical := hmode
    rw [Workspace.named, hmode']
    exact Outline.mem_nameForest_of_grows (h.grows h' hparents) hnamed
  rw [← hsame]
  exact ⟨named.path, h.path?_named hnamed, h'.path?_named hnamed'⟩

end Workspace

end C4Model
