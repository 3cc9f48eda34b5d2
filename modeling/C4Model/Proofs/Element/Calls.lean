import C4Model.Proofs.Element.Rules
import Mathlib.Data.List.DropRight

/-! What a factory makes after any calls and resets. A call whose fields break a rule is refused with the
first such rule, and leaves the allocator alone. Any other call makes what it was given. The number of an
element is the start of the numbering and the number of elements made since it was last reset; refused calls
and relationships are not counted. -/

namespace C4Model

open FieldRule

/-- What is kept of an optional text: a blank one is not. -/
def Kept (given kept : Option String) : Prop :=
  ∀ text, kept = some text ↔ given = some text ∧ Text.isBlankText text = false

theorem kept_optionalText (given : Option String) : Kept given (optionalText given) := by
  intro text
  rw [optionalText, Option.filter_eq_some_iff, Bool.not_eq_true']

structure Person.Carries (person : Person) (draft : Person.Draft) : Prop where
  name : person.name = draft.name
  description : person.description = draft.description
  technology : Kept draft.technology person.technology
  location : person.location = draft.location

structure SoftwareSystem.Carries (system : SoftwareSystem) (draft : SoftwareSystem.Draft) : Prop where
  name : system.name = draft.name
  description : system.description = draft.description
  containers : system.containers = draft.containers
  location : system.location = draft.location

structure Container.Carries (container : Container) (draft : Container.Draft) : Prop where
  name : container.name = draft.name
  description : container.description = draft.description
  containerType : container.containerType = draft.containerType
  typeLabel : Kept draft.typeLabel container.typeLabel
  technology : Kept draft.technology container.technology
  components : container.components = draft.components
  location : container.location = draft.location

structure Component.Carries (component : Component) (draft : Component.Draft) : Prop where
  name : component.name = draft.name
  description : component.description = draft.description
  technology : Kept draft.technology component.technology
  responsibilities : component.responsibilities = draft.responsibilities
  codeElements : component.codeElements = draft.codeElements
  location : component.location = draft.location

structure CodeElement.Carries (code : CodeElement) (draft : CodeElement.Draft) : Prop where
  name : code.name = draft.name
  description : code.description = draft.description
  codeType : code.codeType = draft.codeType
  language : Kept draft.language code.language
  filePath : Kept draft.filePath code.filePath
  location : code.location = draft.location

structure Relationship.Carries (relationship : Relationship) (source target : Reference)
    (description : String) (technology : Option String) (interaction : InteractionStyle) : Prop where
  source : relationship.source = source.endpoint
  target : relationship.target = target.endpoint
  description : relationship.description = description
  technology : Kept technology relationship.technology
  interaction : relationship.interaction = interaction

namespace Factory

open Outcome

/-- What is made is what was asked for, with the fields that were given. -/
def Made.Carries : Made → Call → Prop
  | .element (.person person), .person draft => person.Carries draft
  | .element (.softwareSystem system), .softwareSystem draft => system.Carries draft
  | .element (.container container), .container draft => container.Carries draft
  | .element (.component component), .component draft => component.Carries draft
  | .element (.code code), .code draft => code.Carries draft
  | .relationship made, .relationship source target description technology interaction =>
      made.Carries source target description technology interaction
  | _, _ => False

namespace Call

/-- The kind and the name of the element that is asked for; a relationship has neither. -/
def subject? : Call → Option (ElementKind × String)
  | .person draft => some (.person, draft.name)
  | .softwareSystem draft => some (.softwareSystem, draft.name)
  | .container draft => some (.container, draft.name)
  | .component draft => some (.component, draft.name)
  | .code draft => some (.code, draft.name)
  | .relationship .. => none

/-- What a call comes to if its fields are fine. -/
inductive Makes (allocator : Allocator) (call : Call) : Made × Allocator → Prop where
  | element {kind : ElementKind} {name : String} {element : Element}
      (subject : call.subject? = some (kind, name)) (carries : (Made.element element).Carries call)
      (identity : element.identity = (allocator.mint kind name).1) :
      Makes allocator call (.element element, (allocator.mint kind name).2)
  | relationship {relationship : Relationship} (subject : call.subject? = none)
      (carries : (Made.relationship relationship).Carries call) :
      Makes allocator call (.relationship relationship, allocator)

end Call

variable {allocator : Allocator} {call : Call}

theorem run_makeElement (check : Except FieldError Unit) (kind : ElementKind) (name : String)
    (identified : Identity → Element) (allocator : Allocator) :
    (makeElement check kind name identified).run.run allocator =
      match check with
      | .error error => (.error error, allocator)
      | .ok () =>
          (.ok (.element (identified (allocator.mint kind name).1)), (allocator.mint kind name).2) := by
  cases check <;> rfl

theorem outcome_relationship (source target : Reference) (description : String)
    (technology : Option String) (interaction : InteractionStyle) (allocator : Allocator) :
    outcome allocator (.relationship source target description technology interaction) =
      ((Relationship.make source target description technology interaction).map .relationship,
        allocator) := by
  rw [outcome, make]
  cases Relationship.make source target description technology interaction <;> rfl

/-- A call with a field that is not fine fails with what the check tells, and changes nothing. -/
theorem outcome_of_error {error : FieldError} (h : call.check = .error error) :
    outcome allocator call = (.error error, allocator) := by
  cases call with
  | relationship source target description technology interaction =>
      rw [outcome_relationship, map_eq_error_iff.mp h]
      rfl
  | _ draft =>
      rw [outcome, make, run_makeElement, show draft.check = .error error from h]

theorem exists_makes_of_makeElement {kind : ElementKind} {name : String}
    {identified : Identity → Element} (hsubject : call.subject? = some (kind, name))
    (hmake : make call = makeElement call.check kind name identified)
    (hcarries : ∀ identity, (Made.element (identified identity)).Carries call)
    (hidentity : ∀ identity, (identified identity).identity = identity) (h : call.check = .ok ()) :
    ∃ made after, outcome allocator call = (.ok made, after) ∧ call.Makes allocator (made, after) := by
  refine ⟨_, _, ?_, .element hsubject (hcarries _) (hidentity _)⟩
  rw [outcome, hmake, run_makeElement, h]

/-- A call with fields that are fine makes what it asks for. -/
theorem exists_makes_of_ok (allocator : Allocator) (h : call.check = .ok ()) :
    ∃ made after, outcome allocator call = (.ok made, after) ∧ call.Makes allocator (made, after) := by
  cases call with
  | person draft =>
      have hcarries (identity : Identity) : (draft.identified identity).Carries draft :=
        ⟨rfl, rfl, kept_optionalText _, rfl⟩
      exact exists_makes_of_makeElement rfl rfl hcarries (fun _ => rfl) h
  | softwareSystem draft =>
      have hcarries (identity : Identity) : (draft.identified identity).Carries draft :=
        ⟨rfl, rfl, rfl, rfl⟩
      exact exists_makes_of_makeElement rfl rfl hcarries (fun _ => rfl) h
  | container draft =>
      have hcarries (identity : Identity) : (draft.identified identity).Carries draft :=
        ⟨rfl, rfl, rfl, kept_optionalText _, kept_optionalText _, rfl, rfl⟩
      exact exists_makes_of_makeElement rfl rfl hcarries (fun _ => rfl) h
  | component draft =>
      have hcarries (identity : Identity) : (draft.identified identity).Carries draft :=
        ⟨rfl, rfl, kept_optionalText _, rfl, rfl, rfl⟩
      exact exists_makes_of_makeElement rfl rfl hcarries (fun _ => rfl) h
  | code draft =>
      have hcarries (identity : Identity) : (draft.identified identity).Carries draft :=
        ⟨rfl, rfl, rfl, kept_optionalText _, kept_optionalText _, rfl⟩
      exact exists_makes_of_makeElement rfl rfl hcarries (fun _ => rfl) h
  | relationship source target description technology interaction =>
      obtain ⟨relationship, hmade, -⟩ := map_eq_ok_iff.mp h
      have hsame := hmade
      rw [relationship_make_eq] at hsame
      obtain ⟨-, -, rfl⟩ := map_eq_ok_iff.mp hsame
      refine ⟨_, _, by rw [outcome_relationship, hmade]; rfl, .relationship rfl ?_⟩
      exact ⟨rfl, rfl, rfl, kept_optionalText _, rfl⟩

/-- A call is refused, and then changes nothing, or makes what it asks for. -/
theorem outcome_cases (allocator : Allocator) (call : Call) :
    (∃ rule, FirstBroken call.rules rule ∧
        outcome allocator call = (.error (rule.error call.record), allocator)) ∨
      (∀ rule ∈ call.rules, ¬rule.IsBroken) ∧
        ∃ made after, outcome allocator call = (.ok made, after) ∧
          call.Makes allocator (made, after) := by
  cases hchecked : call.checked with
  | error error =>
      obtain ⟨rule, hrule, rfl⟩ := Call.checked_eq_error_iff.mp hchecked
      exact .inl ⟨rule, hrule, outcome_of_error (call.check_eq_checked.trans hchecked)⟩
  | ok _ =>
      exact .inr ⟨Call.checked_eq_ok_iff.mp hchecked,
        exists_makes_of_ok allocator (call.check_eq_checked.trans hchecked)⟩

/-- A call whose allocator is kept only if it does not fail. -/
def Call.attempt (allocator : Allocator) : Call → Except FieldError (Made × Allocator)
  | .person draft => (Person.make draft allocator).map (Prod.map (.element ∘ .person) id)
  | .softwareSystem draft =>
      (SoftwareSystem.make draft allocator).map (Prod.map (.element ∘ .softwareSystem) id)
  | .container draft => (Container.make draft allocator).map (Prod.map (.element ∘ .container) id)
  | .component draft => (Component.make draft allocator).map (Prod.map (.element ∘ .component) id)
  | .code draft => (CodeElement.make draft allocator).map (Prod.map (.element ∘ .code) id)
  | .relationship source target description technology interaction =>
      (Relationship.make source target description technology interaction).map
        fun relationship => (.relationship relationship, allocator)

/-- Failing calls lose no change of the allocator: there is none. -/
theorem attempt_eq (allocator : Allocator) (call : Call) :
    call.attempt allocator =
      (outcome allocator call).1.map fun made => (made, (outcome allocator call).2) := by
  cases call with
  | relationship source target description technology interaction =>
      rw [outcome_relationship, Call.attempt]
      cases Relationship.make source target description technology interaction <;> rfl
  | person draft =>
      rw [outcome, make, run_makeElement, Call.attempt, Person.make]
      cases draft.check <;> rfl
  | softwareSystem draft =>
      rw [outcome, make, run_makeElement, Call.attempt, SoftwareSystem.make]
      cases draft.check <;> rfl
  | container draft =>
      rw [outcome, make, run_makeElement, Call.attempt, Container.make]
      cases draft.check <;> rfl
  | component draft =>
      rw [outcome, make, run_makeElement, Call.attempt, Component.make]
      cases draft.check <;> rfl
  | code draft =>
      rw [outcome, make, run_makeElement, Call.attempt, CodeElement.make]
      cases draft.check <;> rfl

/-- The start that an event sets. -/
def Event.newStart? : Event → Option Int
  | .call _ => none
  | .reset start => start

def Event.isReset : Event → Bool
  | .call _ => false
  | .reset _ => true

/-- An element is asked for, with fields that break no rule. -/
def Event.MakesElement : Event → Prop
  | .call call => call.subject?.isSome ∧ ∀ rule ∈ call.rules, ¬rule.IsBroken
  | .reset _ => False

instance (event : Event) : Decidable event.MakesElement :=
  match event with
  | .call call =>
      inferInstanceAs (Decidable (call.subject?.isSome ∧ ∀ rule ∈ call.rules, ¬rule.IsBroken))
  | .reset _ => inferInstanceAs (Decidable False)

/-- The start of the numbering after a history: the one set last, or else the first. -/
def currentStart (start : Int) (history : List Event) : Int :=
  (history.filterMap Event.newStart?).getLastD start

/-- The number of elements made since the numbering was last reset. -/
def madeSinceReset (history : List Event) : Nat :=
  (history.rtakeWhile fun event => !event.isReset).countP (·.MakesElement)

theorem currentStart_concat (start : Int) (history : List Event) (event : Event) :
    currentStart start (history ++ [event]) =
      event.newStart?.getD (currentStart start history) := by
  rw [currentStart, currentStart, List.filterMap_append]
  cases hnew : event.newStart? <;> simp [List.filterMap, hnew]

theorem madeSinceReset_concat_call (history : List Event) (call : Call) :
    madeSinceReset (history ++ [.call call]) =
      madeSinceReset history + if (Event.call call).MakesElement then 1 else 0 := by
  rw [madeSinceReset, List.rtakeWhile_concat_pos _ _ _ rfl, List.countP_append, List.countP_singleton,
    madeSinceReset]
  simp only [decide_eq_true_eq]

theorem madeSinceReset_concat_reset (history : List Event) (start : Option Int) :
    madeSinceReset (history ++ [.reset start]) = 0 := by
  rw [madeSinceReset, List.rtakeWhile_concat_neg _ _ _ (by simp [Event.isReset]), List.countP_nil]

/-- The allocator has counted what was made. -/
structure Counts (start : Int) (history : List Event) (allocator : Allocator) : Prop where
  start_eq : allocator.start = currentStart start history
  next_eq : allocator.next = currentStart start history + madeSinceReset history

theorem Counts.of_call {start : Int} {history : List Event} (h : Counts start history allocator)
    (call : Call) : Counts start (history ++ [.call call]) (outcome allocator call).2 := by
  have hstart : currentStart start (history ++ [.call call]) = currentStart start history :=
    currentStart_concat start history (.call call)
  have hcount := madeSinceReset_concat_call history call
  rcases outcome_cases allocator call with
    ⟨rule, hfirst, houtcome⟩ | ⟨hfine, made, last, houtcome, hmakes⟩
  · obtain ⟨rule, hmember, hbroken⟩ := hfirst.exists_mem
    rw [if_neg fun hmakes => hmakes.2 rule hmember hbroken] at hcount
    rw [houtcome]
    exact ⟨h.start_eq.trans hstart.symm, by rw [hstart, hcount]; exact h.next_eq⟩
  · rw [houtcome]
    cases hmakes with
    | element hsubject =>
        rw [if_pos ⟨Option.isSome_of_eq_some hsubject, hfine⟩] at hcount
        refine ⟨h.start_eq.trans hstart.symm, ?_⟩
        have hnext := h.next_eq
        rw [hstart, hcount]
        change allocator.next + 1 = _
        omega
    | relationship hsubject =>
        have hnone : ¬call.subject?.isSome := by simp [hsubject]
        rw [if_neg fun hmakes => hnone hmakes.1] at hcount
        exact ⟨h.start_eq.trans hstart.symm, by rw [hstart, hcount]; exact h.next_eq⟩

theorem Counts.of_reset {start : Int} {history : List Event} (h : Counts start history allocator)
    (newStart : Option Int) :
    Counts start (history ++ [.reset newStart]) (allocator.reset newStart) := by
  have hstart := currentStart_concat start history (.reset newStart)
  have hsame : newStart.getD allocator.start = currentStart start (history ++ [.reset newStart]) := by
    rw [hstart, h.start_eq]
    rfl
  refine ⟨hsame, ?_⟩
  rw [madeSinceReset_concat_reset]
  exact hsame.trans (Int.add_zero _).symm

/-- Whatever happens, the allocator counts. -/
theorem counts_after (start : Int) (before : Allocator) (history : List Event) :
    Counts start history (after (.startingAt start before) history) := by
  induction history using List.reverseRecOn with
  | nil => exact ⟨rfl, (Int.add_zero start).symm⟩
  | append_singleton history event ih =>
      rw [after, List.foldl_append]
      cases event with
      | call call => exact ih.of_call call
      | reset newStart => exact ih.of_reset newStart

/-- Whatever a factory has made or refused, and however its numbering was reset: a call is refused if a rule
on its fields is broken, and only then. The first broken rule is told, and the allocator stays as it is. A
call that is not refused makes what was given to it, under the next number since the reset; and a
relationship takes no number. -/
theorem outcome_after_history (start : Int) (before : Allocator) (history : List Event) (call : Call) :
    let allocator := after (.startingAt start before) history
    ((∃ error, (outcome allocator call).1 = .error error) ↔ ∃ rule ∈ call.rules, rule.IsBroken) ∧
      (∀ error, (outcome allocator call).1 = .error error →
        (∃ rule, FirstBroken call.rules rule ∧ error = rule.error call.record) ∧
          (outcome allocator call).2 = allocator) ∧
      ((∀ rule ∈ call.rules, ¬rule.IsBroken) →
        ∃ made, (outcome allocator call).1 = .ok made ∧ made.Carries call ∧
          ∀ element, made = .element element →
            ∃ kind name, call.subject? = some (kind, name) ∧ element.identity =
              ⟨allocator.issuedEver, kind, currentStart start history + madeSinceReset history, name⟩) ∧
      (call.subject? = none → (outcome allocator call).2 = allocator) := by
  intro allocator
  have hcounts : Counts start history allocator := counts_after start before history
  rcases outcome_cases allocator call with
    ⟨rule, hfirst, houtcome⟩ | ⟨hfine, made, last, houtcome, hmakes⟩ <;> rw [houtcome]
  · obtain ⟨other, hmember, hbroken⟩ := hfirst.exists_mem
    refine ⟨iff_of_true ⟨_, rfl⟩ ⟨other, hmember, hbroken⟩, fun error herror => ?_,
      fun hfine => absurd hbroken (hfine other hmember), fun _ => rfl⟩
    obtain rfl := Except.error.inj herror
    exact ⟨⟨rule, hfirst, rfl⟩, rfl⟩
  · have hnone : ¬∃ rule ∈ call.rules, rule.IsBroken := fun ⟨rule, hmember, hbroken⟩ =>
      hfine rule hmember hbroken
    refine ⟨iff_of_false (fun ⟨_, herror⟩ => nomatch herror) hnone, nofun,
      fun _ => ⟨made, rfl, ?_⟩, fun hsubject => ?_⟩
    · cases hmakes with
      | relationship hsubject hcarries => exact ⟨hcarries, fun element hmade => nomatch hmade⟩
      | @element kind name element hsubject hcarries hidentity =>
          refine ⟨hcarries, ?_⟩
          rintro _ ⟨⟩
          refine ⟨kind, name, hsubject, hidentity.trans ?_⟩
          rw [Allocator.mint, hcounts.next_eq]
    · cases hmakes with
      | relationship => rfl
      | element hother => cases hsubject.symm.trans hother

/-- A person, a container without a name, a new start, a system, and a relationship to nowhere. -/
def mixedHistory : List Event :=
  [.call (.person ⟨"Ann", "Buys", .internal, none⟩),
    .call (.container ⟨" ", "Sells", .api, none, none, .internal, []⟩), .reset (some 10),
    .call (.softwareSystem ⟨"Shop", "Sells", .internal, []⟩),
    .call (.relationship (.raw "ann") (.raw "") "Buys" none .synchronous)]

/-- The next person is the second element since the start at 10; the container is still refused. -/
theorem numbering_after_refusals :
    (∃ made, (outcome (after (.startingAt 1 {}) mixedHistory)
          (.person ⟨"Bob", "Buys", .internal, some " "⟩)).1 = .ok made ∧
        ∀ element, made = .element element → element.identity = ⟨2, .person, 11, "Bob"⟩) ∧
      (outcome (after (.startingAt 1 {}) mixedHistory)
          (.container ⟨" ", "Sells", .api, none, none, .internal, []⟩)).2 =
        after (.startingAt 1 {}) mixedHistory := by
  constructor
  · obtain ⟨-, -, hmakes, -⟩ := outcome_after_history 1 {} mixedHistory
      (.person ⟨"Bob", "Buys", .internal, some " "⟩)
    obtain ⟨made, hmade, -, hidentity⟩ := hmakes (by decide)
    refine ⟨made, hmade, fun element helement => ?_⟩
    obtain ⟨kind, name, hsubject, hidentity⟩ := hidentity element helement
    obtain ⟨rfl, rfl⟩ := Prod.mk.inj (Option.some.inj hsubject)
    exact hidentity.trans (by decide)
  · obtain ⟨hrefused, hunchanged, -⟩ := outcome_after_history 1 {} mixedHistory
      (.container ⟨" ", "Sells", .api, none, none, .internal, []⟩)
    obtain ⟨error, herror⟩ := hrefused.mpr (by decide)
    exact (hunchanged error herror).2

end Factory

end C4Model
