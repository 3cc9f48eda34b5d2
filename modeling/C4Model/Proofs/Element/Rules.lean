import C4Model.Element.Call
import C4Model.Proofs.Outcome

/-! The rules on the fields of what a factory makes, in the order in which they are checked. Checking the
fields of a call is checking these rules one by one: the call is refused with the first that is broken. -/

namespace C4Model.Factory

open FieldRule Outcome

/-- A rule on the value of a field. -/
inductive Rule where
  | notBlank (field value : String)
  | atMost (field value : String) (limit : Nat)

namespace Rule

def IsBroken : Rule → Prop
  | .notBlank _ value => Text.isBlankText value = true
  | .atMost _ value limit => limit < value.length

instance (rule : Rule) : Decidable rule.IsBroken :=
  match rule with
  | .notBlank _ value => inferInstanceAs (Decidable (Text.isBlankText value = true))
  | .atMost _ value limit => inferInstanceAs (Decidable (limit < value.length))

/-- What is told about a broken rule. -/
def error (record : RecordKind) : Rule → FieldError
  | .notBlank field _ => ⟨record, field, .notEmpty⟩
  | .atMost field value limit => ⟨record, field, .atMost limit value.length⟩

def check (record : RecordKind) (rule : Rule) : Except FieldError Unit :=
  if rule.IsBroken then .error (rule.error record) else .ok ()

def ofTexts (name description : String) : List Rule :=
  [.notBlank "name" name, .atMost "name" name nameLimit, .notBlank "description" description,
    .atMost "description" description descriptionLimit]

def ofOptional (field : String) (limit : Nat) (value : Option String) : List Rule :=
  value.toList.map (.atMost field · limit)

/-- Every text of a list is a field of its own, named by its place. -/
def ofEach (field : String) (limit : Nat) (values : List String) : List Rule :=
  values.zipIdx.map fun (value, index) => .atMost (field ++ "[" ++ toString index ++ "]") value limit

/-- A written end of a relationship has to be there; there is no rule on an element. -/
def ofEnd (field : String) : Reference → List Rule
  | .raw text => [.notBlank field text]
  | .identity _ => []
  | .element _ => []

theorem check_eq_error_iff {record : RecordKind} {rule : Rule} {error : FieldError} :
    rule.check record = .error error ↔ rule.IsBroken ∧ rule.error record = error := by
  rw [check]
  split <;> simp [*]

theorem check_eq_ok_iff {record : RecordKind} {rule : Rule} :
    rule.check record = .ok () ↔ ¬rule.IsBroken := by
  rw [check]
  split <;> simp [*]

end Rule

/-- The rule is the first of the list that is broken. -/
def FirstBroken (rules : List Rule) (rule : Rule) : Prop :=
  ∃ front back, rules = front ++ rule :: back ∧ (∀ other ∈ front, ¬other.IsBroken) ∧ rule.IsBroken

theorem FirstBroken.exists_mem {rules : List Rule} {rule : Rule} (h : FirstBroken rules rule) :
    ∃ other ∈ rules, other.IsBroken := by
  obtain ⟨front, back, rfl, -, hbroken⟩ := h
  exact ⟨rule, List.mem_append_right front List.mem_cons_self, hbroken⟩

namespace Call

/-- What is being made, as messages name it. -/
def record : Call → RecordKind
  | .person _ => .element .person
  | .softwareSystem _ => .element .softwareSystem
  | .container _ => .element .container
  | .component _ => .element .component
  | .code _ => .element .code
  | .relationship .. => .relationship

/-- The rules on the fields of a call, in the order in which they are checked. -/
def rules : Call → List Rule
  | .person draft =>
      Rule.ofTexts draft.name draft.description ++
        Rule.ofOptional "technology" technologyLimit draft.technology
  | .softwareSystem draft => Rule.ofTexts draft.name draft.description
  | .container draft =>
      Rule.ofTexts draft.name draft.description ++
        (Rule.ofOptional "technology" technologyLimit draft.technology ++
          Rule.ofOptional "type_label" technologyLimit draft.typeLabel)
  | .component draft =>
      Rule.ofTexts draft.name draft.description ++
        (Rule.ofOptional "technology" technologyLimit draft.technology ++
          Rule.ofEach "responsibilities" responsibilityLimit draft.responsibilities)
  | .code draft =>
      Rule.ofTexts draft.name draft.description ++
        (Rule.ofOptional "language" languageLimit draft.language ++
          Rule.ofOptional "file_path" filePathLimit draft.filePath)
  | .relationship source target description technology _ =>
      [.notBlank "description" description] ++
        (Rule.ofOptional "technology" technologyLimit technology ++
          (Rule.ofEnd "source" source ++ Rule.ofEnd "target" target))

/-- Checks the rules of a call one by one. -/
def checked (call : Call) : Except FieldError Unit :=
  call.rules.forM (Rule.check call.record)

theorem checked_eq_error_iff {call : Call} {error : FieldError} :
    call.checked = .error error ↔
      ∃ rule, FirstBroken call.rules rule ∧ rule.error call.record = error := by
  simp only [checked, forM_eq_error_iff, Rule.check_eq_ok_iff, Rule.check_eq_error_iff, FirstBroken]
  constructor
  · rintro ⟨front, rule, back, hrules, hfront, hbroken, herror⟩
    exact ⟨rule, ⟨front, back, hrules, hfront, hbroken⟩, herror⟩
  · rintro ⟨rule, ⟨front, back, hrules, hfront, hbroken⟩, herror⟩
    exact ⟨front, rule, back, hrules, hfront, hbroken, herror⟩

theorem checked_eq_ok_iff {call : Call} :
    call.checked = .ok () ↔ ∀ rule ∈ call.rules, ¬rule.IsBroken := by
  simp only [checked, forM_eq_ok_iff, Rule.check_eq_ok_iff]

end Call

section Checks

variable (record : RecordKind)

theorem forM_check_append (first second : List Rule) :
    (first ++ second).forM (Rule.check record) =
      first.forM (Rule.check record) >>= fun _ => second.forM (Rule.check record) :=
  List.forM_append

theorem forM_check_singleton (rule : Rule) : [rule].forM (Rule.check record) = rule.check record :=
  bind_pure_unit

theorem checkNotBlank_eq (field value : String) :
    checkNotBlank record field value = (Rule.notBlank field value).check record := rfl

theorem checkLength_eq (field value : String) (limit : Nat) :
    checkLength record field value limit = (Rule.atMost field value limit).check record := rfl

theorem checkTexts_eq (name description : String) :
    checkTexts record name description = (Rule.ofTexts name description).forM (Rule.check record) := by
  have hlast := forM_check_singleton record (.atMost "description" description descriptionLimit)
  rw [checkTexts, checkLength_eq record "description", ← hlast]
  rfl

theorem checkOptionalLength_eq (field : String) (value : Option String) (limit : Nat) :
    checkOptionalLength record field value limit =
      (Rule.ofOptional field limit value).forM (Rule.check record) := by
  cases value with
  | none => rfl
  | some value => exact (forM_check_singleton record (.atMost field value limit)).symm

theorem checkEachLength_eq (field : String) (limit : Nat) (values : List String) (index : Nat) :
    checkEachLength record field limit index values =
      ((values.zipIdx index).map fun (value, index) =>
        Rule.atMost (field ++ "[" ++ toString index ++ "]") value limit).forM (Rule.check record) := by
  induction values generalizing index with
  | nil => rfl
  | cons value rest ih =>
      rw [checkEachLength, ih]
      rfl

theorem checkEnd_eq (field : String) (reference : Reference) :
    reference.endpoint.check field = (Rule.ofEnd field reference).forM (Rule.check .relationship) := by
  cases reference with
  | raw text => exact (forM_check_singleton .relationship (.notBlank field text)).symm
  | identity who => rfl
  | element element => rfl

end Checks

/-- What the factory itself checks for a call. -/
def Call.check : Call → Except FieldError Unit
  | .person draft => draft.check
  | .softwareSystem draft => draft.check
  | .container draft => draft.check
  | .component draft => draft.check
  | .code draft => draft.check
  | .relationship source target description technology interaction =>
      (Relationship.make source target description technology interaction).map fun _ => ()

theorem relationship_make_eq (source target : Reference) (description : String)
    (technology : Option String) (interaction : InteractionStyle) :
    Relationship.make source target description technology interaction =
      (Call.relationship source target description technology interaction).checked.map fun _ =>
        { source := source.endpoint
          target := target.endpoint
          description
          technology := optionalText technology
          interaction } := by
  rw [Relationship.make, checkNotBlank_eq, checkOptionalLength_eq, checkEnd_eq, checkEnd_eq,
    Call.checked, Call.rules, Call.record, forM_check_append, forM_check_append, forM_check_append,
    forM_check_singleton]
  -- both sides check the same rules in the same order, and differ in how the steps are nested
  change _ = (fun _ => _) <$> _
  simp only [bind_assoc, map_eq_pure_bind]

/-- The factory checks the rules of a call, and checks them in order. -/
theorem Call.check_eq_checked (call : Call) : call.check = call.checked := by
  cases call with
  | person draft =>
      rw [check, Person.Draft.check, checkTexts_eq, checkOptionalLength_eq, ← forM_check_append]
      rfl
  | softwareSystem draft => exact checkTexts_eq _ _ _
  | container draft =>
      rw [check, Container.Draft.check, checkTexts_eq, checkOptionalLength_eq, checkOptionalLength_eq,
        ← forM_check_append, ← forM_check_append]
      rfl
  | component draft =>
      rw [check, Component.Draft.check, checkTexts_eq, checkOptionalLength_eq, checkEachLength_eq,
        ← forM_check_append, ← forM_check_append]
      rfl
  | code draft =>
      rw [check, CodeElement.Draft.check, checkTexts_eq, checkOptionalLength_eq, checkOptionalLength_eq,
        ← forM_check_append, ← forM_check_append]
      rfl
  | relationship source target description technology interaction =>
      rw [check, relationship_make_eq]
      cases (Call.relationship source target description technology interaction).checked <;> rfl

end C4Model.Factory
