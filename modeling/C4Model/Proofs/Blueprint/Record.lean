import C4Model.Blueprint.Load
import C4Model.Proofs.Blueprint.Element

/-! Relationships, views, styles and declared children as their tables describe them. What they refer to is
bound among the elements that are known when they are read. -/

namespace C4Model.Blueprint

open Hierarchy Outcome FieldRule

variable {known : Known} {before after : Catalogue} {table : Table}

/-- The form of records that hold no elements. -/
def plainForm {α : Type} (described : Known → Table → α → Prop) : RecordForm α where
  described := described

section Plain

variable {α : Type} {described : Known → Table → α → Prop} {read : Table → Reading α}

/-- A reader that makes no element. -/
theorem plainForm_readBy
    (hread : ∀ known table, Makes known [] (described known table) (fun _ => []) (read table)) :
    (plainForm described).ReadBy read where
  length _ _ _ _ := rfl
  makes := hread

theorem plain_tablesUnder (table : Table) (key : String) :
    (plainForm described).tablesUnder table key = [] := by
  simp [RecordForm.tablesUnder, plainForm]

/-- What is known stays the same while such records are read. -/
theorem plain_each_ok (hread : (plainForm described).ReadBy read) (hknown : before.Holds known)
    {key holder : String} {values : List α}
    (h : (readEach table key holder read).run before = .ok (values, after)) :
    EachOf (described known) table key values ∧ after.Holds known := by
  obtain ⟨hrows, hafter⟩ := hread.each_ok hknown h
  refine ⟨⟨hrows.items, hrows.inTurn.forall₂ (· = known) ?_ rfl⟩, ?_⟩
  · rintro _ table value rfl hfirst
    exact ⟨hfirst, by simp [RecordForm.adds, plainForm]⟩
  · rwa [RecordForm.knownUnder, plain_tablesUnder, List.zip_nil_left, List.append_nil] at hafter

/-- Where no element is made, no key is found to be taken. -/
theorem plain_each_not_taken (hread : (plainForm described).ReadBy read) (hknown : before.Holds known)
    {key holder taken : String} :
    (readEach table key holder read).run before ≠ .error (.shape (.duplicateKey taken)) := by
  intro h
  have htaken := hread.each_taken hknown h
  rw [plain_tablesUnder, List.append_nil] at htaken
  exact htaken.not_nodup hknown.distinct

end Plain

structure RelationshipOf (known : Known) (table : Table) (relationship : Relationship) : Prop where
  source : ∃ ref, Bound known (valueAt table "source") ref ∧ relationship.source = ref.endpoint
  target : ∃ ref, Bound known (valueAt table "target") ref ∧ relationship.target = ref.endpoint
  description : relationship.description = textAt table "description"
  technology : relationship.technology = optionalText (table.string? "technology")
  interaction : ChoiceAt table "interaction" .synchronous relationship.interaction

/-- A view without a title has the name of its type as title. -/
structure ViewOf (known : Known) (table : Table) (view : View) : Prop where
  viewType : ∃ written, table.string? "type" = some written ∧
    Labelled.ofText? written = some view.viewType
  title : view.title =
    if (textAt table "title").isEmpty then view.viewType.keyword else textAt table "title"
  element : (valueAt table "element" = .null ∧ view.element = none) ∨
    ∃ ref, Bound known (valueAt table "element") ref ∧ view.element = some ref
  included : List.Forall₂ (Bound known) (table.items "include") view.included
  excluded : List.Forall₂ (Bound known) (table.items "exclude") view.excluded

def StyleValueOf : Value → Option StyleValue → Prop
  | .null, value => value = none
  | .string text, value => value = some (.text text)
  | .int n, value => value = some (.number n)
  | _, _ => False

structure ElementStyleOf (table : Table) (style : ElementStyle) : Prop where
  tag : style.tag = textAt table "tag"
  tagged : style.tag ≠ ""
  background : style.background = table.string? "background"
  color : style.color = table.string? "color"
  shape : style.shape = table.string? "shape"
  size : StyleValueOf (valueAt table "size") style.size
  stroke : style.stroke = table.string? "stroke"
  strokeWidth : StyleValueOf (valueAt table "stroke_width") style.strokeWidth

structure RelationshipStyleOf (table : Table) (style : RelationshipStyle) : Prop where
  tag : style.tag = if (textAt table "tag").isEmpty then everyRelationshipTag else textAt table "tag"
  thickness : StyleValueOf (valueAt table "thickness") style.thickness
  color : style.color = table.string? "color"
  router : style.router = table.string? "router"
  dashed : style.dashed = table.bool? "dashed"

theorem readRelationship_readBy : (plainForm RelationshipOf).ReadBy readRelationship := by
  refine plainForm_readBy fun known table => ?_
  refine .peek (peeks_chooseAt _ _ _ _) fun interaction hinteraction =>
    .peek (peeks_reference _ _ _) fun source hsource =>
    .peek (peeks_reference _ _ _) fun target htarget =>
    .peek (peeks_readText _ _) fun description hdescription =>
    .peek (peeks_readText? _ _) fun technology htechnology => ?_
  subst hdescription htechnology
  constructor
  case ok =>
    intro before relationship after hknown h
    rw [run_liftM, map_eq_ok_iff] at h
    obtain ⟨made, hmake, h⟩ := h
    obtain ⟨rfl, rfl⟩ := Prod.mk.inj h
    obtain ⟨_, -, hmake⟩ := bind_eq_ok_iff.mp (mapError_eq_ok_iff.mp hmake)
    obtain ⟨_, -, hmake⟩ := bind_eq_ok_iff.mp hmake
    obtain ⟨_, -, hmake⟩ := bind_eq_ok_iff.mp hmake
    obtain ⟨_, -, hmake⟩ := bind_eq_ok_iff.mp hmake
    obtain rfl := Except.ok.inj hmake
    refine ⟨⟨⟨source, hsource, rfl⟩, ⟨target, htarget, rfl⟩, rfl, rfl, hinteraction⟩, ?_⟩
    exact (List.append_nil known).symm ▸ hknown
  case taken => exact fun _ h => absurd h (Keyless.field _ _ _)

theorem peeks_scopeOf (known : Known) (table : Table) :
    Peeks (·.Holds known) (scopeOf table) fun scope =>
      (valueAt table "element" = .null ∧ scope = none) ∨
        ∃ ref, Bound known (valueAt table "element") ref ∧ scope = some ref := by
  rw [scopeOf]
  split
  case h_1 hnull => exact (Peeks.pure none).mono fun scope hscope => .inl ⟨hnull, hscope.symm⟩
  case h_2 =>
    exact (peeks_reference known _ _).map fun ref hbound => .inr ⟨ref, hbound, rfl⟩

theorem readView_readBy : (plainForm ViewOf).ReadBy readView := by
  refine plainForm_readBy fun known table => .peek (peeks_readText? _ _) fun type htype => ?_
  cases type with
  | none => exact .refuse nofun
  | some written =>
      refine .peek (peeks_choose _ _) fun viewType hviewType =>
        .peek (peeks_scopeOf _ _) fun scope hscope =>
        .peek (peeks_readText _ _) fun title htitle =>
        .peek (.mapM (peeks_reference _ _) _) fun included hincluded =>
        .peek (.mapM (peeks_reference _ _) _) fun excluded hexcluded => ?_
      subst htitle
      exact .pure ⟨⟨written, htype, hviewType⟩, rfl, hscope, hincluded, hexcluded⟩

theorem peeks_styleValueAt {fits : Catalogue → Prop} (table : Table) (key : String) :
    Peeks fits (styleValueAt table key) (StyleValueOf (valueAt table key)) := by
  rw [styleValueAt]
  cases valueAt table key with
  | null => exact (Peeks.pure none).mono fun _ => Eq.symm
  | string text => exact (Peeks.pure (some (StyleValue.text text))).mono fun _ => Eq.symm
  | int n => exact (Peeks.pure (some (StyleValue.number n))).mono fun _ => Eq.symm
  | _ => exact .refuse nofun

theorem readElementStyle_readBy : (plainForm fun _ => ElementStyleOf).ReadBy readElementStyle := by
  refine plainForm_readBy fun known table => .peek (peeks_readText _ _) fun tag htag => ?_
  split
  case isTrue => exact .refuse nofun
  case isFalse htagged =>
    refine .peek (peeks_readText? _ _) fun background hbackground =>
      .peek (peeks_readText? _ _) fun color hcolor =>
      .peek (peeks_readText? _ _) fun shape hshape =>
      .peek (peeks_styleValueAt _ _) fun size hsize =>
      .peek (peeks_readText? _ _) fun stroke hstroke =>
      .peek (peeks_styleValueAt _ _) fun strokeWidth hstrokeWidth => ?_
    exact .pure ⟨htag.symm, by simpa using htagged, hbackground.symm, hcolor.symm, hshape.symm, hsize,
      hstroke.symm, hstrokeWidth⟩

theorem readRelationshipStyle_readBy :
    (plainForm fun _ => RelationshipStyleOf).ReadBy readRelationshipStyle := by
  refine plainForm_readBy fun known table => .peek (peeks_readText _ _) fun tag htag =>
    .peek (peeks_styleValueAt _ _) fun thickness hthickness =>
    .peek (peeks_readText? _ _) fun color hcolor =>
    .peek (peeks_readText? _ _) fun router hrouter => ?_
  subst htag
  exact .pure ⟨rfl, hthickness, hcolor.symm, hrouter.symm, rfl⟩

/-- The form of a child with the reference to its parent, which has to be known before it. -/
def declaredForm {α : Type} (form : RecordForm α) : RecordForm (Declaration α) where
  described known table declaration :=
    Bound known (valueAt table "parent") declaration.parent ∧
      form.described known table declaration.child
  tables := form.tables
  made declaration := form.made declaration.child

theorem readDeclaration_readBy {α : Type} {form : RecordForm α} {read : Table → Reading α}
    (hread : form.ReadBy read) (field : String) :
    (declaredForm form).ReadBy (readDeclaration field read) where
  length := fun known table declaration h => hread.length known table declaration.child h.2
  makes known table := by
    refine .peek (peeks_reference _ _ _) fun parent hbound => ?_
    constructor
    case ok =>
      intro before declaration after hknown h
      obtain ⟨child, between, hchild, h⟩ := run_bind_eq_ok_iff.mp h
      obtain ⟨rfl, rfl⟩ := run_pure_eq_ok_iff.mp h
      obtain ⟨hdescribed, hafter⟩ := (hread.makes known table).ok hknown hchild
      exact ⟨⟨hbound, hdescribed⟩, hafter⟩
    case taken =>
      intro before key hknown h
      rcases run_bind_eq_error_iff.mp h with h | ⟨child, between, -, h⟩
      · exact (hread.makes known table).taken hknown h
      · cases h

end C4Model.Blueprint
