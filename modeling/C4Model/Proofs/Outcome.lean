import Mathlib.Data.List.Forall2

/-! When a computation that may fail gives a value, and when an error. A step after another gives a value
exactly if both do; it fails if either fails. -/

namespace C4Model.Outcome

variable {ε ε' α β : Type}

theorem pure_eq_ok_iff {given value : α} : (pure given : Except ε α) = .ok value ↔ given = value := by
  change Except.ok given = Except.ok value ↔ _
  rw [Except.ok.injEq]

theorem exists_eq_ok_of_isOk {outcome : Except ε α} (h : outcome.isOk = true) :
    ∃ value, outcome = .ok value := by
  cases outcome with
  | ok value => exact ⟨value, rfl⟩
  | error error => cases h

theorem toOption_eq_some_iff {outcome : Except ε α} {value : α} :
    outcome.toOption = some value ↔ outcome = .ok value := by
  cases outcome <;> simp [Except.toOption]

theorem bind_eq_ok_iff {first : Except ε α} {next : α → Except ε β} {value : β} :
    (first >>= next) = .ok value ↔ ∃ between, first = .ok between ∧ next between = .ok value := by
  cases first <;> simp [bind, Except.bind]

theorem bind_eq_error_iff {first : Except ε α} {next : α → Except ε β} {error : ε} :
    (first >>= next) = .error error ↔
      first = .error error ∨ ∃ between, first = .ok between ∧ next between = .error error := by
  cases first <;> simp [bind, Except.bind]

theorem map_eq_ok_iff {first : Except ε α} {f : α → β} {value : β} :
    first.map f = .ok value ↔ ∃ between, first = .ok between ∧ f between = value := by
  cases first <;> simp [Except.map]

theorem map_eq_error_iff {first : Except ε α} {f : α → β} {error : ε} :
    first.map f = .error error ↔ first = .error error := by
  cases first <;> simp [Except.map]

theorem mapError_eq_ok_iff {first : Except ε α} {f : ε → ε'} {value : α} :
    first.mapError f = .ok value ↔ first = .ok value := by
  cases first <;> simp [Except.mapError]

theorem mapError_eq_error_iff {first : Except ε α} {f : ε → ε'} {error : ε'} :
    first.mapError f = .error error ↔ ∃ cause, first = .error cause ∧ f cause = error := by
  cases first <;> simp [Except.mapError]

theorem mapM_eq_ok_iff {f : α → Except ε β} {list : List α} {values : List β} :
    list.mapM f = .ok values ↔ List.Forall₂ (fun item value => f item = .ok value) list values := by
  induction list generalizing values with
  | nil => cases values <;> simp [pure, Except.pure]
  | cons item rest ih =>
      rw [List.mapM_cons, bind_eq_ok_iff]
      constructor
      · rintro ⟨value, hvalue, h⟩
        obtain ⟨others, hothers, h⟩ := bind_eq_ok_iff.mp h
        obtain rfl := Except.ok.inj h
        exact .cons hvalue (ih.mp hothers)
      · intro h
        cases h with
        | cons hvalue hothers => exact ⟨_, hvalue, bind_eq_ok_iff.mpr ⟨_, ih.mpr hothers, rfl⟩⟩

theorem exists_mapM_eq_ok_iff {f : α → Except ε β} {list : List α} :
    (∃ values, list.mapM f = .ok values) ↔ ∀ item ∈ list, ∃ value, f item = .ok value := by
  induction list with
  | nil => simp [pure, Except.pure]
  | cons item rest ih =>
      simp only [List.mem_cons, forall_eq_or_imp, ← ih, mapM_eq_ok_iff, List.forall₂_cons_left_iff]
      constructor
      · rintro ⟨_, value, others, hvalue, hothers, -⟩
        exact ⟨⟨value, hvalue⟩, others, hothers⟩
      · rintro ⟨⟨value, hvalue⟩, others, hothers⟩
        exact ⟨_, value, others, hvalue, hothers, rfl⟩

theorem exists_error_of_mapM {f : α → Except ε β} {list : List α} {error : ε}
    (h : list.mapM f = .error error) : ∃ item ∈ list, f item = .error error := by
  induction list with
  | nil => cases h
  | cons item rest ih =>
      rw [List.mapM_cons] at h
      rcases bind_eq_error_iff.mp h with h | ⟨value, -, h⟩
      · exact ⟨item, List.mem_cons_self, h⟩
      · rcases bind_eq_error_iff.mp h with h | ⟨_, -, h⟩
        · obtain ⟨other, hmem, hother⟩ := ih h
          exact ⟨other, List.mem_cons_of_mem _ hmem, hother⟩
        · cases h

/-- A step that fails for one reason, with one error, makes all of them fail for it. -/
theorem mapM_eq_ite {f : α → Except ε β} {P : α → Prop} [DecidablePred P] {g : α → β} {error : ε}
    (h : ∀ item, f item = if P item then .ok (g item) else .error error) (list : List α) :
    list.mapM f = if ∀ item ∈ list, P item then .ok (list.map g) else .error error := by
  induction list with
  | nil => exact (if_pos nofun).symm
  | cons item rest ih =>
      simp only [List.mapM_cons, h item, ih, List.forall_mem_cons]
      by_cases hitem : P item
      · by_cases hrest : ∀ other ∈ rest, P other
        · rw [if_pos hitem, if_pos hrest, if_pos ⟨hitem, hrest⟩]
          rfl
        · rw [if_pos hitem, if_neg hrest, if_neg (not_and_of_not_right _ hrest)]
          rfl
      · rw [if_neg hitem, if_neg (not_and_of_not_left _ hitem)]
        rfl

theorem forM_eq_ok_iff {f : α → Except ε Unit} {list : List α} :
    list.forM f = .ok () ↔ ∀ item ∈ list, f item = .ok () := by
  induction list with
  | nil => exact iff_of_true rfl nofun
  | cons item rest ih =>
      have hcons : (item :: rest).forM f = f item >>= fun _ => rest.forM f := rfl
      rw [hcons, bind_eq_ok_iff, List.forall_mem_cons, ← ih]
      exact ⟨fun ⟨_, hitem, hrest⟩ => ⟨hitem, hrest⟩, fun ⟨hitem, hrest⟩ => ⟨(), hitem, hrest⟩⟩

/-- What fails is the first item that does, after others that do not. -/
theorem forM_eq_error_iff {f : α → Except ε Unit} {list : List α} {error : ε} :
    list.forM f = .error error ↔ ∃ front item back, list = front ++ item :: back ∧
      (∀ other ∈ front, f other = .ok ()) ∧ f item = .error error := by
  induction list with
  | nil =>
      refine iff_of_false nofun ?_
      rintro ⟨front, item, back, hlist, -⟩
      exact List.append_ne_nil_of_right_ne_nil front (List.cons_ne_nil item back) hlist.symm
  | cons first rest ih =>
      have hcons : (first :: rest).forM f = f first >>= fun _ => rest.forM f := rfl
      rw [hcons, bind_eq_error_iff, ih]
      constructor
      · rintro (hfirst | ⟨_, hfirst, front, item, back, rfl, hfront, hitem⟩)
        · exact ⟨[], first, rest, rfl, nofun, hfirst⟩
        · exact ⟨first :: front, item, back, rfl, List.forall_mem_cons.mpr ⟨hfirst, hfront⟩, hitem⟩
      · rintro ⟨front, item, back, hlist, hfront, hitem⟩
        cases front with
        | nil =>
            obtain ⟨rfl, rfl⟩ := List.cons.inj hlist
            exact Or.inl hitem
        | cons head front =>
            obtain ⟨rfl, rfl⟩ := List.cons.inj hlist
            obtain ⟨hhead, hfront⟩ := List.forall_mem_cons.mp hfront
            exact Or.inr ⟨(), hhead, front, item, back, rfl, hfront, hitem⟩

/-- What every step keeps is kept by all of them. -/
theorem foldlM_keeps {f : β → α → Except ε β} {P : β → Prop} {list : List α} {start last : β}
    (hstep : ∀ state item next, f state item = .ok next → P state → P next)
    (h : list.foldlM f start = .ok last) (hstart : P start) : P last := by
  induction list generalizing start with
  | nil =>
      obtain rfl := Except.ok.inj h
      exact hstart
  | cons item rest ih =>
      rw [List.foldlM_cons] at h
      obtain ⟨next, hnext, hrest⟩ := bind_eq_ok_iff.mp h
      exact ih hrest (hstep start item next hnext hstart)

end C4Model.Outcome
