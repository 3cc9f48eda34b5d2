import C4Model.Console.Style
import Mathlib.Data.List.Infix
import Mathlib.Data.List.TakeWhile

/-! Control sequences in texts. What is shown without colors has lost every control sequence and nothing else,
so a text is shown as it is exactly if none stands in it. -/

namespace C4Model.Console

/-- A control sequence: an escape and a bracket, parameters, and a letter. -/
inductive IsCode : List Char → Prop where
  | intro (parameters : List Char) (letter : Char) (hparameters : ∀ c ∈ parameters, isParameter c = true)
      (hletter : letter.isAlpha = true) : IsCode ('\x1b' :: '[' :: (parameters ++ [letter]))

/-- A text with a control sequence in front. -/
def BeginsCode (text : List Char) : Prop :=
  ∃ code, IsCode code ∧ code <+: text

/-- A text with a control sequence somewhere. -/
def HasCode (text : List Char) : Prop :=
  ∃ code, IsCode code ∧ code <:+: text

variable {text rest : List Char} {c : Char}

theorem toNat_of_isAlpha (h : c.isAlpha = true) : 'A'.toNat ≤ c.toNat ∧ c.toNat ≤ 'z'.toNat := by
  have hletter : (decide ('A'.val ≤ c.val ∧ c.val ≤ 'Z'.val) ||
      (decide ('a'.val ≤ c.val) && decide (c.val ≤ 'z'.val))) = true := h
  simp only [Bool.or_eq_true, Bool.and_eq_true, decide_eq_true_eq, UInt32.le_iff_toNat_le] at hletter
  rcases hletter with hupper | hlower
  · exact ⟨hupper.1, Nat.le_trans hupper.2 (by decide)⟩
  · exact ⟨Nat.le_trans (by decide) hlower.1, hlower.2⟩

theorem toNat_of_isParameter (h : isParameter c = true) : '0'.toNat ≤ c.toNat ∧ c.toNat ≤ '?'.toNat := by
  simp only [isParameter, Bool.or_eq_true, beq_iff_eq] at h
  rcases h with (rfl | rfl) | hdigit
  · decide
  · decide
  · obtain ⟨hleast, hgreatest⟩ := Char.isDigit_iff_toNat.mp hdigit
    exact ⟨hleast, Nat.le_trans hgreatest (by decide)⟩

theorem isParameter_of_isAlpha (h : c.isAlpha = true) : isParameter c = false := by
  rw [Bool.eq_false_iff]
  intro hparameter
  exact absurd (Nat.le_trans (toNat_of_isAlpha h).1 (toNat_of_isParameter hparameter).2) (by decide)

/-- After an escape and a bracket, it is the first character behind the parameters that decides. -/
theorem stripCodes_escape (rest : List Char) : stripCodes ('\x1b' :: '[' :: rest) =
    match rest.dropWhile isParameter with
    | c :: after => if c.isAlpha then stripCodes after else '\x1b' :: stripCodes ('[' :: rest)
    | [] => '\x1b' :: stripCodes ('[' :: rest) := by
  rw [stripCodes]
  split <;> simp only [*]

theorem stripCodes_append_of_isCode {code : List Char} (h : IsCode code) (rest : List Char) :
    stripCodes (code ++ rest) = stripCodes rest := by
  obtain ⟨parameters, letter, hparameters, hletter⟩ := h
  have hdropped : (parameters ++ [letter] ++ rest).dropWhile isParameter = letter :: rest := by
    rw [List.append_assoc, List.dropWhile_append_of_pos hparameters, List.singleton_append,
      List.dropWhile_cons_of_neg (by simp [isParameter_of_isAlpha hletter])]
  rw [List.cons_append, List.cons_append, stripCodes_escape, hdropped]
  exact if_pos hletter

/-- An escape and a bracket begin a control sequence exactly if a letter comes behind the parameters. -/
theorem beginsCode_escape_iff : BeginsCode ('\x1b' :: '[' :: rest) ↔
    ∃ letter after, rest.dropWhile isParameter = letter :: after ∧ letter.isAlpha = true := by
  constructor
  · rintro ⟨_, ⟨parameters, letter, hparameters, hletter⟩, after, htext⟩
    simp only [List.cons_append, List.cons.injEq, true_and, List.append_assoc, List.nil_append] at htext
    refine ⟨letter, after, ?_, hletter⟩
    rw [← htext, List.dropWhile_append_of_pos hparameters,
      List.dropWhile_cons_of_neg (by simp [isParameter_of_isAlpha hletter])]
  · rintro ⟨letter, after, hdropped, hletter⟩
    refine ⟨_, .intro (rest.takeWhile isParameter) letter (fun c => List.mem_takeWhile_imp) hletter, after, ?_⟩
    rw [List.cons_append, List.cons_append, List.append_assoc, List.singleton_append, ← hdropped,
      List.takeWhile_append_dropWhile]

theorem stripCodes_cons_of_not_beginsCode (h : ¬BeginsCode (c :: rest)) :
    stripCodes (c :: rest) = c :: stripCodes rest := by
  by_cases hescape : ∃ after, c = '\x1b' ∧ rest = '[' :: after
  · obtain ⟨after, rfl, rfl⟩ := hescape
    rw [beginsCode_escape_iff] at h
    rw [stripCodes_escape]
    split
    case h_1 letter after' hdropped =>
      exact if_neg fun hletter => h ⟨letter, after', hdropped, hletter⟩
    case h_2 => rfl
  · rw [stripCodes]
    rintro after rfl rfl
    exact hescape ⟨after, rfl, rfl⟩

theorem hasCode_cons_iff : HasCode (c :: rest) ↔ BeginsCode (c :: rest) ∨ HasCode rest := by
  simp only [HasCode, BeginsCode, List.infix_cons_iff, and_or_left, exists_or]

theorem not_hasCode_nil : ¬HasCode [] := by
  rintro ⟨_, ⟨⟩, hwithin⟩
  simp at hwithin

/-- A text is taken apart from the left, into control sequences and single characters between them. -/
@[elab_as_elim]
theorem codeInduction {motive : List Char → Prop} (text : List Char) (nil : motive [])
    (code : ∀ code rest, IsCode code → motive rest → motive (code ++ rest))
    (plain : ∀ c rest, ¬BeginsCode (c :: rest) → motive rest → motive (c :: rest)) : motive text := by
  induction hlength : text.length using Nat.strongRecOn generalizing text with
  | ind length ih =>
      subst hlength
      by_cases hbegins : BeginsCode text
      · obtain ⟨front, hfront, rest, rfl⟩ := hbegins
        have hshorter : rest.length < (front ++ rest).length := by
          cases hfront
          simp
          omega
        exact code front rest hfront (ih _ hshorter rest rfl)
      · cases text with
        | nil => exact nil
        | cons c rest => exact plain c rest hbegins (ih _ (Nat.lt_succ_self _) rest rfl)

theorem stripCodes_sublist (text : List Char) : (stripCodes text).Sublist text := by
  induction text using codeInduction with
  | nil => simp [stripCodes]
  | code code rest hcode ih =>
      rw [stripCodes_append_of_isCode hcode]
      exact ih.trans (List.sublist_append_right code rest)
  | plain c rest hplain ih =>
      rw [stripCodes_cons_of_not_beginsCode hplain]
      exact ih.cons_cons c

theorem length_stripCodes_lt (h : HasCode text) : (stripCodes text).length < text.length := by
  induction text using codeInduction with
  | nil => exact absurd h not_hasCode_nil
  | code code rest hcode ih =>
      have hkept := (stripCodes_sublist rest).length_le
      rw [stripCodes_append_of_isCode hcode, List.length_append]
      cases hcode
      simp
      omega
  | plain c rest hplain ih =>
      rw [stripCodes_cons_of_not_beginsCode hplain]
      exact Nat.succ_lt_succ (ih ((hasCode_cons_iff.mp h).resolve_left hplain))

theorem stripCodes_of_not_hasCode (h : ¬HasCode text) : stripCodes text = text := by
  induction text with
  | nil => simp [stripCodes]
  | cons c rest ih =>
      rw [hasCode_cons_iff, not_or] at h
      rw [stripCodes_cons_of_not_beginsCode h.1, ih h.2]

/-- Only texts without control sequences are left as they are. -/
theorem stripCodes_eq_self_iff : stripCodes text = text ↔ ¬HasCode text := by
  refine ⟨fun hsame hcode => ?_, stripCodes_of_not_hasCode⟩
  have hshorter := length_stripCodes_lt hcode
  rw [hsame] at hshorter
  exact Nat.lt_irrefl _ hshorter

/-- A text is shown as it is with colors, or if there is no control sequence in it. -/
theorem shown_eq_self_iff {colored : Bool} {text : String} :
    shown colored text = text ↔ colored = true ∨ ¬HasCode text.toList := by
  cases colored with
  | true => simp [shown]
  | false =>
      rw [shown, if_neg Bool.false_ne_true, ← String.toList_inj, String.toList_ofList, stripCodes_eq_self_iff]
      simp

/-- What control sequences consist of. -/
def IsCodeChar (c : Char) : Prop :=
  c = '\x1b' ∨ c = '[' ∨ isParameter c = true ∨ c.isAlpha = true

instance (c : Char) : Decidable (IsCodeChar c) :=
  inferInstanceAs (Decidable (_ ∨ _))

theorem IsCode.isCodeChar {code : List Char} (h : IsCode code) : ∀ c ∈ code, IsCodeChar c := by
  obtain ⟨parameters, letter, hparameters, hletter⟩ := h
  simp only [List.forall_mem_cons, List.forall_mem_append]
  exact ⟨Or.inl rfl, Or.inr (Or.inl rfl), fun c hc => Or.inr (Or.inr (Or.inl (hparameters c hc))),
    Or.inr (Or.inr (Or.inr hletter)), nofun⟩

theorem not_hasCode_of_not_mem (h : '\x1b' ∉ text) : ¬HasCode text := by
  rintro ⟨_, ⟨parameters, letter, -, -⟩, hwithin⟩
  exact h (hwithin.subset List.mem_cons_self)

/-- A part without the character stands before it or behind it. -/
theorem infix_append_cons_iff {part front back : List Char} (hc : c ∉ part) :
    part <:+: front ++ c :: back ↔ part <:+: front ∨ part <:+: back := by
  constructor
  · rintro ⟨before, after, htext⟩
    -- Either the part ends in `front`, or it begins there or later; where it goes over `c` is absurd.
    rcases List.append_eq_append_iff.mp htext with ⟨between, rfl, -⟩ | ⟨between, hfront, hback⟩
    · exact Or.inl ⟨before, between, rfl⟩
    · rcases List.append_eq_append_iff.mp hfront with ⟨left, rfl, rfl⟩ | ⟨left, rfl, rfl⟩
      · cases between with
        | nil => exact Or.inl ⟨before, [], by simp⟩
        | cons d more =>
            obtain rfl := (List.cons.inj hback).1
            simp at hc
      · cases left with
        | nil =>
            cases part with
            | nil => exact Or.inl (List.nil_infix)
            | cons d more =>
                obtain rfl := (List.cons.inj hback).1
                simp at hc
        | cons d more =>
            obtain ⟨-, rfl⟩ := List.cons.inj hback
            exact Or.inr ⟨more, after, rfl⟩
  · rintro (hfront | hback)
    · exact hfront.trans (List.prefix_append front _).isInfix
    · exact hback.trans ⟨front ++ [c], [], by simp⟩

/-- No control sequence goes over a character that none consists of. -/
theorem hasCode_append_cons_iff {front back : List Char} (hc : ¬IsCodeChar c) :
    HasCode (front ++ c :: back) ↔ HasCode front ∨ HasCode back := by
  have hsplit : ∀ code, IsCode code → (code <:+: front ++ c :: back ↔ code <:+: front ∨ code <:+: back) :=
    fun code hcode => infix_append_cons_iff fun hmem => hc (hcode.isCodeChar c hmem)
  constructor
  · rintro ⟨code, hcode, hwithin⟩
    exact ((hsplit code hcode).mp hwithin).imp (fun h => ⟨code, hcode, h⟩) fun h => ⟨code, hcode, h⟩
  · rintro (⟨code, hcode, hwithin⟩ | ⟨code, hcode, hwithin⟩)
    · exact ⟨code, hcode, (hsplit code hcode).mpr (Or.inl hwithin)⟩
    · exact ⟨code, hcode, (hsplit code hcode).mpr (Or.inr hwithin)⟩

theorem hasCode_append_left_iff {front back : List Char} (hfront : ∀ c ∈ front, ¬IsCodeChar c) :
    HasCode (front ++ back) ↔ HasCode back := by
  induction front with
  | nil => rfl
  | cons c front ih =>
      obtain ⟨hc, hrest⟩ := List.forall_mem_cons.mp hfront
      have hfirst : HasCode ([] ++ c :: (front ++ back)) ↔ HasCode [] ∨ HasCode (front ++ back) :=
        hasCode_append_cons_iff hc
      rw [← ih hrest]
      exact hfirst.trans (or_iff_right not_hasCode_nil)

theorem hasCode_append_right_iff {front back : List Char} (hback : ∀ c ∈ back, ¬IsCodeChar c) :
    HasCode (front ++ back) ↔ HasCode front := by
  cases back with
  | nil => rw [List.append_nil]
  | cons c back =>
      obtain ⟨hc, hrest⟩ := List.forall_mem_cons.mp hback
      have hnone : ¬HasCode back := by
        rw [← List.append_nil back, hasCode_append_left_iff hrest]
        exact not_hasCode_nil
      rw [hasCode_append_cons_iff hc, or_iff_left hnone]

/-- Writing other characters in another way makes no control sequence, and hides none. -/
theorem hasCode_flatMap_iff {written : Char → List Char} (hkept : ∀ c, IsCodeChar c → written c = [c])
    (hother : ∀ c, ¬IsCodeChar c → written c ≠ [] ∧ ∀ d ∈ written c, ¬IsCodeChar d) (text : List Char) :
    HasCode (text.flatMap written) ↔ HasCode text := by
  have hfront : ∀ front, HasCode (front ++ text.flatMap written) ↔ HasCode (front ++ text) := by
    induction text with
    | nil => simp
    | cons c rest ih =>
        intro front
        rw [List.flatMap_cons]
        by_cases hc : IsCodeChar c
        · rw [hkept c hc, ← List.append_assoc, ih, List.append_assoc, List.singleton_append]
        · obtain ⟨hne, hall⟩ := hother c hc
          obtain ⟨d, more, hwritten⟩ := List.exists_cons_of_ne_nil hne
          rw [hwritten, List.forall_mem_cons] at hall
          have hrest := ih []
          rw [List.nil_append, List.nil_append] at hrest
          rw [hwritten, List.cons_append, hasCode_append_cons_iff hall.1, hasCode_append_left_iff hall.2, hrest,
            hasCode_append_cons_iff hc]
  exact hfront []

end C4Model.Console
