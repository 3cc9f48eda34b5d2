import C4Model.Proofs.Layout.Line
import C4Model.View.Basic
import Mathlib.Data.String.Basic

/-! Patterns as texts. What the pattern of a template is read as is filled as the template is, though it has a
piece for every character. So every line of a document is what its pattern is rendered as. -/

namespace C4Model

theorem Text.decimalValue?_of_letter {c : Char} (h : 0x5F ≤ c.toNat ∧ c.toNat ≤ 0x7A) :
    decimalValue? c = none := by
  have hzeros : ∀ first ∈ decimalZeros, first = 0x30 ∨ 0x660 ≤ first := by decide
  rw [decimalValue?, Option.map_eq_none_iff, List.find?_eq_none]
  intro first hfirst hwithin
  rw [Bool.and_eq_true, decide_eq_true_iff, decide_eq_true_iff] at hwithin
  have hplace := hzeros first hfirst
  omega

namespace Layout

/-- A pattern has a way to say this piece: a text, or a field whose name has no braces and is no number. -/
def Piece.Sayable : Piece → Prop
  | .text _ => True
  | .field name => (∀ c ∈ name.toList, c ≠ '{' ∧ c ≠ '}') ∧ Text.decimalNumber? name.toList = none
  | .fault _ => False

/-- A text, or a field whose name is a word of small letters and underscores. -/
def Piece.isWorded : Piece → Bool
  | .text _ => true
  | .field name => !name.isEmpty && name.toList.all fun c => 0x5F ≤ c.toNat && c.toNat ≤ 0x7A
  | .fault _ => false

theorem Piece.sayable_of_isWorded {piece : Piece} (h : piece.isWorded = true) : piece.Sayable := by
  cases piece with
  | text text => trivial
  | fault fault => cases h
  | field name =>
      simp only [isWorded, Bool.and_eq_true, List.all_eq_true, decide_eq_true_iff] at h
      obtain ⟨hnonempty, hletters⟩ := h
      constructor
      case left =>
        intro c hc
        have hletter := hletters c hc
        constructor
        · rintro rfl
          exact absurd hletter (by decide)
        · rintro rfl
          exact absurd hletter (by decide)
      case right =>
        cases hname : name.toList with
        | nil => simp_all
        | cons c rest =>
            have hfirst := hletters c (hname ▸ List.mem_cons_self)
            rw [Text.decimalNumber?, List.foldlM_cons, Text.decimalValue?_of_letter hfirst]
            rfl

namespace Template

/-- A character of a text as patterns write it. -/
def doubled (c : Char) : List Char :=
  if c = '{' ∨ c = '}' then [c, c] else [c]

/-- A text as it is read, each character for itself. -/
def characters (cs : List Char) : Template :=
  cs.map fun c => .text (String.singleton c)

variable (fields : List (String × String))

theorem readFrom_doubled (cs rest : List Char) :
    readFrom none (cs.flatMap doubled ++ rest) = characters cs ++ readFrom none rest := by
  induction cs with
  | nil => rfl
  | cons c cs ih =>
      rw [List.flatMap_cons, List.append_assoc, characters, List.map_cons, List.cons_append, ← characters, ← ih]
      by_cases hopening : c = '{'
      · rw [hopening]
        rfl
      · by_cases hclosing : c = '}'
        · rw [hclosing]
          rfl
        · rw [doubled, if_neg (not_or_intro hopening hclosing), List.singleton_append, readFrom]
          all_goals simp [hopening, hclosing]

theorem readFrom_name {name : List Char} (h : ∀ c ∈ name, c ≠ '{' ∧ c ≠ '}') (before rest : List Char) :
    readFrom (some before) (name ++ '}' :: rest) =
      pieceOfName (before.reverse ++ name) :: readFrom none rest := by
  induction name generalizing before with
  | nil => simp [readFrom]
  | cons c name ih =>
      obtain ⟨⟨hopening, hclosing⟩, hname⟩ := List.forall_mem_cons.mp h
      rw [List.cons_append, readFrom, ih hname]
      · simp
      · exact hclosing
      · exact hopening

theorem readFrom_field {name : List Char} (h : ∀ c ∈ name, c ≠ '{' ∧ c ≠ '}') (rest : List Char) :
    readFrom none ('{' :: (name ++ '}' :: rest)) = pieceOfName name :: readFrom none rest := by
  have hread := readFrom_name h [] rest
  rw [List.reverse_nil, List.nil_append] at hread
  rw [← hread, readFrom]
  -- an opening brace begins a field only if the next character is not another one
  all_goals cases name <;> simp_all

theorem fill_characters (cs : List Char) (rest : Template) :
    fill fields (characters cs ++ rest) = (fill fields rest).map (String.ofList cs ++ ·) := by
  induction cs with
  | nil => cases hrest : fill fields rest <;> simp [characters, hrest, Except.map]
  | cons c cs ih =>
      rw [characters, List.map_cons, List.cons_append, ← characters, fill, ih]
      cases fill fields rest <;> simp [Except.map, ← String.toList_inj]

/-- What a pattern has for a piece. -/
def spelled : Piece → List Char
  | .text text => text.toList.flatMap doubled
  | .field name => '{' :: (name.toList ++ ['}'])
  | .fault _ => []

theorem toList_pattern (template : Template) : template.pattern.toList = template.flatMap spelled := by
  rw [pattern, String.join_eq, String.toList_ofList, List.map_map, List.flatMap_def]
  congr 1
  refine List.map_congr_left fun piece _ => ?_
  cases piece with
  | text text => exact String.toList_ofList
  | field name => simp [spelled]
  | fault fault => rfl

/-- The pattern of a template that can be said is filled as the template is. -/
theorem fill_ofPattern_pattern {template : Template} (h : ∀ piece ∈ template, piece.Sayable) :
    fill fields (ofPattern template.pattern) = fill fields template := by
  rw [ofPattern, toList_pattern]
  induction template with
  | nil => rfl
  | cons piece rest ih =>
      obtain ⟨hpiece, hrest⟩ := List.forall_mem_cons.mp h
      rw [List.flatMap_cons]
      cases piece with
      | text text => rw [spelled, readFrom_doubled, fill_characters, ih hrest, String.ofList_toList, fill]
      | field name =>
          obtain ⟨hplain, hnumber⟩ := hpiece
          have hread : pieceOfName name.toList = .field name := by
            rw [pieceOfName, hnumber, String.ofList_toList]
          rw [spelled, List.cons_append, List.append_assoc, List.singleton_append, readFrom_field hplain, hread,
            fill, fill, ih hrest]
      | fault fault => exact hpiece.elim

theorem isWorded_of_mem_named : ∀ entry ∈ named, entry.2.all Piece.isWorded = true := by
  decide +kernel

/-- The pattern of every template that has a name is filled as the template is. -/
theorem fill_ofPattern_named {entry : String × Template} (h : entry ∈ named) :
    fill fields (ofPattern entry.2.pattern) = fill fields entry.2 :=
  fill_ofPattern_pattern fields fun piece hpiece =>
    Piece.sayable_of_isWorded (List.all_eq_true.mp (isWorded_of_mem_named entry h) piece hpiece)

example : viewOpen.pattern = "\x7bview_type\x7d \x7bidentifier\x7d \"\x7btitle\x7d\" \x7b\x7b" := by
  decide +kernel

end Template

namespace Line

theorem exists_named (line : Line) : ∃ entry ∈ Template.named, entry.2 = line.template := by
  cases line with
  | element _ _ _ _ technology => cases h : (present technology).isSome <;> simp [template, h, Template.named]
  | relationship _ _ _ technology => cases h : (present technology).isSome <;> simp [template, h, Template.named]
  | viewOpen _ scope _ => cases h : scope.isSome <;> simp [template, h, Template.named]
  | _ => simp [template, Template.named]

/-- Every line is what its pattern is rendered as, whatever its texts are. -/
theorem renderPattern_template (line : Line) :
    renderPattern line.template.pattern line.fields = .ok line.text := by
  obtain ⟨entry, hentry, htemplate⟩ := line.exists_named
  rw [renderPattern, ← htemplate, Template.fill_ofPattern_named _ hentry, htemplate, line.fill_template]
  rfl

end Line

end Layout

end C4Model
