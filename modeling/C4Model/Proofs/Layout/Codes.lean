import C4Model.Proofs.Console.Codes
import C4Model.Proofs.Layout.Reflow
import C4Model.Proofs.Layout.Wording

/-! Control sequences in the lines of a document. No character that the layout adds or changes is one that
control sequences consist of: not the escapes in literals, not the line feeds and margins, not the blanks that
are stripped. So a document has a control sequence exactly if one of its parts has. -/

namespace C4Model

open Console Layout

/-- The text has a control sequence. -/
def Coded (text : String) : Prop :=
  HasCode text.toList

/-- One of the texts has a control sequence. -/
def CodedAmong (texts : List String) : Prop :=
  ∃ text ∈ texts, Coded text

theorem codedAmong_cons_iff {text : String} {texts : List String} :
    CodedAmong (text :: texts) ↔ Coded text ∨ CodedAmong texts :=
  List.exists_mem_cons_iff ..

theorem codedAmong_append_iff {first second : List String} :
    CodedAmong (first ++ second) ↔ CodedAmong first ∨ CodedAmong second := by
  simp only [CodedAmong, List.mem_append, or_and_right, exists_or]

theorem codedAmong_map_iff {α : Type} {list : List α} {text : α → String} :
    CodedAmong (list.map text) ↔ ∃ item ∈ list, Coded (text item) := by
  simp only [CodedAmong, List.mem_map, exists_exists_and_eq_and]

theorem codedAmong_flatMap_iff {α : Type} {list : List α} {texts : α → List String} :
    CodedAmong (list.flatMap texts) ↔ ∃ item ∈ list, CodedAmong (texts item) := by
  simp only [CodedAmong, List.mem_flatMap]
  constructor
  · rintro ⟨text, ⟨item, hitem, htext⟩, hcoded⟩
    exact ⟨item, hitem, text, htext, hcoded⟩
  · rintro ⟨item, hitem, text, htext, hcoded⟩
    exact ⟨text, ⟨item, hitem, htext⟩, hcoded⟩

theorem not_isCodeChar_of_isBlank {c : Char} (h : Text.isBlank c = true) : ¬IsCodeChar c := by
  have hascii : ∀ blank ∈ Text.blanks.intervals, blank.2 ≤ 0x20 ∨ 0x80 ≤ blank.1 := by decide
  obtain ⟨interval, hmem, hfrom, hto⟩ := CodePoints.contains_iff.mp h
  have hapart := hascii interval hmem
  rintro (rfl | rfl | hparameter | hletter)
  · exact absurd h (by decide)
  · exact absurd h (by decide)
  · obtain ⟨hleast, hgreatest⟩ := toNat_of_isParameter hparameter
    have hzero : '0'.toNat = 0x30 := rfl
    have hmark : '?'.toNat = 0x3f := rfl
    omega
  · obtain ⟨hleast, hgreatest⟩ := toNat_of_isAlpha hletter
    have hfirst : 'A'.toNat = 0x41 := rfl
    have hlast : 'z'.toNat = 0x7a := rfl
    omega

theorem hasCode_escapeChars_iff (text : List Char) : HasCode (Literal.escapeChars text) ↔ HasCode text := by
  have hbackslash : ¬IsCodeChar '\\' := by decide
  have hquote : ¬IsCodeChar '"' := by decide
  rw [Literal.escapeChars_eq_flatMap]
  refine hasCode_flatMap_iff (fun c hc => if_neg ?_) (fun c hc => ?_) text
  · rintro (rfl | rfl)
    · exact hbackslash hc
    · exact hquote hc
  · split <;> simp [hbackslash, hc]

theorem coded_underscored_iff (title : String) : Coded (underscored title) ↔ Coded title := by
  have hspace : ¬IsCodeChar ' ' := by decide
  have hunderscore : ¬IsCodeChar '_' := by decide
  rw [Coded, underscored, String.toList_ofList, List.map_eq_flatMap]
  refine hasCode_flatMap_iff (fun c hc => ?_) (fun c hc => ?_) title.toList
  · rw [if_neg]
    rintro rfl
    exact hspace hc
  · split <;> simp [hunderscore, hc]

theorem coded_strip_iff (text : String) : Coded (Text.strip text) ↔ Coded text := by
  obtain ⟨before, after, hbefore, hafter, htext⟩ := Text.exists_blanks_around text.toList
  have hpart : HasCode text.toList ↔ HasCode (before ++ (Text.stripBlanks text.toList ++ after)) := by
    rw [← htext]
  rw [Coded, Coded, Text.strip, String.toList_ofList, hpart,
    hasCode_append_left_iff fun c hc => not_isCodeChar_of_isBlank (hbefore c hc),
    hasCode_append_right_iff fun c hc => not_isCodeChar_of_isBlank (hafter c hc)]

theorem not_coded_of_isTerm {text : String} (h : IsTerm text) : ¬Coded text :=
  not_hasCode_of_not_mem fun hescape => absurd (h.2 _ hescape) (by decide)

/-- The text of a part, as it is or in a literal. -/
def Layout.Part.text : Part → String
  | .bare text => text
  | .literal text => text

theorem Layout.Part.hasCode_chars_iff (part : Part) : HasCode part.chars ↔ Coded part.text := by
  cases part with
  | bare text => rfl
  | literal text =>
      have hquote : ¬IsCodeChar '"' := by decide
      rw [Part.chars, Statement.toList_quote, ← List.singleton_append,
        hasCode_append_left_iff (List.forall_mem_singleton.mpr hquote),
        hasCode_append_right_iff (List.forall_mem_singleton.mpr hquote), hasCode_escapeChars_iff]
      rfl

theorem hasCode_phrase_iff {word : String} (hword : IsTerm word) (rest : List Part) :
    HasCode (phrase word rest) ↔ CodedAmong (rest.map Part.text) := by
  have hspace : ¬IsCodeChar ' ' := by decide
  have hfront : ∀ front, HasCode (front ++ rest.flatMap fun part => ' ' :: part.chars) ↔
      HasCode front ∨ CodedAmong (rest.map Part.text) := by
    induction rest with
    | nil => simp [CodedAmong]
    | cons part rest ih =>
        intro front
        rw [List.flatMap_cons, ← List.append_assoc, ih, hasCode_append_cons_iff hspace, part.hasCode_chars_iff,
          List.map_cons, codedAmong_cons_iff, or_assoc]
  exact (hfront word.toList).trans (or_iff_right (not_coded_of_isTerm hword))

/-- A line has a control sequence exactly if one of its parts has; the word in front and what closes the line
have none. -/
theorem coded_iff_of_phrase {text word closing : String} {rest : List Part}
    (htext : text.toList = phrase word rest ++ closing.toList) (hword : IsTerm word)
    (hclosing : Consists (fun c => ¬IsCodeChar c) closing) :
    Coded text ↔ CodedAmong (rest.map Part.text) := by
  rw [Coded, htext, hasCode_append_right_iff hclosing, hasCode_phrase_iff hword]

theorem coded_iff_of_eq_phrase {text word : String} {rest : List Part} (htext : text.toList = phrase word rest)
    (hword : IsTerm word) : Coded text ↔ CodedAmong (rest.map Part.text) := by
  rw [Coded, htext, hasCode_phrase_iff hword]

/-- An empty technology is left out, and there is nothing in it. -/
theorem codedAmong_technologyParts_iff (technology : Option String) :
    CodedAmong ((technologyParts technology).map Part.text) ↔ CodedAmong technology.toList := by
  have hempty : ¬Coded "" := not_hasCode_nil
  cases technology with
  | none => rfl
  | some text =>
      by_cases hpresent : text = ""
      · simp [technologyParts, Line.present, hpresent, CodedAmong, hempty]
      · simp [technologyParts, Line.present, hpresent, Option.filter_some, Part.text]

/-- The item has a control sequence in one of its lines. -/
inductive Layout.Item.Coded : Item → Prop where
  | line {text : String} (h : C4Model.Coded text) : Item.Coded (.line text)
  | header {header : String} {body : List Item} (h : C4Model.Coded header) : Item.Coded (.block header body)
  | body {header : String} {body : List Item} {item : Item} (hitem : item ∈ body) (h : item.Coded) :
      Item.Coded (.block header body)

theorem Layout.Item.coded_line_iff {text : String} : (Item.line text).Coded ↔ C4Model.Coded text :=
  ⟨fun h => by cases h; assumption, .line⟩

theorem Layout.Item.coded_block_iff {header : String} {body : List Item} :
    (Item.block header body).Coded ↔ C4Model.Coded header ∨ ∃ item ∈ body, item.Coded := by
  constructor
  · intro h
    cases h with
    | header h => exact Or.inl h
    | body hitem h => exact Or.inr ⟨_, hitem, h⟩
  · rintro (h | ⟨item, hitem, h⟩)
    · exact .header h
    · exact .body hitem h

theorem Layout.Item.not_coded_blank : ¬Item.blank.Coded := nofun

theorem coded_margin_append_iff (width : Int) (depth : Nat) (text : String) :
    Coded (margin width depth ++ text) ↔ Coded text := by
  rw [Coded, String.toList_append,
    hasCode_append_left_iff fun c hc => not_isCodeChar_of_isBlank (allBlank_margin width depth c hc)]
  rfl

mutual

theorem codedAmong_lines_iff (width : Int) (depth : Nat) (item : Item) :
    CodedAmong (item.lines width depth) ↔ item.Coded := by
  cases item with
  | line text =>
      rw [Item.lines, Item.coded_line_iff]
      simp [CodedAmong, coded_margin_append_iff]
  | blank =>
      have hempty : ¬Coded "" := not_hasCode_nil
      rw [Item.lines, iff_false_right Item.not_coded_blank]
      simpa [CodedAmong] using hempty
  | block header body =>
      have hclose : ¬Coded blockClose := not_hasCode_of_not_mem (by decide)
      rw [Item.lines, codedAmong_append_iff, codedAmong_cons_iff, codedAmong_linesOf_iff, Item.coded_block_iff]
      simp [CodedAmong, coded_margin_append_iff, hclose]

theorem codedAmong_linesOf_iff (width : Int) (depth : Nat) (items : List Item) :
    CodedAmong (linesOf width depth items) ↔ ∃ item ∈ items, item.Coded := by
  cases items with
  | nil => simp [linesOf, CodedAmong]
  | cons item rest =>
      rw [linesOf, codedAmong_append_iff, codedAmong_lines_iff, codedAmong_linesOf_iff, List.exists_mem_cons_iff]

end

theorem coded_joinLines_iff (lines : List String) : Coded (Text.joinLines lines) ↔ CodedAmong lines := by
  have hnewline : ¬IsCodeChar '\n' := by decide
  have hlines : HasCode (Text.linesText lines) ↔ CodedAmong lines := by
    induction lines with
    | nil => simpa [Text.linesText, CodedAmong] using not_hasCode_nil
    | cons line rest ih =>
        rw [Text.linesText, List.flatMap_cons, List.append_assoc, List.singleton_append,
          hasCode_append_cons_iff hnewline, codedAmong_cons_iff, ← ih]
        rfl
  by_cases hempty : lines = []
  · subst hempty
    exact hlines
  · rw [← hlines, Text.linesText_eq_joinLines hempty,
      hasCode_append_right_iff (List.forall_mem_singleton.mpr hnewline)]
    rfl

/-- Whatever its width, a document has a control sequence exactly if one of its items has. -/
theorem coded_render_iff (width : Int) (items : List Item) :
    Coded (render width items) ↔ ∃ item ∈ items, item.Coded := by
  rw [render, coded_joinLines_iff, codedAmong_linesOf_iff]

theorem coded_render_block_iff (width : Int) (header : String) (body : List Item) :
    Coded (render width [.block header body]) ↔ Coded header ∨ ∃ item ∈ body, item.Coded := by
  rw [coded_render_iff, ← Item.coded_block_iff]
  simp

theorem exists_coded_spliced_iff (fragment : String) :
    (∃ item ∈ spliced fragment, item.Coded) ↔ Coded fragment := by
  have hpiece : ∀ line, (if Text.isBlankText line then Item.blank else .line line).Coded ↔ Coded line := by
    intro line
    split
    case isTrue hblank =>
      refine iff_of_false Item.not_coded_blank fun hcode => ?_
      rw [Coded, ← List.append_nil line.toList, hasCode_append_left_iff fun c hc =>
        not_isCodeChar_of_isBlank (Text.isBlankText_iff.mp hblank c hc)] at hcode
      exact not_hasCode_nil hcode
    case isFalse => exact Item.coded_line_iff
  have hwhole := coded_joinLines_iff (Text.splitOnChar '\n' fragment)
  rw [Text.joinLines_splitOnChar] at hwhole
  rw [hwhole, spliced]
  simp [CodedAmong, hpiece]

end C4Model
