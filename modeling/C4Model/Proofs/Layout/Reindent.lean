import C4Model.Layout.Reindent
import C4Model.Proofs.Layout.Reflow
import C4Model.Proofs.Layout.Wording

/-! Indenting by braces and indenting by depth. Where every header opens one brace more than it closes and
every other line as many as it closes, the braces before a line tell its depth. So the lines of items that
are indented anew are the lines of the same items at the new width. -/

namespace C4Model.Layout

open Text (BeginsInked EndsInked isBlank isBlankText isLineBreak strip stripBlanks)

/-- A line that the braces put at its depth, and that opens so many braces more than it closes. -/
structure Regular (rise : Nat) (text : String) : Prop where
  unbroken : ∀ c ∈ text.toList, isLineBreak c = false
  begins : BeginsInked text.toList
  ends : EndsInked text.toList
  forward : beginsClosing text.toList = false
  braces : openings text.toList = closings text.toList + rise

theorem whole_of_regular {rise : Nat} {text : String} (h : Regular rise text) : Whole text := by
  constructor
  · intro hmem
    exact absurd (h.unbroken '\n' hmem) (by decide)
  · rw [Bool.eq_false_iff]
    exact fun hblank => h.begins.not_allBlank (Text.isBlankText_iff.mp hblank)

theorem isEmpty_stripBlanks (line : String) :
    (stripBlanks line.toList).isEmpty = isBlankText line := by
  rw [Bool.eq_iff_iff, List.isEmpty_iff, Text.isBlankText_iff]
  exact ⟨Text.allBlank_of_stripBlanks_eq_nil, Text.stripBlanks_of_allBlank⟩

section Lines

variable {line : String} {rest : List String}

theorem reindentLines_blank (h : isBlankText line = true) (width : Int) (depth : Nat) :
    reindentLines width depth (line :: rest) = line :: reindentLines width depth rest := by
  rw [reindentLines, isEmpty_stripBlanks, if_pos h]

theorem reindentLines_inked (h : isBlankText line = false) (width : Int) (depth : Nat) :
    reindentLines width depth (line :: rest) =
      (margin width (depthOf depth (strip line).toList) ++ strip line)
        :: reindentLines width (depthAfter depth (strip line).toList) rest := by
  rw [reindentLines, isEmpty_stripBlanks, h, if_neg Bool.false_ne_true, strip, String.toList_ofList]

end Lines

/-- Another margin takes the place of the one that stands before a text. -/
theorem reindentLines_margin {text : String} (hbegins : BeginsInked text.toList)
    (hends : EndsInked text.toList) (width new : Int) (place depth : Nat) (rest : List String) :
    reindentLines new depth ((margin width place ++ text) :: rest) =
      (margin new (depthOf depth text.toList) ++ text)
        :: reindentLines new (depthAfter depth text.toList) rest := by
  have hinked : isBlankText (margin width place ++ text) = false := by
    rw [isBlankText_margin, Bool.eq_false_iff]
    exact fun hblank => hbegins.not_allBlank (Text.isBlankText_iff.mp hblank)
  have hstrip : strip (margin width place ++ text) = text := by
    rw [strip, String.toList_append,
      Text.stripBlanks_of_inked (allBlank_margin width place) hbegins hends, String.ofList_toList]
  rw [reindentLines_inked hinked, hstrip]

theorem reindentLines_line {rise : Nat} {text : String} (h : Regular rise text) (width new : Int)
    (place depth : Nat) (rest : List String) :
    reindentLines new depth ((margin width place ++ text) :: rest) =
      (margin new depth ++ text) :: reindentLines new (depth + rise) rest := by
  have hdepth : depthOf depth text.toList = depth := by
    rw [depthOf, h.forward, if_neg Bool.false_ne_true]
  have hafter : depthAfter depth text.toList = depth + rise := by
    rw [depthAfter, h.forward, if_neg Bool.false_ne_true, h.braces]
    omega
  rw [reindentLines_margin h.begins h.ends, hdepth, hafter]

/-- The line with the closing brace goes back to the depth of its header. -/
theorem reindentLines_close (width new : Int) (place depth : Nat) (rest : List String) :
    reindentLines new (depth + 1) ((margin width place ++ blockClose) :: rest) =
      (margin new depth ++ blockClose) :: reindentLines new depth rest :=
  reindentLines_margin ⟨_, [], rfl, by decide⟩ ⟨[], _, rfl, by decide⟩ width new place (depth + 1) rest

/-- Items that are indented anew, whatever depth they had, stand at the depth that the braces before them
give, and leave it as it is. -/
theorem reindentLines_item {item : Item} (h : item.Made (Regular 0) (Regular 1)) (width new : Int)
    (place depth : Nat) (rest : List String) :
    reindentLines new depth (item.lines width place ++ rest) =
      item.lines new depth ++ reindentLines new depth rest := by
  induction h generalizing place depth rest with
  | line h => exact reindentLines_line h width new place depth rest
  | blank => rfl
  | @block opening body h _ ih =>
      have hbody : ∀ (items : List Item), (∀ item ∈ items, item ∈ body) → ∀ rest,
          reindentLines new (depth + 1) (linesOf width (place + 1) items ++ rest) =
            linesOf new (depth + 1) items ++ reindentLines new (depth + 1) rest := by
        intro items hitems rest
        induction items with
        | nil => rfl
        | cons item others ihitems =>
            obtain ⟨hitem, hothers⟩ := List.forall_mem_cons.mp hitems
            rw [linesOf, linesOf, List.append_assoc, ih item hitem, ihitems hothers,
              List.append_assoc]
      simp only [Item.lines, List.cons_append, List.append_assoc, List.nil_append]
      rw [reindentLines_line h, hbody body fun _ hitem => hitem, reindentLines_close]

theorem unbroken_margin {width : Int} {depth : Nat} {text : String}
    (h : ∀ c ∈ text.toList, isLineBreak c = false) :
    ∀ c ∈ (margin width depth ++ text).toList, isLineBreak c = false := by
  intro c hc
  rw [String.toList_append, List.mem_append, margin, String.toList_ofList, List.mem_replicate] at hc
  rcases hc with ⟨-, rfl⟩ | hc
  · rfl
  · exact h c hc

theorem unbroken_lines {item : Item} (h : item.Made (Regular 0) (Regular 1)) (width : Int)
    (depth : Nat) : ∀ line ∈ item.lines width depth, ∀ c ∈ line.toList, isLineBreak c = false := by
  induction h generalizing depth with
  | line h =>
      rw [Item.lines, List.forall_mem_singleton]
      exact unbroken_margin h.unbroken
  | blank => simp [Item.lines]
  | @block opening body h _ ih =>
      have hclose : Consists (isLineBreak · = false) blockClose := by decide
      rw [Item.lines, List.forall_mem_append, List.forall_mem_cons, List.forall_mem_singleton]
      refine ⟨⟨unbroken_margin h.unbroken, fun line hline => ?_⟩, unbroken_margin hclose⟩
      rw [linesOf_eq_flatMap] at hline
      obtain ⟨item, hitem, hline⟩ := List.mem_flatMap.mp hline
      exact ih item hitem (depth + 1) line hline

/-- A rendered block that is indented anew is the block rendered at the new width. -/
theorem reindent_render {opening : String} {body : List Item}
    (h : (Item.block opening body).Made (Regular 0) (Regular 1)) (width new : Int) :
    reindent new (render width [.block opening body]) = render new [.block opening body] := by
  have hsplit : Text.splitLines (Text.joinLines ((Item.block opening body).lines width 0)) =
      (Item.block opening body).lines width 0 := by
    refine Text.splitLines_joinLines ?_ (unbroken_lines h width 0)
    rw [margin_zero]
    decide
  have hindented := reindentLines_item h width new 0 0 []
  rw [List.append_nil, reindentLines, List.append_nil] at hindented
  rw [reindent, render, render, linesOf_singleton, linesOf_singleton, hsplit, hindented]

/-- A character that is no brace and ends no line. -/
def Smooth (c : Char) : Prop :=
  c ≠ '\x7b' ∧ c ≠ '\x7d' ∧ isLineBreak c = false

instance (c : Char) : Decidable (Smooth c) :=
  inferInstanceAs (Decidable (_ ∧ _))

theorem IsTermChar.smooth {c : Char} (h : IsTermChar c) : Smooth c := by
  refine ⟨h.ne (by decide), h.ne (by decide), Bool.eq_false_iff.mpr fun hbreak => ?_⟩
  have hblank := Text.isBlank_of_isLineBreak hbreak
  rw [h.isBlank] at hblank
  cases hblank

theorem smooth_quote {text : String} (h : Consists Smooth text) :
    Consists Smooth (Statement.quote text) := by
  have hescape : ∀ c ∈ Literal.escapeChars text.toList, Smooth c := by
    have hbackslash : Smooth '\\' := by decide
    intro c hc
    rcases Literal.eq_or_mem_of_mem_escapeChars hc with rfl | hc
    · exact hbackslash
    · exact h c hc
  have hquote : Smooth '"' := by decide
  rw [Consists, Statement.toList_quote, List.forall_mem_cons, List.forall_mem_append,
    List.forall_mem_singleton]
  exact ⟨hquote, hescape, hquote⟩

/-- A text that may stand as it is: it is smooth, and does not end in a blank. -/
def SmoothEnd (text : String) : Prop :=
  Consists Smooth text ∧ EndsInked text.toList

theorem smoothEnd_of_isTerm {text : String} (h : IsTerm text) : SmoothEnd text :=
  ⟨fun c hc => (h.2 c hc).smooth, h.endsInked⟩

/-- A text that may stand as an expression: it is smooth, and not blank. -/
def SmoothExpression (text : String) : Prop :=
  Consists Smooth text ∧ Text.isBlankText text = false

theorem SmoothExpression.strip {text : String} (h : SmoothExpression text) :
    SmoothEnd (Text.strip text) := by
  obtain ⟨hsmooth, hblank⟩ := h
  have hne : Text.stripBlanks text.toList ≠ [] := by
    intro hempty
    rw [Text.isBlankText_iff.mpr (Text.allBlank_of_stripBlanks_eq_nil hempty)] at hblank
    cases hblank
  rw [SmoothEnd, Consists, Text.strip, String.toList_ofList]
  exact ⟨fun c hc => hsmooth c (Text.mem_of_mem_stripBlanks hc), Text.endsInked_stripBlanks hne⟩

section Wording

variable {word text : String} {rest : List Part}

theorem Part.smooth {part : Part}
    (h : part.Of SmoothEnd (Consists Smooth)) :
    (∀ c ∈ part.chars, Smooth c) ∧ EndsInked part.chars := by
  cases part with
  | bare text => exact h
  | literal text =>
      exact ⟨smooth_quote h, '"' :: Literal.escapeChars text.toList, '"', Statement.toList_quote text,
        by decide⟩

theorem smooth_phrase (hword : IsTerm word)
    (h : ∀ part ∈ rest, part.Of SmoothEnd (Consists Smooth)) :
    (∀ c ∈ phrase word rest, Smooth c) ∧ EndsInked (phrase word rest) := by
  have hspace : Smooth ' ' := by decide
  constructor
  · refine List.forall_mem_append.mpr ⟨fun c hc => (hword.2 c hc).smooth, fun c hc => ?_⟩
    obtain ⟨part, hpart, hc⟩ := List.mem_flatMap.mp hc
    rcases List.mem_cons.mp hc with rfl | hc
    · exact hspace
    · exact (Part.smooth (h part hpart)).1 c hc
  · rcases List.eq_nil_or_concat rest with rfl | ⟨front, last, rfl⟩
    · simpa [phrase] using hword.endsInked
    · rw [List.concat_eq_append] at h ⊢
      have hlast := (Part.smooth (h last List.mem_concat_self)).2
      have hchars : phrase word (front ++ [last]) =
          phrase word front ++ [' '] ++ last.chars := by
        simp [phrase]
      rw [hchars]
      exact hlast.append _

/-- A phrase of smooth texts, with braces at its end. -/
theorem regular_of_worded {closing : String} {rise : Nat}
    (h : Worded SmoothEnd (Consists Smooth) closing text)
    (hunbroken : Consists (isLineBreak · = false) closing)
    (hends : closing.toList ≠ [] → EndsInked closing.toList)
    (hbraces : openings closing.toList = closings closing.toList + rise) : Regular rise text := by
  obtain ⟨word, rest, hword, hrest, htext⟩ := h
  obtain ⟨hsmooth, hphrase⟩ := smooth_phrase hword hrest
  have hbegins : BeginsInked (phrase word rest) := hword.beginsInked.append _
  constructor
  case unbroken =>
    rw [htext, List.forall_mem_append]
    exact ⟨fun c hc => (hsmooth c hc).2.2, hunbroken⟩
  case begins =>
    rw [htext]
    exact hbegins.append _
  case ends =>
    rw [htext]
    by_cases hnone : closing.toList = []
    · rwa [hnone, List.append_nil]
    · exact (hends hnone).append _
  case forward =>
    obtain ⟨c, cs, hchars, -⟩ := hbegins
    have hc := (hsmooth c (hchars ▸ List.mem_cons_self)).2.1
    rw [htext, hchars, List.cons_append, beginsClosing]
    simpa using hc
  case braces =>
    have hopening : (phrase word rest).count '\x7b' = 0 :=
      List.count_eq_zero.mpr fun hmem => (hsmooth _ hmem).1 rfl
    have hclosing : (phrase word rest).count '\x7d' = 0 :=
      List.count_eq_zero.mpr fun hmem => (hsmooth _ hmem).2.1 rfl
    rw [openings, closings] at hbraces ⊢
    rw [htext, List.count_append, List.count_append, hopening, hclosing, hbraces]
    omega

theorem regular_of_isStatement
    (h : IsStatement SmoothEnd (Consists Smooth) text) : Regular 0 text := by
  rcases h with h | h
  · exact regular_of_worded h (by decide) (fun hne => absurd rfl hne) rfl
  · exact regular_of_worded h (by decide) (fun _ => ⟨" \x7b".toList, '\x7d', rfl, by decide⟩) rfl

theorem regular_of_isHeader
    (h : IsHeader SmoothEnd (Consists Smooth) text) : Regular 1 text :=
  regular_of_worded h (by decide) (fun _ => ⟨[' '], '\x7b', rfl, by decide⟩) rfl

end Wording

end C4Model.Layout
