import C4Model.Proofs.Layout.Reindent
import C4Model.Proofs.Text.Content
import Mathlib.Logic.Relation

/-! What indenting anew depends on: of a blank line on all of it, of any other line on what stands between
the blanks at its ends. Indenting changes only these blanks, so nothing of an earlier indentation is left
after a later one. An empty line at the end of a fragment is the exception: the separator before it is read
as the end of the line above, so it lasts for one pass only. -/

namespace C4Model.Layout

open Text (AllBlank Unbroken isBlankText isLineBreak joinLines linesText splitLines splitLinesFrom strip
  stripBlanks)

/-- What indenting anew takes of a line: a blank one as it is, any other without the blanks around it. -/
def content (line : String) : String :=
  if isBlankText line then line else strip line

section Content

variable {line other : String}

theorem content_of_blank (h : isBlankText line = true) : content line = line :=
  if_pos h

theorem content_of_inked (h : isBlankText line = false) : content line = strip line :=
  if_neg (by rw [h]; exact Bool.false_ne_true)

theorem isBlankText_content (line : String) : isBlankText (content line) = isBlankText line := by
  rw [content]
  split
  · rfl
  · exact Text.isBlankText_strip line

theorem content_eq_empty_iff : content line = "" ↔ line = "" := by
  constructor
  · intro hempty
    have hblank := isBlankText_content line
    rw [hempty, eq_comm] at hblank
    rwa [content_of_blank hblank] at hempty
  · rintro rfl
    rfl

theorem content_margin_strip (h : isBlankText line = false) (width : Int) (depth : Nat) :
    content (margin width depth ++ strip line) = content line := by
  have hinked : isBlankText (margin width depth ++ strip line) = false := by
    rw [isBlankText_margin, Text.isBlankText_strip, h]
  have hstripped := Text.stripBlanks_between (allBlank_margin width depth) (List.forall_mem_nil _)
    (stripBlanks line.toList)
  rw [List.append_nil, Text.stripBlanks_stripBlanks] at hstripped
  rw [content_of_inked hinked, content_of_inked h, strip, strip, String.toList_append,
    String.toList_ofList, hstripped]

end Content

/-- Indenting anew leaves of every line what it takes of it. -/
theorem map_content_reindentLines (width : Int) (depth : Nat) (lines : List String) :
    (reindentLines width depth lines).map content = lines.map content := by
  induction lines generalizing depth with
  | nil => rfl
  | cons line rest ih =>
      cases h : isBlankText line with
      | true => rw [reindentLines_blank h, List.map_cons, List.map_cons, ih]
      | false =>
          rw [reindentLines_inked h, List.map_cons, List.map_cons, content_margin_strip h, ih]

/-- Lines of which indenting takes the same are indented to the same, whatever the braces in them. -/
theorem reindentLines_congr {lines others : List String} (h : lines.map content = others.map content)
    (width : Int) (depth : Nat) : reindentLines width depth lines = reindentLines width depth others := by
  induction lines generalizing others depth with
  | nil =>
      rw [List.map_nil, eq_comm, List.map_eq_nil_iff] at h
      rw [h]
  | cons line rest ih =>
      obtain ⟨other, others, rfl⟩ : ∃ other tail, others = other :: tail :=
        List.exists_cons_of_ne_nil (by rintro rfl; cases h)
      obtain ⟨hline, hrest⟩ := List.cons.inj h
      have hsame : isBlankText line = isBlankText other := by
        rw [← isBlankText_content line, hline, isBlankText_content]
      cases hblank : isBlankText line with
      | true =>
          rw [content_of_blank hblank, content_of_blank (hsame ▸ hblank)] at hline
          rw [reindentLines_blank hblank, reindentLines_blank (hsame ▸ hblank), ih hrest, hline]
      | false =>
          rw [content_of_inked hblank, content_of_inked (hsame ▸ hblank)] at hline
          rw [reindentLines_inked hblank, reindentLines_inked (hsame ▸ hblank), ih hrest, hline]

/-- Of two passes the second alone counts. -/
theorem reindentLines_reindentLines (first second : Int) (before depth : Nat) (lines : List String) :
    reindentLines second depth (reindentLines first before lines) = reindentLines second depth lines :=
  reindentLines_congr (map_content_reindentLines first before lines) second depth

theorem unbroken_reindentLines {lines : List String} (h : ∀ line ∈ lines, Unbroken line)
    (width : Int) (depth : Nat) :
    ∀ line ∈ reindentLines width depth lines, Unbroken line := by
  induction lines generalizing depth with
  | nil => exact h
  | cons line rest ih =>
      obtain ⟨hline, hrest⟩ := List.forall_mem_cons.mp h
      cases hblank : isBlankText line with
      | true =>
          rw [reindentLines_blank hblank]
          exact List.forall_mem_cons.mpr ⟨hline, ih hrest depth⟩
      | false =>
          rw [reindentLines_inked hblank]
          refine List.forall_mem_cons.mpr ⟨unbroken_margin fun c hc => ?_, ih hrest _⟩
          rw [strip, String.toList_ofList] at hc
          exact hline c (Text.mem_of_mem_stripBlanks hc)

/-- An empty line at the end stays one, and none comes to be there. -/
theorem getLast?_reindentLines_eq_empty_iff {width : Int} {depth : Nat} {lines : List String} :
    (reindentLines width depth lines).getLast? = some "" ↔ lines.getLast? = some "" := by
  have hempty : ∀ lines : List String,
      (lines.map content).getLast? = some "" ↔ lines.getLast? = some "" := by
    intro lines
    simp [content_eq_empty_iff]
  rw [← hempty, map_content_reindentLines, hempty]

theorem unbroken_reindented (width : Int) (fragment : String) :
    ∀ line ∈ reindentLines width 0 (splitLines fragment), Unbroken line :=
  unbroken_reindentLines (fun _ => Text.unbroken_of_mem_splitLines) width 0

/-- The lines of an indented fragment are the indented lines, unless the last of them is empty. -/
theorem splitLines_reindent {fragment : String} (h : (splitLines fragment).getLast? ≠ some "")
    (width : Int) :
    splitLines (reindent width fragment) = reindentLines width 0 (splitLines fragment) := by
  have hunbroken := unbroken_reindented width fragment
  have hlast : (reindentLines width 0 (splitLines fragment)).getLast? ≠ some "" :=
    fun hempty => h (getLast?_reindentLines_eq_empty_iff.mp hempty)
  rw [reindent]
  generalize reindentLines width 0 (splitLines fragment) = lines at hlast hunbroken
  rcases List.eq_nil_or_concat lines with rfl | ⟨front, last, rfl⟩
  · rfl
  · rw [List.concat_eq_append] at hlast hunbroken ⊢
    refine Text.splitLines_joinLines (fun hempty => hlast ?_) hunbroken
    rw [List.getLast?_concat, hempty]

theorem reindentLines_concat_empty (width : Int) (depth : Nat) (lines : List String) :
    reindentLines width depth (lines ++ [""]) = reindentLines width depth lines ++ [""] := by
  induction lines generalizing depth with
  | nil => rfl
  | cons line rest ih =>
      cases hblank : isBlankText line with
      | true =>
          rw [List.cons_append, reindentLines_blank hblank, reindentLines_blank hblank, ih,
            List.cons_append]
      | false =>
          rw [List.cons_append, reindentLines_inked hblank, reindentLines_inked hblank, ih,
            List.cons_append]

/-- A fragment whose last line is empty loses it in the second pass. -/
theorem reindent_reindent_of_empty_line {fragment : String} {front : List String}
    (h : splitLines fragment = front ++ [""]) (first second : Int) :
    reindent second (reindent first fragment) = joinLines (reindentLines second 0 front) ∧
      reindent second fragment = joinLines (reindentLines second 0 front ++ [""]) := by
  have hunbroken := unbroken_reindented first fragment
  rw [h, reindentLines_concat_empty, List.forall_mem_append] at hunbroken
  have hlines : splitLines (reindent first fragment) = reindentLines first 0 front := by
    rw [reindent, h, reindentLines_concat_empty, Text.splitLines_joinLines_empty hunbroken.1]
  constructor
  · rw [reindent, hlines, reindentLines_reindentLines]
  · rw [reindent, h, reindentLines_concat_empty]

/-- Two passes come to the second one, unless there is an empty line at the end to be lost. -/
theorem reindent_reindent_iff {first second : Int} {fragment : String} :
    reindent second (reindent first fragment) = reindent second fragment ↔
      ((splitLines fragment).getLast? = some "" → splitLines fragment = [""]) := by
  by_cases hlast : (splitLines fragment).getLast? = some ""
  · obtain ⟨front, hfront⟩ := List.getLast?_eq_some_iff.mp hlast
    obtain ⟨htwice, honce⟩ := reindent_reindent_of_empty_line hfront first second
    rw [htwice, honce, hfront]
    by_cases hempty : front = []
    · rw [hempty]
      exact iff_of_true rfl fun _ => rfl
    · have hsome : reindentLines second 0 front ≠ [] := by
        intro hnone
        have hkept := map_content_reindentLines second 0 front
        rw [hnone, List.map_nil, eq_comm, List.map_eq_nil_iff] at hkept
        exact hempty hkept
      refine iff_of_false (fun hsame => ?_) fun hlines => hempty ?_
      · have hlength := congrArg List.length (congrArg String.toList hsame)
        rw [Text.toList_joinLines, Text.linesText_eq_joinLines hsome] at hlength
        simp at hlength
      · exact List.append_left_eq_self.mp (hlines List.getLast?_concat)
  · refine iff_of_true ?_ fun h => absurd h hlast
    rw [reindent, splitLines_reindent hlast, reindentLines_reindentLines, ← reindent]

/-- Blanks that end no line. -/
def Padding (cs : List Char) : Prop :=
  ∀ c ∈ cs, Text.isBlank c = true ∧ isLineBreak c = false

instance (cs : List Char) : Decidable (Padding cs) :=
  List.decidableBAll (fun c => Text.isBlank c = true ∧ isLineBreak c = false) cs

/-- A text, and the same text with blanks added at the ends of one of its lines, which is not a blank one. -/
inductive Padded : String → String → Prop
  | line (before left line right after : List Char)
      (hbefore : ∀ c ∈ before.getLast?, isLineBreak c = true)
      (hafter : ∀ c ∈ after.head?, isLineBreak c = true)
      (hline : ∀ c ∈ line, isLineBreak c = false) (hinked : ¬AllBlank line)
      (hleft : Padding left) (hright : Padding right) :
      Padded (String.ofList (before ++ (line ++ after)))
        (String.ofList (before ++ ((left ++ (line ++ right)) ++ after)))

theorem splitLines_between {before line after : List Char}
    (hbefore : ∀ c ∈ before.getLast?, isLineBreak c = true)
    (hafter : ∀ c ∈ after.head?, isLineBreak c = true)
    (hline : ∀ c ∈ line, isLineBreak c = false) (hsome : line ≠ []) :
    splitLines (String.ofList (before ++ (line ++ after))) =
      (splitLinesFrom [] before).map String.ofList ++
        String.ofList line :: ((splitLinesFrom [] after).tail).map String.ofList := by
  obtain ⟨c, rest, rfl⟩ := List.exists_cons_of_ne_nil hsome
  have hhead : ((c :: rest) ++ after).head? ≠ some '\n' := by
    intro hnewline
    obtain rfl := Option.some.inj hnewline
    exact absurd (hline '\n' List.mem_cons_self) (by decide)
  have hread : splitLinesFrom [] ((c :: rest) ++ after) = (c :: rest) :: (splitLinesFrom [] after).tail :=
    Text.splitLinesFrom_line_append hline hafter fun _ => hsome
  rw [splitLines, String.toList_ofList, Text.splitLinesFrom_append hbefore (fun _ => rfl) hhead, hread,
    List.map_append, List.map_cons]

theorem content_padded {line left right : List Char} (hinked : ¬AllBlank line) (hleft : AllBlank left)
    (hright : AllBlank right) :
    content (String.ofList (left ++ (line ++ right))) = content (String.ofList line) := by
  have hwide : isBlankText (String.ofList (left ++ (line ++ right))) = false := by
    rw [Bool.eq_false_iff, Ne, Text.isBlankText_iff, String.toList_ofList]
    exact fun h => hinked fun c hc => h c (List.mem_append_right _ (List.mem_append_left _ hc))
  have hnarrow : isBlankText (String.ofList line) = false := by
    rwa [Bool.eq_false_iff, Ne, Text.isBlankText_iff, String.toList_ofList]
  rw [content_of_inked hwide, content_of_inked hnarrow, strip, strip, String.toList_ofList,
    String.toList_ofList, Text.stripBlanks_between hleft hright]

theorem Padded.reindent_eq {text padded : String} (h : Padded text padded) (width : Int) :
    reindent width text = reindent width padded := by
  obtain ⟨before, left, line, right, after, hbefore, hafter, hline, hinked, hleft, hright⟩ := h
  have hsome : line ≠ [] := by
    rintro rfl
    exact hinked (List.forall_mem_nil _)
  have hpadded : ∀ c ∈ left ++ (line ++ right), isLineBreak c = false :=
    List.forall_mem_append.mpr ⟨fun c hc => (hleft c hc).2,
      List.forall_mem_append.mpr ⟨hline, fun c hc => (hright c hc).2⟩⟩
  rw [reindent, reindent]
  refine congrArg joinLines (reindentLines_congr ?_ width 0)
  rw [splitLines_between hbefore hafter hline hsome,
    splitLines_between hbefore hafter hpadded (by simp [hsome]), List.map_append, List.map_append,
    List.map_cons, List.map_cons, content_padded hinked (fun c hc => (hleft c hc).1)
      fun c hc => (hright c hc).1]

/-- Indenting anew depends on what stands on the lines alone. Of two passes the second decides, whatever the
widths and the braces are, unless the first has dropped an empty line at the end of several. Blanks that come
or go at the ends of lines make no difference, blank lines apart. -/
theorem reindent_by_content :
    (∀ (first second : Int) (fragment : String),
      reindent second (reindent first fragment) = reindent second fragment ↔
        ((splitLines fragment).getLast? = some "" → splitLines fragment = [""])) ∧
    ∀ text other : String, Relation.EqvGen Padded text other →
      ∀ width, reindent width text = reindent width other := by
  refine ⟨fun first second fragment => reindent_reindent_iff, fun text other h width => ?_⟩
  induction h with
  | rel text padded h => exact h.reindent_eq width
  | refl text => rfl
  | symm text other _ ih => exact ih.symm
  | trans text between other _ _ ihfirst ihsecond => exact ihfirst.trans ihsecond

/-- A fragment that closes more than it opens, with line separators and blanks of several kinds. -/
def ragged : String :=
  "\x7d crate \x7b\r\n\u3000box\u2028 \n\tlid \x7d \x7d"

/-- Its second line is indented by its braces alone, and its blank line stays as it is. -/
theorem reindent_ragged :
    reindent 2 (reindent 8 ragged) = reindent 2 ragged ∧
      reindent 2 ragged = "\x7d crate \x7b\n  box\n \n  lid \x7d \x7d" ∧
      Relation.EqvGen Padded "\tbox\r\n\x7d" "box \r\n\x7d" ∧
      ∀ width, reindent width "\tbox\r\n\x7d" = reindent width "box \r\n\x7d" := by
  have hinked : ¬AllBlank "box".toList := fun h => absurd (h 'b' (by decide)) (by decide)
  have hline : Unbroken "box" := by decide
  have hafter : ∀ c ∈ "\r\n\x7d".toList.head?, isLineBreak c = true := by
    rintro _ ⟨⟩
    rfl
  have hleft : Padded "box\r\n\x7d" "\tbox\r\n\x7d" :=
    .line [] ['\t'] "box".toList [] "\r\n\x7d".toList nofun hafter hline hinked (by decide) (by decide)
  have hright : Padded "box\r\n\x7d" "box \r\n\x7d" :=
    .line [] [] "box".toList [' '] "\r\n\x7d".toList nofun hafter hline hinked (by decide) (by decide)
  have hsame : Relation.EqvGen Padded "\tbox\r\n\x7d" "box \r\n\x7d" :=
    .trans _ _ _ (.symm _ _ (.rel _ _ hleft)) (.rel _ _ hright)
  exact ⟨(reindent_by_content.1 8 2 ragged).mpr (by decide), by decide +kernel, hsame,
    reindent_by_content.2 _ _ hsame⟩

end C4Model.Layout
