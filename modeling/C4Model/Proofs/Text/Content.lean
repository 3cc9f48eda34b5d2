import C4Model.Proofs.Text.Blank
import C4Model.Proofs.Text.Lines
import Mathlib.Data.List.Induction

/-! What stands on the lines of a text, but for the blanks around it. The writer ends a line at a line feed
only, while a fragment that is indented anew is read with every line separator as an end. Both find the same
lines with something on them exactly if no separator but line feeds stands inside a line. -/

namespace C4Model.Text

/-- Lines without the blanks around them, and without those on which nothing stands. -/
def inked (lines : List String) : List String :=
  (lines.map strip).filter fun line => !line.isEmpty

/-- What stands on the lines of a text between its line feeds. -/
def contentLines (text : String) : List String :=
  inked (splitOnChar '\n' text)

/-- What stands on the lines of a text between line separators of all kinds. -/
def separateLines (text : String) : List String :=
  inked (splitLines text)

/-- No line separator is in the text. -/
def Unbroken (text : String) : Prop :=
  ∀ c ∈ text.toList, isLineBreak c = false

instance (text : String) : Decidable (Unbroken text) :=
  List.decidableBAll (fun c => isLineBreak c = false) text.toList

theorem inked_append (first second : List String) :
    inked (first ++ second) = inked first ++ inked second := by
  simp [inked]

theorem inked_cons (line : String) (rest : List String) :
    inked (line :: rest) = inked [line] ++ inked rest :=
  inked_append [line] rest

theorem inked_eq_flatMap (lines : List String) :
    inked lines = lines.flatMap fun line => inked [line] := by
  induction lines with
  | nil => rfl
  | cons line rest ih => rw [inked_cons, ih, List.flatMap_cons]

theorem inked_of_allBlank {line : String} (h : AllBlank line.toList) : inked [line] = [] := by
  simp [inked, strip, stripBlanks_of_allBlank h]

/-- Blanks around a line make no difference. -/
theorem inked_between {before after : List Char} (hbefore : AllBlank before) (hafter : AllBlank after)
    (cs : List Char) :
    inked [String.ofList (before ++ (cs ++ after))] = inked [String.ofList cs] := by
  simp only [inked, List.map_singleton, strip, String.toList_ofList,
    stripBlanks_between hbefore hafter]

theorem inked_strip (line : String) : inked [strip line] = inked [line] := by
  simp only [inked, List.map_singleton, strip, String.toList_ofList, stripBlanks_stripBlanks]

theorem strip_mem_inked {lines : List String} {line : String} (h : line ∈ lines)
    (hsome : strip line ≠ "") : strip line ∈ inked lines :=
  List.mem_filter.mpr ⟨List.mem_map_of_mem h, by simpa using hsome⟩

theorem exists_of_mem_inked {lines : List String} {line : String} (h : line ∈ inked lines) :
    ∃ whole ∈ lines, strip whole = line :=
  List.mem_map.mp (List.mem_filter.mp h).1

theorem contentLines_of_not_mem {line : String} (h : '\n' ∉ line.toList) :
    contentLines line = inked [line] := by
  rw [contentLines, splitOnChar_of_not_mem h]

theorem contentLines_joinLines (lines : List String) :
    contentLines (joinLines lines) = lines.flatMap contentLines := by
  by_cases hlines : lines = []
  · rw [hlines]
    rfl
  · rw [contentLines, joinLines, splitOnChar_intercalate rfl hlines, inked_eq_flatMap,
      List.flatMap_assoc]
    exact List.flatMap_congr fun line _ => (inked_eq_flatMap _).symm

/-- The lines with something on them, read off the characters. -/
def inkedPieces (cs : List Char) : List String :=
  inked ((cs.splitOnP isLineBreak).map String.ofList)

/-- Pieces end at line separators: all else follows from this. -/
theorem inkedPieces_append_break {c : Char} (hc : isLineBreak c = true) (front rest : List Char) :
    inkedPieces (front ++ c :: rest) = inkedPieces front ++ inkedPieces rest := by
  rw [inkedPieces, List.splitOnP_append_cons front rest hc, List.map_append, inked_append]
  rfl

theorem inkedPieces_of_unbroken {cs : List Char} (h : ∀ c ∈ cs, isLineBreak c = false) :
    inkedPieces cs = inked [String.ofList cs] := by
  rw [inkedPieces, List.splitOnP_eq_singleton h, List.map_singleton]

theorem inkedPieces_cons_break {c : Char} (hc : isLineBreak c = true) (rest : List Char) :
    inkedPieces (c :: rest) = inkedPieces rest :=
  inkedPieces_append_break hc [] rest

/-- A carriage return and the line feed after it end one line or two; nothing stands between them. -/
theorem inked_splitLinesFrom {current : List Char} (hcurrent : ∀ c ∈ current, isLineBreak c = false)
    (cs : List Char) :
    inked ((splitLinesFrom current cs).map String.ofList) = inkedPieces (current.reverse ++ cs) := by
  have hpiece : inkedPieces current.reverse = inked [String.ofList current.reverse] :=
    inkedPieces_of_unbroken fun c hc => hcurrent c (List.mem_reverse.mp hc)
  have hstart : ∀ c ∈ ([] : List Char), isLineBreak c = false := List.forall_mem_nil _
  induction current, cs using splitLinesFrom.induct with
  | case1 current hempty =>
      rw [splitLinesFrom_nil, if_pos hempty, List.isEmpty_iff.mp hempty]
      rfl
  | case2 current hsome =>
      rw [splitLinesFrom_nil, if_neg hsome, List.append_nil, hpiece]
      rfl
  | case3 current rest ih =>
      rw [splitLinesFrom_return, List.map_cons, inked_cons, ih hstart (inkedPieces_of_unbroken hstart),
        inkedPieces_append_break rfl, inkedPieces_cons_break rfl, hpiece]
      rfl
  | case4 current c rest hreturn hbreak ih =>
      rw [splitLinesFrom_cons current hreturn, if_pos hbreak, List.map_cons, inked_cons,
        ih hstart (inkedPieces_of_unbroken hstart), inkedPieces_append_break hbreak, hpiece]
      rfl
  | case5 current c rest hreturn hplain ih =>
      have hnext : ∀ d ∈ c :: current, isLineBreak d = false :=
        List.forall_mem_cons.mpr ⟨Bool.eq_false_iff.mpr hplain, hcurrent⟩
      rw [splitLinesFrom_cons current hreturn, if_neg hplain,
        ih hnext (inkedPieces_of_unbroken fun d hd => hnext d (List.mem_reverse.mp hd)),
        List.reverse_cons, List.append_assoc, List.singleton_append]

theorem separateLines_eq (text : String) : separateLines text = inkedPieces text.toList :=
  inked_splitLinesFrom (List.forall_mem_nil _) text.toList

theorem separateLines_eq_flatMap (text : String) :
    separateLines text = (splitOnChar '\n' text).flatMap separateLines := by
  have hlines : ∀ lines : List String,
      inkedPieces (linesText lines) = lines.flatMap separateLines := by
    intro lines
    induction lines with
    | nil => rfl
    | cons line rest ih =>
        have hchars : linesText (line :: rest) = line.toList ++ '\n' :: linesText rest := by
          simp [linesText]
        rw [hchars, inkedPieces_append_break rfl, ih, List.flatMap_cons, separateLines_eq]
  have hend : inkedPieces (text.toList ++ ['\n']) = inkedPieces text.toList := by
    rw [inkedPieces_append_break rfl]
    exact List.append_nil _
  rw [separateLines_eq, ← hend, ← linesText_splitOnChar, hlines]

/-- Of what stands before a text, only the last line is on a line with it. -/
theorem exists_last_line (before : List Char) :
    ∃ (lines : List String) (left : List Char), left <:+ before ∧
      (∀ c ∈ left, isLineBreak c = false) ∧
        ∀ cs, inkedPieces (before ++ cs) = lines ++ inkedPieces (left ++ cs) := by
  induction before using List.reverseRecOn with
  | nil => exact ⟨[], [], List.suffix_rfl, List.forall_mem_nil _, fun _ => rfl⟩
  | append_singleton before c ih =>
      obtain ⟨lines, left, hleft_end, hleft, hpieces⟩ := ih
      by_cases hc : isLineBreak c = true
      · refine ⟨inkedPieces before, [], List.nil_suffix, List.forall_mem_nil _, fun cs => ?_⟩
        rw [List.append_assoc, List.singleton_append, inkedPieces_append_break hc, List.nil_append]
      · refine ⟨lines, left ++ [c], (List.suffix_append_inj_of_length_eq rfl).mpr ⟨hleft_end, rfl⟩, ?_,
          fun cs => ?_⟩
        · exact List.forall_mem_append.mpr
            ⟨hleft, List.forall_mem_singleton.mpr (Bool.eq_false_iff.mpr hc)⟩
        · rw [List.append_assoc, List.append_assoc, hpieces]

/-- Of what stands after a text, only the first line is on a line with it. -/
theorem exists_first_line (after : List Char) :
    ∃ (right : List Char) (lines : List String), right <+: after ∧
      (∀ c ∈ right, isLineBreak c = false) ∧
        ∀ cs, inkedPieces (cs ++ after) = inkedPieces (cs ++ right) ++ lines := by
  induction after with
  | nil => exact ⟨[], [], List.prefix_rfl, List.forall_mem_nil _, fun _ => (List.append_nil _).symm⟩
  | cons c after ih =>
      obtain ⟨right, lines, hright_front, hright, hpieces⟩ := ih
      by_cases hc : isLineBreak c = true
      · refine ⟨[], inkedPieces after, List.nil_prefix, List.forall_mem_nil _, fun cs => ?_⟩
        rw [inkedPieces_append_break hc, List.append_nil]
      · refine ⟨c :: right, lines, (List.prefix_cons_inj c).mpr hright_front, ?_, fun cs => ?_⟩
        · exact List.forall_mem_cons.mpr ⟨Bool.eq_false_iff.mpr hc, hright⟩
        · rw [← List.singleton_append, ← List.append_assoc, hpieces, List.append_assoc,
            List.singleton_append]

/-- A text without line separators stands on one line, with what is before and after it on that line. -/
theorem exists_line_around (before after : List Char) :
    ∃ (above below : List String) (left right : List Char), left <:+ before ∧ right <+: after ∧
      ∀ cs, (∀ c ∈ cs, isLineBreak c = false) → inkedPieces (before ++ (cs ++ after)) =
        above ++ (inked [String.ofList (left ++ (cs ++ right))] ++ below) := by
  obtain ⟨above, left, hleft_end, hleft, habove⟩ := exists_last_line before
  obtain ⟨right, below, hright_front, hright, hbelow⟩ := exists_first_line after
  refine ⟨above, below, left, right, hleft_end, hright_front, fun cs hcs => ?_⟩
  have hline : ∀ c ∈ left ++ (cs ++ right), isLineBreak c = false :=
    List.forall_mem_append.mpr ⟨hleft, List.forall_mem_append.mpr ⟨hcs, hright⟩⟩
  rw [habove, ← List.append_assoc left, hbelow, List.append_assoc left, inkedPieces_of_unbroken hline]

theorem inkedPieces_of_allBlank {cs : List Char} (h : AllBlank cs) : inkedPieces cs = [] := by
  induction cs with
  | nil => rfl
  | cons c rest ih =>
      obtain ⟨hc, hrest⟩ := List.forall_mem_cons.mp h
      have hnone := ih hrest
      by_cases hbreak : isLineBreak c = true
      · rw [inkedPieces_cons_break hbreak, hnone]
      · obtain ⟨right, lines, hright_front, hright, hpieces⟩ := exists_first_line rest
        rw [← List.nil_append rest, hpieces, List.append_eq_nil_iff] at hnone
        have hline : ∀ d ∈ c :: right, isLineBreak d = false :=
          List.forall_mem_cons.mpr ⟨Bool.eq_false_iff.mpr hbreak, hright⟩
        have hblank : AllBlank (String.ofList (c :: right)).toList := by
          rw [String.toList_ofList]
          exact List.forall_mem_cons.mpr ⟨hc, fun d hd => hrest d (hright_front.subset hd)⟩
        rw [← List.singleton_append, hpieces, hnone.2, List.append_nil, List.singleton_append,
          inkedPieces_of_unbroken hline, inked_of_allBlank hblank]

/-- Line separators at the ends of a line make no difference. -/
theorem separateLines_of_unbroken_strip {line : String} (h : Unbroken (strip line)) :
    separateLines line = inked [line] := by
  rw [Unbroken, strip, String.toList_ofList] at h
  obtain ⟨before, after, hbefore, hafter, hchars⟩ := exists_blanks_around line.toList
  generalize stripBlanks line.toList = middle at h hchars
  obtain ⟨above, below, left, right, hleft, hright, hpieces⟩ := exists_line_around before after
  -- with nothing between the blanks there are no lines at all, so there are none above and below
  have hnone : inkedPieces (before ++ ([] ++ after)) = [] :=
    inkedPieces_of_allBlank (List.forall_mem_append.mpr ⟨hbefore, hafter⟩)
  rw [hpieces [] (List.forall_mem_nil _), List.append_eq_nil_iff, List.append_eq_nil_iff] at hnone
  have hline : line = String.ofList (before ++ (middle ++ after)) := by
    rw [← hchars, String.ofList_toList]
  rw [separateLines_eq, hchars, hpieces middle h, hnone.1, hnone.2.2, List.nil_append, List.append_nil,
    hline, inked_between hbefore hafter]
  exact inked_between (fun c hc => hbefore c (hleft.subset hc))
    (fun c hc => hafter c (hright.subset hc)) _

theorem unbroken_of_mem_separateLines {text line : String} (h : line ∈ separateLines text) :
    Unbroken line := by
  obtain ⟨whole, hwhole, rfl⟩ := exists_of_mem_inked h
  intro c hc
  rw [strip, String.toList_ofList] at hc
  exact unbroken_of_mem_splitLines hwhole c (mem_of_mem_stripBlanks hc)

theorem separateLines_eq_contentLines_iff {text : String} :
    separateLines text = contentLines text ↔ ∀ line ∈ contentLines text, Unbroken line := by
  constructor
  · intro hsame line hline
    exact unbroken_of_mem_separateLines (hsame ▸ hline)
  · intro hunbroken
    rw [separateLines_eq_flatMap, contentLines, inked_eq_flatMap]
    refine List.flatMap_congr fun line hline => separateLines_of_unbroken_strip ?_
    by_cases hempty : strip line = ""
    · rw [hempty]
      exact List.forall_mem_nil _
    · exact hunbroken _ (strip_mem_inked hline hempty)

/-- A part of a text that begins and ends with no blank stands on one line, if no line separator is in it. -/
theorem exists_separateLine_of_infix {text part : String} (h : part.toList <:+: text.toList)
    (hbegins : BeginsInked part.toList) (hends : EndsInked part.toList) (hunbroken : Unbroken part) :
    ∃ line ∈ separateLines text, part.toList <:+: line.toList := by
  obtain ⟨before, after, htext⟩ := h
  obtain ⟨above, below, left, right, -, -, hpieces⟩ := exists_line_around before after
  have hkept : part.toList <:+: (strip (String.ofList (left ++ (part.toList ++ right)))).toList := by
    rw [strip, String.toList_ofList, String.toList_ofList]
    exact infix_stripBlanks ⟨left, right, List.append_assoc ..⟩ hbegins hends
  have hsome : strip (String.ofList (left ++ (part.toList ++ right))) ≠ "" := by
    intro hempty
    rw [hempty, String.toList_empty, List.infix_nil] at hkept
    exact hends.ne_nil hkept
  refine ⟨_, ?_, hkept⟩
  rw [separateLines_eq, ← htext, List.append_assoc, hpieces _ hunbroken]
  exact List.mem_append_right _ (List.mem_append_left _ (strip_mem_inked List.mem_cons_self hsome))

end C4Model.Text
