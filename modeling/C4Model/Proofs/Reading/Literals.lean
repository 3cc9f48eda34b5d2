import C4Model.Proofs.Layout.Reflow
import C4Model.Proofs.Layout.Wording

/-! The literals of a text, in the order in which they stand. A literal may go over several lines. When such
lines are spliced, each but the first gets a margin that becomes part of the literal, and a blank one
between the first and the last is emptied. So a literal is found as it was written if it is in one line. -/

namespace C4Model.Reading

open Layout
open Text (linesText splitAtChar splitOnChar isBlankText)

/-- The texts that stand in literals; none if the last one is not closed. -/
def literals : List Char → Option (List String)
  | [] => some []
  | c :: rest =>
      if c = '"' then
        match _h : Literal.scan rest with
        | some (text, after) => (literals after).map (String.ofList text :: ·)
        | none => none
      else literals rest
termination_by cs => cs.length
decreasing_by
  · exact Nat.lt_trans (length_scan _h) (by simp)
  · simp

theorem literals_nil : literals [] = some [] := by
  rw [literals]

theorem literals_cons {c : Char} (hc : c ≠ '"') (rest : List Char) :
    literals (c :: rest) = literals rest := by
  rw [literals, if_neg hc]

theorem literals_quote {rest text after : List Char} (h : Literal.scan rest = some (text, after)) :
    literals ('"' :: rest) = (literals after).map (String.ofList text :: ·) := by
  rw [literals, if_pos rfl]
  split
  · rename_i text' after' hscan
    rw [h] at hscan
    obtain ⟨rfl, rfl⟩ := Prod.mk.inj (Option.some.inj hscan)
    rfl
  · rename_i hscan
    rw [h] at hscan
    cases hscan

/-- Whatever comes after the characters, they hold the literals of these texts. -/
def Holds (texts : List String) (cs : List Char) : Prop :=
  ∀ rest, literals (cs ++ rest) = (literals rest).map (texts ++ ·)

theorem Holds.append {texts others : List String} {first second : List Char}
    (hfirst : Holds texts first) (hsecond : Holds others second) :
    Holds (texts ++ others) (first ++ second) := by
  intro rest
  rw [List.append_assoc, hfirst, hsecond, Option.map_map]
  refine congrArg (Option.map · _) (funext fun found => ?_)
  rw [Function.comp_apply, List.append_assoc]

theorem Holds.literals {texts : List String} {cs : List Char} (h : Holds texts cs) :
    literals cs = some texts := by
  have hrest := h []
  rw [List.append_nil, literals_nil] at hrest
  rw [hrest, Option.map_some, List.append_nil]

theorem holds_nothing {cs : List Char} (h : '"' ∉ cs) : Holds [] cs := by
  intro rest
  have hsame : (literals rest).map ([] ++ ·) = literals rest := Option.map_id'
  rw [hsame]
  induction cs with
  | nil => rfl
  | cons c cs ih =>
      rw [List.mem_cons, not_or] at h
      rw [List.cons_append, literals_cons (Ne.symm h.1), ih h.2]

theorem holds_quote (text : String) : Holds [text] (Statement.quote text).toList := by
  intro rest
  rw [Statement.toList_quote, List.cons_append, List.append_assoc, List.singleton_append,
    literals_quote (Literal.scan_escapeChars _ _), String.ofList_toList]
  rfl

theorem escapeChars_append (first second : List Char) :
    Literal.escapeChars (first ++ second) =
      Literal.escapeChars first ++ Literal.escapeChars second := by
  simp only [Literal.escapeChars_eq_flatMap, List.flatMap_append]

theorem mem_escapeChars_iff {c : Char} (hc : c ≠ '\\') {cs : List Char} :
    c ∈ Literal.escapeChars cs ↔ c ∈ cs := by
  refine ⟨fun h => (Literal.eq_or_mem_of_mem_escapeChars h).resolve_left hc, fun h => ?_⟩
  rw [Literal.escapeChars_eq_flatMap]
  refine List.mem_flatMap.mpr ⟨c, h, ?_⟩
  split <;> simp

theorem escape_append (first second : String) :
    Literal.escape (first ++ second) = Literal.escape first ++ Literal.escape second := by
  rw [Literal.escape_eq, Literal.escape_eq, Literal.escape_eq, String.toList_append, escapeChars_append,
    String.ofList_append]

theorem escape_joinLines (lines : List String) :
    Literal.escape (Text.joinLines lines) = Text.joinLines (lines.map Literal.escape) := by
  have hbreak : Literal.escape "\n" = "\n" := by decide
  induction lines with
  | nil => rfl
  | cons line rest ih =>
      by_cases hrest : rest = []
      · simp [hrest, Text.joinLines]
      · have hmap : rest.map Literal.escape ≠ [] := by simpa using hrest
        rw [Text.joinLines_cons _ hrest, escape_append, escape_append, hbreak, ih, List.map_cons,
          Text.joinLines_cons _ hmap]

theorem isBlankText_escape (text : String) : isBlankText (Literal.escape text) = isBlankText text := by
  rw [isBlankText, isBlankText, Literal.toList_escape]
  induction text.toList with
  | nil => rfl
  | cons c cs ih =>
      rw [Literal.escapeChars]
      split
      · rename_i hc
        have hblank : Text.isBlank c = false := by
          rcases hc with rfl | rfl <;> rfl
        have hbackslash : Text.isBlank '\\' = false := rfl
        simp [hblank, hbackslash]
      · rw [List.all_cons, List.all_cons, ih]

theorem escape_margin_append (width : Int) (depth : Nat) (text : String) :
    Literal.escape (margin width depth ++ text) = margin width depth ++ Literal.escape text := by
  have hmargin : ∀ count, Literal.escapeChars (List.replicate count ' ') =
      List.replicate count ' ' := by
    intro count
    induction count with
    | zero => rfl
    | succ count ih =>
        rw [List.replicate_succ, Literal.escapeChars, if_neg (by decide), ih]
  rw [escape_append, margin, Literal.escape_eq, String.toList_ofList, hmargin]

theorem indented_escape (width : Int) (depth : Nat) (text : String) :
    indented (margin width depth) (Literal.escape text) =
      Literal.escape (indented (margin width depth) text) := by
  rw [indented, indented, isBlankText_escape]
  split
  · rfl
  · rw [escape_margin_append]

/-- The pieces of a text from its second line on, as they are found behind a margin. The last one stands in
front of a quote, so it has the margin even if it is blank. -/
def continued (margin : String) : List String → List String
  | [] => []
  | [last] => [margin ++ last]
  | piece :: rest => indented margin piece :: continued margin rest

/-- A text as it is found in a literal that was spliced behind a margin. -/
def carried (margin text : String) : String :=
  match splitOnChar '\n' text with
  | [] => text
  | first :: rest => Text.joinLines (first :: continued margin rest)

/-- Lines with a text after the last one. -/
def closing (text : String) : List String → List String
  | [] => []
  | [last] => [last ++ text]
  | line :: rest => line :: closing text rest

theorem closing_cons (text line : String) {rest : List String} (h : rest ≠ []) :
    closing text (line :: rest) = line :: closing text rest := by
  rw [closing]
  exact h

theorem continued_ne_nil (margin : String) {pieces : List String} (h : pieces ≠ []) :
    continued margin pieces ≠ [] := by
  fun_induction continued margin pieces with
  | case1 => exact h
  | case2 | case3 => exact List.cons_ne_nil _ _

theorem closing_ne_nil (text : String) {lines : List String} (h : lines ≠ []) :
    closing text lines ≠ [] := by
  fun_induction closing text lines with
  | case1 => exact h
  | case2 | case3 => exact List.cons_ne_nil _ _

theorem forall_mem_closing {p : String → Prop} {text : String} {lines : List String}
    (h : ∀ line ∈ lines, p line ∧ p (line ++ text)) : ∀ line ∈ closing text lines, p line := by
  fun_induction closing text lines with
  | case1 => exact fun _ hline => absurd hline List.not_mem_nil
  | case2 last => exact List.forall_mem_singleton.mpr (h last List.mem_cons_self).2
  | case3 line rest _ ih =>
      obtain ⟨hline, hrest⟩ := List.forall_mem_cons.mp h
      exact List.forall_mem_cons.mpr ⟨hline.1, ih hrest⟩

theorem joinLines_closing (text : String) {lines : List String} (h : lines ≠ []) :
    Text.joinLines (closing text lines) = Text.joinLines lines ++ text := by
  fun_induction closing text lines with
  | case1 => exact absurd rfl h
  | case2 last => simp [Text.joinLines]
  | case3 line rest hrest ih =>
      rw [Text.joinLines_cons _ (closing_ne_nil text hrest), Text.joinLines_cons _ hrest, ih hrest,
        String.append_assoc, String.append_assoc]

theorem isBlankText_append {text : String} (h : isBlankText text = false) (before : String) :
    isBlankText (before ++ text) = false := by
  rw [isBlankText] at h
  rw [isBlankText, String.toList_append, List.all_append, h, Bool.and_false]

theorem indented_of_not_blank {margin text : String} (h : isBlankText text = false) :
    indented margin text = margin ++ text := by
  rw [indented, h, if_neg Bool.false_ne_true]

theorem map_indented_closing {width : Int} {depth : Nat} {text : String}
    (htext : isBlankText text = false) (pieces : List String) :
    (closing text (pieces.map Literal.escape)).map (indented (margin width depth)) =
      closing text ((continued (margin width depth) pieces).map Literal.escape) := by
  fun_induction continued (margin width depth) pieces with
  | case1 => rfl
  | case2 last =>
      rw [List.map_singleton, List.map_singleton, closing, closing, List.map_singleton,
        indented_of_not_blank (isBlankText_append htext _), escape_margin_append, String.append_assoc]
  | case3 piece rest hrest ih =>
      have hmap : rest.map Literal.escape ≠ [] := by simpa using hrest
      have hmap' : (continued (margin width depth) rest).map Literal.escape ≠ [] := by
        simpa using continued_ne_nil _ hrest
      rw [List.map_cons, closing_cons _ _ hmap, List.map_cons, ih, List.map_cons,
        closing_cons _ _ hmap', indented_escape]

theorem newline_not_mem_escape {text : String} (h : '\n' ∉ text.toList) :
    '\n' ∉ (Literal.escape text).toList := by
  rwa [Literal.toList_escape, mem_escapeChars_iff (by decide)]

/-- Lines that end in quotes are not blank, wherever they come apart. -/
theorem map_indented_closing_cons (width : Int) (depth : Nat) {before after : String}
    (hbefore : isBlankText before = false) (hafter : isBlankText after = false) (first : String)
    (rest : List String) :
    (closing after ((before ++ Literal.escape first) :: rest.map Literal.escape)).map
        (indented (margin width depth)) =
      closing after ((margin width depth ++ (before ++ Literal.escape first)) ::
        (continued (margin width depth) rest).map Literal.escape) := by
  by_cases hrest : rest = []
  · rw [hrest, List.map_nil, continued, List.map_nil, closing, closing, List.map_singleton,
      indented_of_not_blank (isBlankText_append hafter _), String.append_assoc, String.append_assoc,
      String.append_assoc]
  · have hmap : rest.map Literal.escape ≠ [] := by simpa using hrest
    have hmap' : (continued (margin width depth) rest).map Literal.escape ≠ [] := by
      simpa using continued_ne_nil _ hrest
    have hfirst : isBlankText (before ++ Literal.escape first) = false := by
      rw [isBlankText] at hbefore
      rw [isBlankText, String.toList_append, List.all_append, hbefore, Bool.false_and]
    rw [closing_cons _ _ hmap, closing_cons _ _ hmap', List.map_cons, map_indented_closing hafter,
      indented_of_not_blank hfirst]

/-- A line with an escaped text in it, when it is spliced, is the line with what the text becomes. -/
theorem linesText_reflowed_escape (width : Int) (depth : Nat) {before after : String}
    (hbefore : Whole before) (hafter : Whole after) (text : String) :
    linesText (reflowed (margin width depth) (before ++ (Literal.escape text ++ after))) =
      linesText [margin width depth ++
        (before ++ (Literal.escape (carried (margin width depth) text) ++ after))] := by
  obtain ⟨first, rest, hpieces⟩ :=
    List.exists_cons_of_ne_nil (Text.splitOnChar_ne_nil '\n' text)
  have hcarried : carried (margin width depth) text =
      Text.joinLines (first :: continued (margin width depth) rest) := by
    rw [carried, hpieces]
  have hescape : Literal.escape text =
      Text.joinLines (Literal.escape first :: rest.map Literal.escape) := by
    rw [← List.map_cons, ← escape_joinLines, ← hpieces, Text.joinLines_splitOnChar]
  have hne : closing after ((before ++ Literal.escape first) :: rest.map Literal.escape) ≠ [] :=
    closing_ne_nil _ (List.cons_ne_nil _ _)
  have hfree : ∀ line ∈ closing after ((before ++ Literal.escape first) :: rest.map Literal.escape),
      '\n' ∉ line.toList := by
    have hpiece : ∀ piece ∈ first :: rest, '\n' ∉ (Literal.escape piece).toList :=
      fun piece hpiece =>
        newline_not_mem_escape (Text.not_mem_of_mem_splitOnChar (hpieces ▸ hpiece))
    obtain ⟨hfirst, hrest⟩ := List.forall_mem_cons.mp hpiece
    refine forall_mem_closing (List.forall_mem_cons.mpr ⟨?_, fun line hline => ?_⟩)
    · simpa [hbefore.1, hafter.1] using hfirst
    · obtain ⟨piece, hpiece, rfl⟩ := List.mem_map.mp hline
      simpa [hafter.1] using hrest piece hpiece
  have hline : before ++ (Literal.escape text ++ after) =
      Text.joinLines (closing after ((before ++ Literal.escape first) :: rest.map Literal.escape)) := by
    rw [joinLines_closing _ (List.cons_ne_nil _ _), Text.joinLines_append_cons, hescape,
      String.append_assoc]
  rw [reflowed, hline, Text.joinLines, Text.splitOnChar_intercalate_of_not_mem rfl hne hfree,
    map_indented_closing_cons width depth hbefore.2 hafter.2,
    Text.linesText_eq_joinLines (closing_ne_nil _ (List.cons_ne_nil _ _)),
    joinLines_closing _ (List.cons_ne_nil _ _), Text.joinLines_append_cons,
    Text.joinLines_append_cons, hcarried, escape_joinLines, List.map_cons,
    Text.linesText_eq_joinLines (List.cons_ne_nil _ _)]
  simp [Text.joinLines, String.append_assoc]

theorem carried_of_not_mem {text : String} (h : '\n' ∉ text.toList) (margin : String) :
    carried margin text = text := by
  rw [carried, Text.splitOnChar_of_not_mem h]
  exact String.intercalate_singleton

theorem continued_ne_self {margin : String} (hmargin : margin ≠ "") {pieces : List String}
    (h : pieces ≠ []) : continued margin pieces ≠ pieces := by
  fun_induction continued margin pieces with
  | case1 => exact absurd rfl h
  | case2 last =>
      intro hsame
      have hchars := congrArg String.toList (List.cons.inj hsame).1
      rw [String.toList_append, List.append_left_eq_self] at hchars
      exact hmargin (String.toList_eq_nil_iff.mp hchars)
  | case3 piece rest hrest ih =>
      intro hsame
      exact ih hrest (List.cons.inj hsame).2

theorem newline_not_mem_continued {width : Int} {depth : Nat} {pieces : List String}
    (h : ∀ piece ∈ pieces, '\n' ∉ piece.toList) :
    ∀ line ∈ continued (margin width depth) pieces, '\n' ∉ line.toList := by
  fun_induction continued (margin width depth) pieces with
  | case1 => exact h
  | case2 last =>
      rw [List.forall_mem_singleton] at h ⊢
      simpa using ⟨newline_not_mem_margin width depth, h⟩
  | case3 piece rest _ ih =>
      obtain ⟨hpiece, hrest⟩ := List.forall_mem_cons.mp h
      exact List.forall_mem_cons.mpr ⟨newline_not_mem_indented hpiece, ih hrest⟩

/-- With a margin, a text is found as it was written only if it has one line. -/
theorem carried_eq_self_iff {width : Int} {depth : Nat} (hmargin : margin width depth ≠ "")
    {text : String} : carried (margin width depth) text = text ↔ '\n' ∉ text.toList := by
  refine ⟨fun hsame => ?_, fun h => carried_of_not_mem h _⟩
  obtain ⟨first, rest, hpieces⟩ :=
    List.exists_cons_of_ne_nil (Text.splitOnChar_ne_nil '\n' text)
  have hfree : ∀ piece ∈ first :: rest, '\n' ∉ piece.toList :=
    fun piece hpiece => Text.not_mem_of_mem_splitOnChar (hpieces ▸ hpiece)
  obtain ⟨hfirst, hrest⟩ := List.forall_mem_cons.mp hfree
  have hjoined : Text.joinLines (first :: rest) = text := by
    rw [← hpieces, Text.joinLines_splitOnChar]
  by_cases hnone : rest = []
  · rw [← hjoined, hnone]
    exact (congrArg ('\n' ∉ ·.toList) String.intercalate_singleton).mpr hfirst
  · have hsplit : splitOnChar '\n' (carried (margin width depth) text) =
        first :: continued (margin width depth) rest := by
      rw [carried, hpieces]
      exact Text.splitOnChar_intercalate_of_not_mem rfl (List.cons_ne_nil _ _)
        (List.forall_mem_cons.mpr ⟨hfirst, newline_not_mem_continued hrest⟩)
    rw [hsame, hpieces] at hsplit
    exact absurd (List.cons.inj hsplit).2.symm (continued_ne_self hmargin hnone)

/-- A text without quotes. -/
abbrev Unquoted : String → Prop :=
  Consists (· ≠ '"')

theorem unquoted_of_isTerm {text : String} (h : IsTerm text) : Unquoted text :=
  fun c hc => (h.2 c hc).ne (by decide)

theorem quote_not_mem_margin (width : Int) (depth : Nat) : '"' ∉ (margin width depth).toList := by
  rw [margin, String.toList_ofList, List.mem_replicate]
  exact fun h => absurd h.2 (by decide)

theorem quote_not_mem_margin_append (width : Int) (depth : Nat) {text : String}
    (h : '"' ∉ text.toList) : '"' ∉ (margin width depth ++ text).toList := by
  rw [String.toList_append, List.mem_append, not_or]
  exact ⟨quote_not_mem_margin width depth, h⟩

theorem holds_lines_nothing {lines : List String} (h : ∀ line ∈ lines, '"' ∉ line.toList) :
    Holds [] (linesText lines) := by
  refine holds_nothing fun hmem => ?_
  obtain ⟨line, hline, hmem⟩ := List.mem_flatMap.mp hmem
  rw [List.mem_append, List.mem_singleton] at hmem
  exact hmem.elim (h line hline) (by decide)

/-- Splicing a line without quotes gives lines without quotes. -/
theorem holds_reflowed_nothing (width : Int) (depth : Nat) {line : String} (h : '"' ∉ line.toList) :
    Holds [] (linesText (reflowed (margin width depth) line)) := by
  refine holds_lines_nothing fun spliced hspliced => ?_
  obtain ⟨piece, hpiece, rfl⟩ := List.mem_map.mp hspliced
  have hinline : '"' ∉ piece.toList := by
    intro hquote
    have htext : '"' ∈ linesText (splitOnChar '\n' line) :=
      List.mem_flatMap.mpr ⟨piece, hpiece, List.mem_append_left _ hquote⟩
    rw [Text.linesText_splitOnChar, List.mem_append, List.mem_singleton] at htext
    exact htext.elim h (by decide)
  rw [indented]
  split
  · decide
  · exact quote_not_mem_margin_append width depth hinline

/-- A header holds its literal as it comes out of splicing. -/
theorem holds_reflowed_header (width : Int) (depth further : Nat) {word held text : String}
    {terms : List String} (hword : IsTerm word) (hterms : ∀ term ∈ terms, IsTerm term)
    (htext : text.toList = phrase word (terms.map .bare ++ [.literal held]) ++ " \x7b".toList) :
    Holds [carried (margin width depth) held]
      (linesText (reflowed (margin width depth) (margin width further ++ text))) := by
  have hchars : ∀ c ∈ phrase word (terms.map .bare) ++ [' '], IsTermChar c ∨ c = ' ' := by
    intro c hc
    rw [phrase, List.flatMap_map, List.append_assoc, List.mem_append, List.mem_append,
      List.mem_flatMap, List.mem_singleton] at hc
    rcases hc with hc | ⟨term, hterm, hc⟩ | hc
    · exact Or.inl (hword.2 c hc)
    · rcases List.mem_cons.mp hc with hc | hc
      · exact Or.inr hc
      · exact Or.inl ((hterms term hterm).2 c hc)
    · exact Or.inr hc
  have hnot : ∀ d, ¬ IsTermChar d → d ≠ ' ' → d ∉ phrase word (terms.map .bare) ++ [' '] :=
    fun d hd hspace hmem => (hchars d hmem).elim hd hspace
  let before := margin width further ++
    (String.ofList (phrase word (terms.map .bare) ++ [' ']) ++ "\"")
  have hline : margin width further ++ text = before ++ (Literal.escape held ++ "\" \x7b") := by
    rw [← String.toList_inj]
    simp [before, htext, phrase, Part.chars, Statement.quote]
  have hbefore : Whole before := by
    constructor
    · have hbreak := hnot '\n' (by decide) (by decide)
      have hmargin := newline_not_mem_margin width further
      simpa [before, hmargin] using hbreak
    · exact isBlankText_append (isBlankText_append rfl _) _
  have hafter : Whole "\" \x7b" := ⟨by decide, by decide⟩
  have hfront : '"' ∉ (margin width depth).toList ++ ((margin width further).toList ++
      (phrase word (terms.map .bare) ++ [' '])) := by
    rw [List.mem_append, List.mem_append, not_or, not_or]
    exact ⟨quote_not_mem_margin width depth, quote_not_mem_margin width further,
      hnot '"' (by decide) (by decide)⟩
  have hback : '"' ∉ " \x7b\n".toList := by decide
  have hholds := (holds_nothing hfront).append
    ((holds_quote (carried (margin width depth) held)).append (holds_nothing hback))
  rw [hline, linesText_reflowed_escape width depth hbefore hafter]
  simpa [linesText, before, Statement.quote] using hholds

theorem holds_block (width : Int) (depth further : Nat) {opening : String} {body : List Item}
    {texts inner : List String}
    (hopening : Holds texts
      (linesText (reflowed (margin width depth) (margin width further ++ opening))))
    (hbody : Holds inner
      (linesText ((linesOf width (further + 1) body).flatMap (reflowed (margin width depth))))) :
    Holds (texts ++ inner) (linesText
      (((Item.block opening body).lines width further).flatMap (reflowed (margin width depth)))) := by
  have hclose : '"' ∉ (margin width further ++ blockClose).toList :=
    quote_not_mem_margin_append width further (by decide)
  have hlines := (hopening.append hbody).append (holds_reflowed_nothing width depth hclose)
  rw [List.append_nil] at hlines
  simpa [Item.lines, Text.linesText_append] using hlines

theorem holds_linesOf_map {α : Type} (width : Int) (depth further : Nat) (item : α → Item)
    (texts : α → List String) {list : List α}
    (h : ∀ value ∈ list, Holds (texts value)
      (linesText (((item value).lines width further).flatMap (reflowed (margin width depth))))) :
    Holds (list.flatMap texts) (linesText
      ((linesOf width further (list.map item)).flatMap (reflowed (margin width depth)))) := by
  induction list with
  | nil => exact holds_nothing List.not_mem_nil
  | cons value rest ih =>
      obtain ⟨hvalue, hrest⟩ := List.forall_mem_cons.mp h
      rw [List.map_cons, linesOf, List.flatMap_append, Text.linesText_append, List.flatMap_cons]
      exact hvalue.append (ih hrest)

end C4Model.Reading
