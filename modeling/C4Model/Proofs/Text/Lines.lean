import C4Model.Text.Lines
import Mathlib.Data.List.Basic

/-! Taking texts apart at a separator undoes joining them with it. -/

namespace C4Model.Text

theorem splitAtChar_of_not_mem {separator : Char} {cs : List Char} (h : separator ∉ cs) :
    splitAtChar separator cs = [cs] := by
  induction cs with
  | nil => rfl
  | cons c rest ih =>
      rw [List.mem_cons, not_or] at h
      rw [splitAtChar, if_neg (Ne.symm h.1), ih h.2]

theorem splitAtChar_append_cons (separator : Char) (front rest : List Char) :
    splitAtChar separator (front ++ separator :: rest) =
      splitAtChar separator front ++ splitAtChar separator rest := by
  induction front with
  | nil => simp [splitAtChar]
  | cons c front ih =>
      rw [List.cons_append, splitAtChar, splitAtChar, ih]
      split
      · rfl
      · obtain ⟨piece, pieces, hpieces⟩ :=
          List.exists_cons_of_ne_nil (splitAtChar_ne_nil separator front)
        simp [hpieces]

theorem splitOnChar_of_not_mem {separator : Char} {text : String} (h : separator ∉ text.toList) :
    splitOnChar separator text = [text] := by
  rw [splitOnChar, splitAtChar_of_not_mem h, List.map_singleton, String.ofList_toList]

theorem not_mem_of_mem_splitAtChar {separator : Char} {cs piece : List Char}
    (h : piece ∈ splitAtChar separator cs) : separator ∉ piece := by
  induction cs generalizing piece with
  | nil =>
      rw [splitAtChar, List.mem_singleton] at h
      simp [h]
  | cons c rest ih =>
      rw [splitAtChar] at h
      split at h
      · rcases List.mem_cons.mp h with rfl | h
        · simp
        · exact ih h
      · rename_i hne
        obtain ⟨first, pieces, hpieces⟩ :=
          List.exists_cons_of_ne_nil (splitAtChar_ne_nil separator rest)
        rw [hpieces] at h ih
        rcases List.mem_cons.mp h with rfl | h
        · simpa [Ne.symm hne] using ih List.mem_cons_self
        · exact ih (List.mem_cons_of_mem _ h)

theorem not_mem_of_mem_splitOnChar {separator : Char} {text piece : String}
    (h : piece ∈ splitOnChar separator text) : separator ∉ piece.toList := by
  obtain ⟨chars, hchars, rfl⟩ := List.mem_map.mp h
  rw [String.toList_ofList]
  exact not_mem_of_mem_splitAtChar hchars

theorem splitOnChar_ne_nil (separator : Char) (text : String) : splitOnChar separator text ≠ [] := by
  simp [splitOnChar, splitAtChar_ne_nil]

theorem splitOnChar_intercalate {separator : Char} {joint : String}
    (hjoint : joint.toList = [separator]) {pieces : List String} (hpieces : pieces ≠ []) :
    splitOnChar separator (String.intercalate joint pieces) =
      pieces.flatMap (splitOnChar separator) := by
  induction pieces with
  | nil => exact absurd rfl hpieces
  | cons piece rest ih =>
      by_cases hrest : rest = []
      · simp [hrest]
      · have hjoined : (String.intercalate joint (piece :: rest)).toList =
            piece.toList ++ separator :: (String.intercalate joint rest).toList := by
          rw [String.intercalate_cons_of_ne_nil hrest, String.toList_append, String.toList_append,
            hjoint, List.append_assoc, List.singleton_append]
        rw [List.flatMap_cons, ← ih hrest, splitOnChar, hjoined, splitAtChar_append_cons,
          List.map_append]
        rfl

/-- Pieces without the separator are found again. -/
theorem splitOnChar_intercalate_of_not_mem {separator : Char} {joint : String}
    (hjoint : joint.toList = [separator]) {pieces : List String} (hpieces : pieces ≠ [])
    (hfree : ∀ piece ∈ pieces, separator ∉ piece.toList) :
    splitOnChar separator (String.intercalate joint pieces) = pieces := by
  rw [splitOnChar_intercalate hjoint hpieces]
  have hsame : ∀ piece ∈ pieces, splitOnChar separator piece = [piece] :=
    fun piece hpiece => splitOnChar_of_not_mem (hfree piece hpiece)
  rw [List.flatMap_congr hsame, List.flatMap_singleton']

/-- Lines with a line feed after each. -/
def linesText (lines : List String) : List Char :=
  lines.flatMap fun line => line.toList ++ ['\n']

theorem linesText_append (first second : List String) :
    linesText (first ++ second) = linesText first ++ linesText second :=
  List.flatMap_append

/-- The pieces between line feeds, with a line feed after each, are the text with one at its end. -/
theorem linesText_splitOnChar (text : String) :
    linesText (splitOnChar '\n' text) = text.toList ++ ['\n'] := by
  rw [splitOnChar]
  generalize text.toList = cs
  induction cs with
  | nil => rfl
  | cons c rest ih =>
      rw [splitAtChar]
      split
      · rename_i hc
        rw [hc]
        exact congrArg ('\n' :: ·) ih
      · obtain ⟨piece, pieces, hpieces⟩ := List.exists_cons_of_ne_nil (splitAtChar_ne_nil '\n' rest)
        rw [hpieces] at ih ⊢
        simpa [linesText] using ih

theorem toList_joinLines (lines : List String) (last : String) :
    (joinLines (lines ++ [last])).toList = linesText lines ++ last.toList := by
  induction lines with
  | nil => simp [joinLines, linesText]
  | cons line rest ih =>
      rw [joinLines] at ih
      rw [joinLines, List.cons_append, String.intercalate_cons_of_ne_nil (by simp),
        String.toList_append, String.toList_append, ih]
      simp [linesText]

theorem joinLines_ne_empty {before : List String} {last : String} (h : last ≠ "") :
    joinLines (before ++ [last]) ≠ "" := by
  intro hempty
  have hchars := congrArg String.toList hempty
  rw [toList_joinLines, String.toList_empty, List.append_eq_nil_iff] at hchars
  exact h (String.toList_eq_nil_iff.mp hchars.2)

theorem linesText_eq_joinLines {lines : List String} (h : lines ≠ []) :
    linesText lines = (joinLines lines).toList ++ ['\n'] := by
  obtain ⟨front, last, rfl⟩ := (List.eq_nil_or_concat lines).resolve_left h
  rw [List.concat_eq_append, toList_joinLines, linesText_append, List.append_assoc]
  simp [linesText]

/-- The pieces between line feeds are joined to the text again. -/
theorem joinLines_splitOnChar (text : String) : joinLines (splitOnChar '\n' text) = text := by
  have hlines := linesText_splitOnChar text
  rw [linesText_eq_joinLines (splitOnChar_ne_nil _ _), List.append_left_inj] at hlines
  exact String.toList_inj.mp hlines

theorem joinLines_cons (line : String) {rest : List String} (h : rest ≠ []) :
    joinLines (line :: rest) = line ++ ("\n" ++ joinLines rest) := by
  rw [joinLines, String.intercalate_cons_of_ne_nil h, String.append_assoc]
  rfl

theorem joinLines_append_cons (before line : String) (rest : List String) :
    joinLines ((before ++ line) :: rest) = before ++ joinLines (line :: rest) := by
  by_cases hrest : rest = []
  · simp [hrest, joinLines]
  · rw [joinLines_cons _ hrest, joinLines_cons _ hrest, String.append_assoc]

theorem splitLinesFrom_nil (current : List Char) :
    splitLinesFrom current [] = if current.isEmpty then [] else [current.reverse] := rfl

theorem splitLinesFrom_return (current rest : List Char) :
    splitLinesFrom current ('\r' :: '\n' :: rest) = current.reverse :: splitLinesFrom [] rest := rfl

theorem splitLinesFrom_cons (current : List Char) {c : Char} {rest : List Char}
    (h : ∀ after, c = '\r' → rest = '\n' :: after → False) :
    splitLinesFrom current (c :: rest) =
      if isLineBreak c then current.reverse :: splitLinesFrom [] rest
      else splitLinesFrom (c :: current) rest := by
  rw [splitLinesFrom.eq_def]
  split
  · rename_i hempty
    cases hempty
  · rename_i after hreturn
    obtain ⟨rfl, rfl⟩ := List.cons.inj hreturn
    exact (h after rfl rfl).elim
  · rename_i hplain
    obtain ⟨rfl, rfl⟩ := List.cons.inj hplain
    rfl

/-- No line break is left in a line. -/
theorem unbroken_of_mem_splitLinesFrom {current cs line : List Char}
    (hcurrent : ∀ c ∈ current, isLineBreak c = false) (h : line ∈ splitLinesFrom current cs) :
    ∀ c ∈ line, isLineBreak c = false := by
  have hread : ∀ c ∈ current.reverse, isLineBreak c = false :=
    fun c hc => hcurrent c (List.mem_reverse.mp hc)
  induction current, cs using splitLinesFrom.induct with
  | case1 current hempty =>
      rw [splitLinesFrom_nil, if_pos hempty] at h
      cases h
  | case2 current hsome =>
      rw [splitLinesFrom_nil, if_neg hsome, List.mem_singleton] at h
      rwa [h]
  | case3 current rest ih =>
      rw [splitLinesFrom_return, List.mem_cons] at h
      rcases h with rfl | h
      · exact hread
      · exact ih (List.forall_mem_nil _) h (List.forall_mem_nil _)
  | case4 current c rest hreturn hbreak ih =>
      rw [splitLinesFrom_cons current hreturn, if_pos hbreak, List.mem_cons] at h
      rcases h with rfl | h
      · exact hread
      · exact ih (List.forall_mem_nil _) h (List.forall_mem_nil _)
  | case5 current c rest hreturn hplain ih =>
      have hnext : ∀ d ∈ c :: current, isLineBreak d = false :=
        List.forall_mem_cons.mpr ⟨Bool.eq_false_iff.mpr hplain, hcurrent⟩
      rw [splitLinesFrom_cons current hreturn, if_neg hplain] at h
      exact ih hnext h fun d hd => hnext d (List.mem_reverse.mp hd)

theorem unbroken_of_mem_splitLines {text line : String} (h : line ∈ splitLines text) :
    ∀ c ∈ line.toList, isLineBreak c = false := by
  obtain ⟨chars, hchars, rfl⟩ := List.mem_map.mp h
  rw [String.toList_ofList]
  exact unbroken_of_mem_splitLinesFrom (List.forall_mem_nil _) hchars

/-- A line is read up to the next separator, and the lines after it do not hang on it. -/
theorem splitLinesFrom_line_append {line after : List Char} (hline : ∀ c ∈ line, isLineBreak c = false)
    (hafter : ∀ c ∈ after.head?, isLineBreak c = true) {current : List Char}
    (hsome : after = [] → current.reverse ++ line ≠ []) :
    splitLinesFrom current (line ++ after) =
      (current.reverse ++ line) :: (splitLinesFrom [] after).tail := by
  induction line generalizing current with
  | nil =>
      rw [List.nil_append, List.append_nil]
      cases after with
      | nil =>
          have hcurrent : current ≠ [] := by simpa using hsome rfl
          rw [splitLinesFrom_nil, if_neg (by simpa using hcurrent)]
          rfl
      | cons c rest =>
          by_cases hreturn : ∃ after, c = '\r' ∧ rest = '\n' :: after
          · obtain ⟨after, rfl, rfl⟩ := hreturn
            rfl
          · have hsingle : ∀ after, c = '\r' → rest = '\n' :: after → False :=
              fun after hc hrest => hreturn ⟨after, hc, hrest⟩
            have hbreak : isLineBreak c = true := hafter c rfl
            rw [splitLinesFrom_cons current hsingle, splitLinesFrom_cons [] hsingle, if_pos hbreak,
              if_pos hbreak, List.tail_cons]
  | cons c line ih =>
      obtain ⟨hc, hline⟩ := List.forall_mem_cons.mp hline
      have hreturn : ∀ rest, c = '\r' → line ++ after = '\n' :: rest → False := by
        rintro rest rfl
        cases hc
      have happend : (c :: current).reverse ++ line = current.reverse ++ c :: line := by simp
      rw [← happend] at hsome ⊢
      rw [List.cons_append, splitLinesFrom_cons current hreturn, hc, if_neg Bool.false_ne_true,
        ih hline hsome]

/-- A line is read up to a line feed, if no line break is in it. -/
theorem splitLinesFrom_line {line : List Char} (h : ∀ c ∈ line, isLineBreak c = false)
    (current rest : List Char) :
    splitLinesFrom current (line ++ '\n' :: rest) =
      (current.reverse ++ line) :: splitLinesFrom [] rest :=
  splitLinesFrom_line_append h (fun c hc => by obtain rfl := Option.some.inj hc; rfl) nofun

theorem splitLinesFrom_last {line : List Char} (h : ∀ c ∈ line, isLineBreak c = false)
    {current : List Char} (hne : current.reverse ++ line ≠ []) :
    splitLinesFrom current line = [current.reverse ++ line] := by
  have hend : ∀ c ∈ ([] : List Char).head?, isLineBreak c = true := nofun
  have hlast := splitLinesFrom_line_append h hend fun _ => hne
  rwa [List.append_nil] at hlast

/-- Line separators divide a text: what stands before one is read on its own, unless it is the first half of
a separator of two characters. -/
theorem splitLinesFrom_append {current before cs : List Char}
    (hbefore : ∀ c ∈ before.getLast?, isLineBreak c = true) (hcurrent : before = [] → current = [])
    (hcs : cs.head? ≠ some '\n') :
    splitLinesFrom current (before ++ cs) = splitLinesFrom current before ++ splitLinesFrom [] cs := by
  induction current, before using splitLinesFrom.induct with
  | case1 current _ =>
      rw [hcurrent rfl]
      rfl
  | case2 current hsome => exact absurd (List.isEmpty_iff.mpr (hcurrent rfl)) hsome
  | case3 current rest ih =>
      rw [List.cons_append, List.cons_append, splitLinesFrom_return, splitLinesFrom_return,
        ih (fun c hc => hbefore c ?_) fun _ => rfl, List.cons_append]
      exact List.mem_getLast?_cons (List.mem_getLast?_cons hc)
  | case4 current c rest hreturn hbreak ih =>
      have happended : ∀ after, c = '\r' → rest ++ cs = '\n' :: after → False := by
        intro after hc hnext
        cases rest with
        | nil =>
            rw [List.nil_append] at hnext
            exact hcs (by rw [hnext, List.head?_cons])
        | cons d rest => exact hreturn rest hc (by rw [(List.cons.inj hnext).1])
      rw [List.cons_append, splitLinesFrom_cons current happended, splitLinesFrom_cons current hreturn,
        if_pos hbreak, if_pos hbreak, ih (fun d hd => hbefore d (List.mem_getLast?_cons hd)) fun _ => rfl,
        List.cons_append]
  | case5 current c rest hreturn hplain ih =>
      have hrest : rest ≠ [] := by
        rintro rfl
        exact hplain (hbefore c rfl)
      have happended : ∀ after, c = '\r' → rest ++ cs = '\n' :: after → False := by
        rintro after rfl
        exact absurd rfl hplain
      rw [List.cons_append, splitLinesFrom_cons current happended, splitLinesFrom_cons current hreturn,
        if_neg hplain, if_neg hplain, ih (fun d hd => hbefore d (List.mem_getLast?_cons hd)) hrest.elim]

/-- Lines without line breaks are found again, if the last one is not empty. -/
theorem splitLines_joinLines {lines : List String} {last : String} (hlast : last ≠ "")
    (h : ∀ line ∈ lines ++ [last], ∀ c ∈ line.toList, isLineBreak c = false) :
    splitLines (joinLines (lines ++ [last])) = lines ++ [last] := by
  rw [splitLines, toList_joinLines]
  induction lines with
  | nil =>
      have hne : [].reverse ++ last.toList ≠ [] := by simpa using hlast
      have hchars : linesText [] ++ last.toList = last.toList := List.nil_append _
      rw [hchars, splitLinesFrom_last (h last List.mem_cons_self) hne, List.map_singleton,
        List.reverse_nil, List.nil_append, String.ofList_toList, List.nil_append]
  | cons line rest ih =>
      obtain ⟨hline, hrest⟩ := List.forall_mem_cons.mp h
      have hchars : linesText (line :: rest) ++ last.toList =
          line.toList ++ '\n' :: (linesText rest ++ last.toList) := by
        simp [linesText]
      rw [hchars, splitLinesFrom_line hline, List.map_cons, ih hrest, List.reverse_nil,
        List.nil_append, String.ofList_toList, List.cons_append]

/-- An empty line at the end is not found again: its separator ends the line before. -/
theorem splitLines_joinLines_empty {lines : List String}
    (h : ∀ line ∈ lines, ∀ c ∈ line.toList, isLineBreak c = false) :
    splitLines (joinLines (lines ++ [""])) = lines := by
  rw [splitLines, toList_joinLines, String.toList_empty, List.append_nil]
  induction lines with
  | nil => rfl
  | cons line rest ih =>
      obtain ⟨hline, hrest⟩ := List.forall_mem_cons.mp h
      have hchars : linesText (line :: rest) = line.toList ++ '\n' :: linesText rest := by
        simp [linesText]
      rw [hchars, splitLinesFrom_line hline, List.map_cons, ih hrest, List.reverse_nil, List.nil_append,
        String.ofList_toList]

end C4Model.Text
