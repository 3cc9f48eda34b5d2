import C4Model.Layout.Reindent
import C4Model.Proofs.Layout.Reflow
import C4Model.Proofs.Layout.Wording

/-! Braces outside literals. A scan goes through a text once and knows whether it is in a literal and how many
braces are open. Blanks mean nothing to it, except that one behind a backslash in a literal takes the
escape; so where blanks stand it does not matter how many there are. Hence neither splicing a fragment nor
indenting it anew changes what a scan of it finds. -/

namespace C4Model.Reading

open Layout
open Text (AllBlank isBlank stripBlanks linesText)

/-- Where a scan stands: outside literals, in one, or in one behind a backslash. -/
inductive Place where
  | outside
  | inside
  | escaped
  deriving DecidableEq

structure Scan where
  place : Place
  depth : Nat
  deriving DecidableEq

namespace Scan

/-- Reads a character. In a literal braces do not count, and a backslash takes the next character as it
is. Outside, no brace is closed that is not open. -/
def step : Scan → Char → Option Scan
  | ⟨.outside, depth⟩, c =>
      if c = '"' then some ⟨.inside, depth⟩
      else if c = '\x7b' then some ⟨.outside, depth + 1⟩
      else if c = '\x7d' then if depth = 0 then none else some ⟨.outside, depth - 1⟩
      else some ⟨.outside, depth⟩
  | ⟨.inside, depth⟩, c =>
      if c = '"' then some ⟨.outside, depth⟩
      else if c = '\\' then some ⟨.escaped, depth⟩
      else some ⟨.inside, depth⟩
  | ⟨.escaped, depth⟩, _ => some ⟨.inside, depth⟩

/-- Reads a text from left to right, up to a brace that closes nothing. -/
def run (scan : Scan) (cs : List Char) : Option Scan :=
  cs.foldlM step scan

/-- The scan after a blank. -/
def rested : Scan → Scan
  | ⟨.escaped, depth⟩ => ⟨.inside, depth⟩
  | scan => scan

theorem run_cons (scan : Scan) (c : Char) (cs : List Char) :
    scan.run (c :: cs) = (scan.step c).bind fun next => next.run cs := rfl

theorem run_append (scan : Scan) (first second : List Char) :
    scan.run (first ++ second) = (scan.run first).bind fun next => next.run second :=
  List.foldlM_append

theorem rested_rested (scan : Scan) : scan.rested.rested = scan.rested := by
  obtain ⟨place, depth⟩ := scan
  cases place <;> rfl

theorem step_blank {c : Char} (hc : isBlank c = true) (scan : Scan) :
    scan.step c = some scan.rested := by
  have hne : ∀ d, isBlank d = false → c ≠ d := by
    rintro d hd rfl
    rw [hd] at hc
    cases hc
  have hquote : c ≠ '"' := hne _ (by decide)
  have hopening : c ≠ '\x7b' := hne _ (by decide)
  have hclosing : c ≠ '\x7d' := hne _ (by decide)
  have hbackslash : c ≠ '\\' := hne _ (by decide)
  obtain ⟨place, depth⟩ := scan
  cases place with
  | outside =>
      rw [step, if_neg hquote, if_neg hopening, if_neg hclosing]
      rfl
  | inside =>
      rw [step, if_neg hquote, if_neg hbackslash]
      rfl
  | escaped => rfl

theorem run_blanks {cs : List Char} (hcs : AllBlank cs) {scan : Scan} (hscan : scan.rested = scan) :
    scan.run cs = some scan := by
  induction cs with
  | nil => rfl
  | cons c cs ih =>
      rw [run_cons, step_blank (hcs c List.mem_cons_self), hscan, Option.bind_some]
      exact ih fun d hd => hcs d (List.mem_cons_of_mem _ hd)

theorem run_newline (scan : Scan) : scan.run ['\n'] = some scan.rested := by
  rw [run_cons, step_blank rfl]
  rfl

/-- A line feed behind blanks is as good as one alone. -/
theorem run_blanks_newline {cs : List Char} (hcs : AllBlank cs) (scan : Scan) :
    scan.run (cs ++ ['\n']) = some scan.rested := by
  cases cs with
  | nil => exact scan.run_newline
  | cons c cs =>
      rw [List.cons_append, run_cons, step_blank (hcs c List.mem_cons_self), Option.bind_some]
      refine run_blanks (fun d hd => ?_) scan.rested_rested
      rcases List.mem_append.mp hd with hd | hd
      · exact hcs d (List.mem_cons_of_mem _ hd)
      · rw [List.mem_singleton.mp hd]
        rfl

/-- Blanks around a line do not matter. -/
theorem run_blanks_around {before after : List Char} (hbefore : AllBlank before)
    (hafter : AllBlank after) (core : List Char) {scan : Scan} (hscan : scan.rested = scan) :
    scan.run (before ++ (core ++ after) ++ ['\n']) = scan.run (core ++ ['\n']) := by
  rw [List.append_assoc, run_append, run_blanks hbefore hscan, Option.bind_some, List.append_assoc,
    run_append, run_append]
  congr 1
  funext next
  rw [run_blanks_newline hafter, run_newline]

/-- A margin in front of a line does not matter. -/
theorem run_margin_line (width : Int) (depth : Nat) (line : List Char) {scan : Scan}
    (hscan : scan.rested = scan) :
    scan.run ((margin width depth).toList ++ line ++ ['\n']) = scan.run (line ++ ['\n']) := by
  rw [List.append_assoc, run_append, run_blanks (allBlank_margin width depth) hscan, Option.bind_some]

theorem run_stripBlanks {scan : Scan} (hscan : scan.rested = scan) (line : List Char) :
    scan.run (stripBlanks line ++ ['\n']) = scan.run (line ++ ['\n']) := by
  obtain ⟨before, after, hbefore, hafter, hline⟩ := Text.exists_blanks_around line
  conv_rhs => rw [hline]
  rw [run_blanks_around hbefore hafter _ hscan]

theorem rested_of_run_newline {scan next : Scan} {cs : List Char}
    (h : scan.run (cs ++ ['\n']) = some next) : next.rested = next := by
  rw [run_append] at h
  obtain ⟨between, -, h⟩ := Option.bind_eq_some_iff.mp h
  rw [run_newline] at h
  rw [← Option.some.inj h, rested_rested]

theorem run_linesText_cons (scan : Scan) (line : String) (rest : List String) :
    scan.run (linesText (line :: rest)) =
      (scan.run (line.toList ++ ['\n'])).bind fun next => next.run (linesText rest) := by
  rw [linesText, List.flatMap_cons, run_append]
  rfl

/-- Lines may be put in place of lines that scan alike. -/
theorem run_linesText_map {f : String → String}
    (hf : ∀ (scan : Scan) (line : String), scan.rested = scan →
      scan.run ((f line).toList ++ ['\n']) = scan.run (line.toList ++ ['\n']))
    (lines : List String) {scan : Scan} (hscan : scan.rested = scan) :
    scan.run (linesText (lines.map f)) = scan.run (linesText lines) := by
  induction lines generalizing scan with
  | nil => rfl
  | cons line rest ih =>
      rw [List.map_cons, run_linesText_cons, run_linesText_cons, hf scan line hscan]
      refine Option.bind_congr fun next hnext => ih (rested_of_run_newline hnext)

theorem run_indented (width : Int) (depth : Nat) {scan : Scan} (hscan : scan.rested = scan)
    (line : String) :
    scan.run ((indented (margin width depth) line).toList ++ ['\n']) =
      scan.run (line.toList ++ ['\n']) := by
  rw [indented]
  split
  · rename_i hblank
    rw [run_blanks_newline (Text.isBlankText_iff.mp hblank)]
    exact scan.run_newline
  · rw [String.toList_append, run_margin_line width depth _ hscan]

theorem run_linesText_reflowed (width : Int) (depth : Nat) (line : String) {scan : Scan}
    (hscan : scan.rested = scan) :
    scan.run (linesText (reflowed (margin width depth) line)) = scan.run (line.toList ++ ['\n']) := by
  rw [reflowed, run_linesText_map (fun _ line hscan => run_indented width depth hscan line) _ hscan,
    Text.linesText_splitOnChar]

/-- A spliced fragment scans as the fragment itself. -/
theorem run_spliced (width : Int) (depth : Nat) (fragment : String) {scan : Scan}
    (hscan : scan.rested = scan) :
    scan.run (linesText (linesOf width depth (spliced fragment))) =
      scan.run (fragment.toList ++ ['\n']) := by
  have hone : Text.joinLines [fragment] = fragment := String.intercalate_singleton
  have hlines := linesOf_spliced width depth (List.cons_ne_nil fragment [])
  rw [hone, List.flatMap_singleton] at hlines
  rw [hlines, run_linesText_reflowed width depth fragment hscan]

/-- At whatever character the lines of a fragment end, they scan as the fragment. -/
theorem run_splitLinesFrom (current cs : List Char) {scan : Scan} (hscan : scan.rested = scan) :
    scan.run (linesText ((Text.splitLinesFrom current cs).map String.ofList)) =
      (scan.run (current.reverse ++ cs)).map rested := by
  have hend : ∀ (line : List Char) (rest : List (List Char)) (scan : Scan),
      scan.run (linesText ((line :: rest).map String.ofList)) =
        (scan.run line).bind fun next => next.rested.run (linesText (rest.map String.ofList)) := by
    intro line rest scan
    rw [List.map_cons, run_linesText_cons, String.toList_ofList, run_append, Option.bind_assoc]
    exact Option.bind_congr fun next _ => by rw [run_newline, Option.bind_some]
  have hbreak : ∀ (c : Char) (cs : List Char) (scan : Scan), isBlank c = true →
      scan.run (c :: cs) = scan.rested.run cs := by
    intro c cs scan hc
    rw [run_cons, step_blank hc, Option.bind_some]
  induction current, cs using Text.splitLinesFrom.induct generalizing scan with
  | case1 current hempty =>
      rw [List.isEmpty_iff] at hempty
      subst hempty
      rw [Text.splitLinesFrom_nil, if_pos List.isEmpty_nil]
      exact congrArg some hscan.symm
  | case2 current hcurrent =>
      rw [Text.splitLinesFrom_nil, if_neg hcurrent, hend, List.append_nil]
      exact Option.map_eq_bind.symm
  | case3 current rest ih =>
      rw [Text.splitLinesFrom_return, hend, run_append, Option.map_bind]
      refine Option.bind_congr fun next _ => ?_
      rw [ih next.rested_rested, Function.comp_apply, hbreak '\r' _ _ rfl, hbreak '\n' _ _ rfl,
        rested_rested]
      rfl
  | case4 current c rest hreturn hbreaks ih =>
      rw [Text.splitLinesFrom_cons _ hreturn, if_pos hbreaks, hend, run_append, Option.map_bind]
      refine Option.bind_congr fun next _ => ?_
      rw [ih next.rested_rested]
      exact congrArg _ (hbreak c rest next (Text.isBlank_of_isLineBreak hbreaks)).symm
  | case5 current c rest hreturn hbreaks ih =>
      rw [Text.splitLinesFrom_cons _ hreturn, if_neg hbreaks, ih hscan, List.reverse_cons,
        List.append_assoc]
      rfl

theorem run_concat_newline (scan : Scan) (cs : List Char) :
    scan.run (cs ++ ['\n']) = (scan.run cs).map rested := by
  rw [run_append, Option.map_eq_bind]
  exact Option.bind_congr fun next _ => next.run_newline

theorem run_joinLines (lines : List String) {scan : Scan} (hscan : scan.rested = scan) :
    (scan.run (Text.joinLines lines).toList).map rested = scan.run (linesText lines) := by
  rcases List.eq_nil_or_concat lines with rfl | ⟨front, last, rfl⟩
  · exact congrArg some hscan
  · have hlast : linesText [last] = last.toList ++ ['\n'] := List.flatMap_singleton _ _
    rw [List.concat_eq_append, Text.toList_joinLines, ← run_concat_newline, Text.linesText_append,
      List.append_assoc, hlast]

theorem run_reindentLines (width : Int) (depth : Nat) (lines : List String) {scan : Scan}
    (hscan : scan.rested = scan) :
    scan.run (linesText (reindentLines width depth lines)) = scan.run (linesText lines) := by
  induction lines generalizing depth scan with
  | nil => rfl
  | cons line rest ih =>
      have hrest : ∀ depth, ((scan.run (line.toList ++ ['\n'])).bind fun next =>
          next.run (linesText (reindentLines width depth rest))) =
          (scan.run (line.toList ++ ['\n'])).bind fun next => next.run (linesText rest) :=
        fun depth => Option.bind_congr fun next hnext => ih depth (rested_of_run_newline hnext)
      rw [reindentLines]
      split
      · rw [run_linesText_cons, run_linesText_cons, hrest]
      · rw [run_linesText_cons, run_linesText_cons, String.toList_append, String.toList_ofList,
          run_margin_line _ _ _ hscan, run_stripBlanks hscan, hrest]

/-- A fragment that is indented anew scans as the fragment itself. -/
theorem run_reindent (width : Int) (fragment : String) {scan : Scan} (hscan : scan.rested = scan) :
    (scan.run (reindent width fragment).toList).map rested =
      (scan.run fragment.toList).map rested := by
  rw [reindent, run_joinLines _ hscan, run_reindentLines width 0 _ hscan, Text.splitLines,
    run_splitLinesFrom [] _ hscan]
  rfl

theorem step_closing {depth : Nat} (h : depth ≠ 0) :
    step ⟨.outside, depth⟩ '\x7d' = some ⟨.outside, depth - 1⟩ := by
  simp [step, h]

theorem step_deeper {c : Char} {place place' : Place} {depth depth' : Nat} (further : Nat)
    (h : step ⟨place, depth⟩ c = some ⟨place', depth'⟩) :
    step ⟨place, depth + further⟩ c = some ⟨place', depth' + further⟩ := by
  by_cases hclosing : place = .outside ∧ c = '\x7d'
  · obtain ⟨rfl, rfl⟩ := hclosing
    have hopen : depth ≠ 0 := by
      rintro rfl
      cases h
    rw [step_closing hopen] at h
    obtain ⟨rfl, rfl⟩ := Scan.mk.inj (Option.some.inj h)
    rw [step_closing (by omega), Nat.sub_add_comm (by omega)]
  · cases place with
    | outside =>
        have hnot : c ≠ '\x7d' := fun hc => hclosing ⟨rfl, hc⟩
        simp only [step, if_neg hnot] at h ⊢
        split_ifs at h ⊢ <;> obtain ⟨rfl, rfl⟩ := Scan.mk.inj (Option.some.inj h) <;>
          simp [Nat.add_right_comm]
    | inside =>
        simp only [step] at h ⊢
        split_ifs at h ⊢ <;> obtain ⟨rfl, rfl⟩ := Scan.mk.inj (Option.some.inj h) <;> rfl
    | escaped =>
        obtain ⟨rfl, rfl⟩ := Scan.mk.inj (Option.some.inj h)
        rfl

/-- Braces that are open already stay open. -/
theorem run_deeper {cs : List Char} {place place' : Place} {depth depth' : Nat} (further : Nat)
    (h : run ⟨place, depth⟩ cs = some ⟨place', depth'⟩) :
    run ⟨place, depth + further⟩ cs = some ⟨place', depth' + further⟩ := by
  induction cs generalizing place depth with
  | nil =>
      obtain ⟨rfl, rfl⟩ := Scan.mk.inj (Option.some.inj h)
      rfl
  | cons c cs ih =>
      obtain ⟨⟨next, inner⟩, hstep, hrest⟩ := Option.bind_eq_some_iff.mp h
      rw [run_cons, step_deeper further hstep]
      exact ih hrest

end Scan

/-- Read from outside a literal, the text ends there, with as many braces open as before, and never fewer
on the way. -/
def Level (cs : List Char) : Prop :=
  ∀ depth, Scan.run ⟨.outside, depth⟩ cs = some ⟨.outside, depth⟩

/-- The same, but with one more brace open at the end. -/
def Opens (cs : List Char) : Prop :=
  ∀ depth, Scan.run ⟨.outside, depth⟩ cs = some ⟨.outside, depth + 1⟩

/-- No brace closes nothing, none is left open, and no literal is. -/
def Balanced (text : String) : Prop :=
  Scan.run ⟨.outside, 0⟩ text.toList = some ⟨.outside, 0⟩

instance (text : String) : Decidable (Balanced text) :=
  inferInstanceAs (Decidable (_ = _))

theorem balanced_iff {text : String} : Balanced text ↔ Level text.toList := by
  refine ⟨fun h depth => ?_, fun h => h 0⟩
  simpa using Scan.run_deeper depth h

theorem Level.append {first second : List Char} (hfirst : Level first) (hsecond : Level second) :
    Level (first ++ second) := by
  intro depth
  rw [Scan.run_append, hfirst, Option.bind_some, hsecond]

theorem Level.opens {first second : List Char} (hfirst : Level first) (hsecond : Opens second) :
    Opens (first ++ second) := by
  intro depth
  rw [Scan.run_append, hfirst, Option.bind_some, hsecond]

theorem opens_brace : Opens " \x7b".toList :=
  fun _ => rfl

theorem level_braces : Level " \x7b\x7d".toList :=
  fun _ => rfl

theorem level_nil : Level [] :=
  fun _ => rfl

/-- A text without braces and quotes, whatever else is in it. -/
def Inert (text : String) : Prop :=
  ∀ c ∈ text.toList, c ≠ '"' ∧ c ≠ '\x7b' ∧ c ≠ '\x7d'

theorem Inert.level {text : String} (h : Inert text) : Level text.toList := by
  intro depth
  rw [Inert] at h
  generalize text.toList = cs at h
  induction cs with
  | nil => rfl
  | cons c cs ih =>
      obtain ⟨⟨hquote, hopening, hclosing⟩, hrest⟩ := List.forall_mem_cons.mp h
      rw [Scan.run_cons, Scan.step, if_neg hquote, if_neg hopening, if_neg hclosing]
      exact ih hrest

/-- A literal is read to its end, whatever it holds. -/
theorem level_quote (text : String) : Level (Statement.quote text).toList := by
  have hbody : ∀ (cs : List Char) (depth : Nat),
      Scan.run ⟨.inside, depth⟩ (Literal.escapeChars cs) = some ⟨.inside, depth⟩ := by
    intro cs depth
    induction cs with
    | nil => rfl
    | cons c cs ih =>
        rw [Literal.escapeChars]
        split
        · exact ih
        · rename_i hplain
          rw [not_or] at hplain
          rw [Scan.run_cons, Scan.step, if_neg hplain.2, if_neg hplain.1]
          exact ih
  intro depth
  rw [Statement.toList_quote, Scan.run_cons]
  have hopen : Scan.step ⟨.outside, depth⟩ '"' = some ⟨.inside, depth⟩ := rfl
  rw [hopen, Option.bind_some, Scan.run_append, hbody]
  rfl

theorem inert_of_isTerm {text : String} (h : IsTerm text) : Inert text :=
  fun c hc => ⟨(h.2 c hc).ne (by decide), (h.2 c hc).ne (by decide), (h.2 c hc).ne (by decide)⟩

theorem Inert.strip {text : String} (h : Inert text) : Inert (Text.strip text) := by
  intro c hc
  rw [Text.strip, String.toList_ofList] at hc
  exact h c (Text.mem_of_mem_stripBlanks hc)

section Wording

variable {literal : String → Prop} {closing text : String}

theorem level_phrase {word : String} {rest : List Part} (hword : IsTerm word)
    (h : ∀ part ∈ rest, part.Of Inert literal) : Level (phrase word rest) := by
  refine (inert_of_isTerm hword).level.append ?_
  induction rest with
  | nil => exact level_nil
  | cons part rest ih =>
      obtain ⟨hpart, hrest⟩ := List.forall_mem_cons.mp h
      have hspace : Level [' '] := fun _ => rfl
      have hchars : Level part.chars := by
        cases part with
        | bare text => exact Inert.level hpart
        | literal text => exact level_quote text
      rw [List.flatMap_cons]
      exact (hspace.append hchars).append (ih hrest)

/-- Whatever its literals hold, a line opens what is written at its end. -/
theorem level_of_isStatement (h : IsStatement Inert literal text) : Level text.toList := by
  rcases h with ⟨word, rest, hword, hrest, htext⟩ | ⟨word, rest, hword, hrest, htext⟩
  · rw [htext]
    exact (level_phrase hword hrest).append level_nil
  · rw [htext]
    exact (level_phrase hword hrest).append level_braces

theorem opens_of_isHeader (h : IsHeader Inert literal text) : Opens text.toList := by
  obtain ⟨word, rest, hword, hrest, htext⟩ := h
  rw [htext]
  exact (level_phrase hword hrest).opens opens_brace

end Wording

theorem eq_of_rested_outside {scan : Scan} {depth : Nat} (h : scan.rested = ⟨.outside, depth⟩) :
    scan = ⟨.outside, depth⟩ := by
  obtain ⟨place, inner⟩ := scan
  cases place with
  | outside | inside => exact h
  | escaped => cases h

theorem level_iff_of_run {first second : List Char}
    (h : ∀ depth, (Scan.run ⟨.outside, depth⟩ first).map Scan.rested =
      (Scan.run ⟨.outside, depth⟩ second).map Scan.rested) : Level first ↔ Level second := by
  have hone : ∀ cs depth, Scan.run ⟨.outside, depth⟩ cs = some ⟨.outside, depth⟩ ↔
      (Scan.run ⟨.outside, depth⟩ cs).map Scan.rested = some ⟨.outside, depth⟩ := by
    intro cs depth
    constructor
    · intro hrun
      rw [hrun]
      rfl
    · intro hrun
      obtain ⟨scan, hscan, hrested⟩ := Option.map_eq_some_iff.mp hrun
      rw [hscan, eq_of_rested_outside hrested]
  exact forall_congr' fun depth => by rw [hone, hone, h]

theorem Level.newline {cs : List Char} (h : Level cs) : Level (cs ++ ['\n']) :=
  h.append fun _ => rfl

theorem level_reindent (width : Int) {fragment : String} (h : Level fragment.toList) :
    Level (reindent width fragment).toList :=
  (level_iff_of_run fun _ => Scan.run_reindent width fragment rfl).mpr h

theorem level_spliced (width : Int) (depth : Nat) {fragment : String} (h : Level fragment.toList) :
    Level (linesText (linesOf width depth (spliced fragment))) := by
  intro outer
  rw [Scan.run_spliced width depth fragment rfl]
  exact h.newline outer

theorem level_joinLines {lines : List String} (h : Level (linesText lines)) :
    Level (Text.joinLines lines).toList := by
  refine (level_iff_of_run fun depth => ?_).mpr h
  rw [Scan.run_joinLines lines rfl, h]
  rfl

theorem level_margin (width : Int) (depth : Nat) : Level (margin width depth).toList :=
  fun _ => Scan.run_blanks (allBlank_margin width depth) rfl

theorem linesText_margin (width : Int) (depth : Nat) (text : String) :
    linesText [margin width depth ++ text] =
      (margin width depth).toList ++ (text.toList ++ ['\n']) := by
  simp [linesText]

theorem level_line (width : Int) (depth : Nat) {text : String} (h : Level text.toList) :
    Level (linesText [margin width depth ++ text]) := by
  rw [linesText_margin]
  exact (level_margin width depth).append h.newline

theorem level_linesOf {width : Int} {depth : Nat} {items : List Item}
    (h : ∀ item ∈ items, Level (linesText (item.lines width depth))) :
    Level (linesText (linesOf width depth items)) := by
  induction items with
  | nil => exact level_nil
  | cons item rest ih =>
      obtain ⟨hitem, hrest⟩ := List.forall_mem_cons.mp h
      rw [linesOf, Text.linesText_append]
      exact hitem.append (ih hrest)

/-- What a header opens, the line with the closing brace closes. -/
theorem level_block (width : Int) (depth : Nat) {opening : String} {inner : List String}
    (h : Opens opening.toList) (hinner : Level (linesText inner)) :
    Level (linesText (((margin width depth ++ opening) :: inner) ++
      [margin width depth ++ blockClose])) := by
  intro outer
  have hclose : Scan.run ⟨.outside, outer + 1⟩ (blockClose.toList ++ ['\n']) =
      some ⟨.outside, outer⟩ := rfl
  have hnewline : Scan.run ⟨.outside, outer + 1⟩ ['\n'] = some ⟨.outside, outer + 1⟩ := rfl
  rw [Text.linesText_append, ← List.singleton_append, Text.linesText_append, linesText_margin,
    linesText_margin, Scan.run_append, Scan.run_append, Scan.run_append, level_margin,
    Option.bind_some, Scan.run_append, h, Option.bind_some, hnewline, Option.bind_some, hinner,
    Option.bind_some, Scan.run_append, level_margin, Option.bind_some, hclose]

/-- Items all of whose lines are level, and whose headers open one brace each. -/
theorem level_lines {item : Item}
    (h : item.Made (fun text => Level text.toList) fun text => Opens text.toList) (width : Int)
    (depth : Nat) : Level (linesText (item.lines width depth)) := by
  induction h generalizing depth with
  | line h => exact level_line width depth h
  | blank => exact fun _ => rfl
  | @block opening body h _ ih =>
      exact level_block width depth h (level_linesOf fun item hitem => ih item hitem (depth + 1))

end C4Model.Reading
