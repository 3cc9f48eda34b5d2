import C4Model.Layout.Program
import C4Model.Proofs.Layout.Reflow

/-! What programs write. A program without failures adds the lines of its items at the depth of the writer,
and these are the lines that it gives on a writer of its own, spliced in. A program that fails adds what it
has written up to there: the items before, and the headers of the blocks that it leaves, which are not
closed. Every step leaves the depth as it finds it. -/

namespace C4Model.Layout

/-- The writer with further lines. -/
def Writer.extended (w : Writer) (lines : List String) : Writer :=
  { w with lines := w.lines ++ lines }

@[simp]
theorem Writer.extended_extended (w : Writer) (first second : List String) :
    (w.extended first).extended second = w.extended (first ++ second) := by
  rw [extended, extended, extended, List.append_assoc]

@[simp]
theorem Writer.extended_nil (w : Writer) : w.extended [] = w := by
  rw [extended, List.append_nil]

mutual

/-- An item is written at the depth of the writer, which it leaves as it is. -/
theorem Writer.write_eq (w : Writer) : (item : Item) →
    w.write item = w.extended (item.lines w.width w.depth)
  | .line _ => rfl
  | .blank => rfl
  | .block header body => by
      rw [Writer.write, Writer.writeAll_eq (w.openBlock header) body]
      simp [Writer.openBlock, Writer.closeBlock, Writer.extended, Writer.addLine, Writer.indent,
        Writer.unindent, Item.lines]

theorem Writer.writeAll_eq (w : Writer) : (items : List Item) →
    w.writeAll items = w.extended (linesOf w.width w.depth items)
  | [] => by rw [Writer.writeAll, linesOf, Writer.extended_nil]
  | item :: rest => by
      rw [Writer.writeAll, Writer.write_eq w item, Writer.writeAll_eq _ rest, Writer.extended_extended]
      rfl

end

mutual

theorem Writer.perform_step (w : Writer) : (item : Item) → w.perform item.step = (w.write item, true)
  | .line _ => rfl
  | .blank => rfl
  | .block header body => by
      rw [Item.step, Writer.perform, Writer.run_stepsOf (w.openBlock header) body]
      rfl

theorem Writer.run_stepsOf (w : Writer) : (items : List Item) →
    w.run (stepsOf items) = (w.writeAll items, true)
  | [] => rfl
  | item :: rest => by
      rw [stepsOf, Writer.run, Writer.perform_step w item]
      exact Writer.run_stepsOf (w.write item) rest

end

/-- Items are written before the program goes on. -/
theorem Writer.run_stepsOf_append (w : Writer) (items : List Item) (rest : List Step) :
    w.run (stepsOf items ++ rest) = (w.writeAll items).run rest := by
  induction items generalizing w with
  | nil => rfl
  | cons item others ih =>
      rw [stepsOf, List.cons_append, Writer.run, Writer.perform_step]
      exact ih (w.write item)

theorem linesOf_ne_nil {items : List Item} (h : items ≠ []) (width : Int) (depth : Nat) :
    linesOf width depth items ≠ [] := by
  obtain ⟨item, rest, rfl⟩ := List.exists_cons_of_ne_nil h
  rw [linesOf]
  exact List.append_ne_nil_of_left_ne_nil (lines_ne_nil width depth item) _

/-- Whole items that are rendered on their own and then spliced in are written at their place. -/
theorem Writer.addFragment_render (w : Writer) {items : List Item} (hsome : items ≠ [])
    (h : ∀ item ∈ items, item.Made Whole Whole) :
    w.addFragment (render w.width items) = w.writeAll items := by
  have hplaced : (linesOf w.width 0 items).flatMap (reflowed (margin w.width w.depth)) =
      linesOf w.width w.depth items :=
    flatMap_reflowed_linesOf fun item hitem => (h item hitem).flatMap_reflowed w.width w.depth 0
  rw [Writer.addFragment, Writer.writeAll_eq, Writer.writeAll_eq, render,
    linesOf_spliced w.width w.depth (linesOf_ne_nil hsome w.width 0), hplaced]

/-- The program fails within blocks, each with its header and the items that stand before it, and in the
innermost after the last items. -/
inductive FailsAt : List Step → List (List Item × String) → List Item → Prop
  | here (last : List Item) (rest : List Step) : FailsAt (stepsOf last ++ .fail :: rest) [] last
  | inside {body : List Step} {path : List (List Item × String)} {last : List Item}
      (done : List Item) (header : String) (rest : List Step) (h : FailsAt body path last) :
      FailsAt (stepsOf done ++ .block header body :: rest) ((done, header) :: path) last

/-- What is written before the failure: the headers of the open blocks with what stands before them, and the
last items. No block is closed. -/
def openLines (width : Int) (depth : Nat) : List (List Item × String) → List Item → List String
  | [], last => linesOf width depth last
  | (done, header) :: path, last =>
      linesOf width depth done ++ (margin width depth ++ header) :: openLines width (depth + 1) path last

theorem FailsAt.cons {steps : List Step} {path : List (List Item × String)} {last : List Item}
    (h : FailsAt steps path last) (item : Item) :
    ∃ path last, FailsAt (item.step :: steps) path last := by
  cases h with
  | here last rest => exact ⟨_, _, .here (item :: last) rest⟩
  | inside done header rest h => exact ⟨_, _, .inside (item :: done) header rest h⟩

mutual

theorem Step.writes_or_fails : (step : Step) → (∃ item : Item, step = item.step) ∨
    ∀ rest, ∃ path last, FailsAt (step :: rest) path last
  | .line text => .inl ⟨.line text, rfl⟩
  | .blank => .inl ⟨.blank, rfl⟩
  | .block header body => by
      rcases writes_or_fails body with ⟨items, rfl⟩ | ⟨path, last, h⟩
      · exact .inl ⟨.block header items, rfl⟩
      · exact .inr fun rest => ⟨_, _, .inside [] header rest h⟩
  | .fail => .inr fun rest => ⟨_, _, .here [] rest⟩

/-- A program writes items, or it fails somewhere. -/
theorem writes_or_fails : (steps : List Step) → (∃ items, steps = stepsOf items) ∨
    ∃ path last, FailsAt steps path last
  | [] => .inl ⟨[], rfl⟩
  | step :: rest => by
      rcases Step.writes_or_fails step with ⟨item, rfl⟩ | h
      · rcases writes_or_fails rest with ⟨items, rfl⟩ | ⟨path, last, h⟩
        · exact .inl ⟨item :: items, rfl⟩
        · exact .inr (h.cons item)
      · exact .inr (h rest)

end

/-- A program that fails has written what stands before, and the writer is at the depth that it had. -/
theorem FailsAt.run_eq {steps : List Step} {path : List (List Item × String)} {last : List Item}
    (h : FailsAt steps path last) (w : Writer) :
    w.run steps = (w.extended (openLines w.width w.depth path last), false) := by
  induction h generalizing w with
  | here last rest =>
      rw [Writer.run_stepsOf_append, Writer.writeAll_eq]
      rfl
  | @inside body path last done header rest _ ih =>
      have hbody := ih ((w.writeAll done).openBlock header)
      rw [Writer.run_stepsOf_append, Writer.run, Writer.perform, hbody, Writer.writeAll_eq]
      simp [Writer.extended, Writer.openBlock, Writer.addLine, Writer.indent, Writer.abandonBlock,
        Writer.unindent, openLines]

theorem Writer.depth_run (w : Writer) (steps : List Step) : (w.run steps).1.depth = w.depth := by
  rcases writes_or_fails steps with ⟨items, rfl⟩ | ⟨path, last, h⟩
  · rw [run_stepsOf, writeAll_eq]
    rfl
  · rw [h.run_eq]
    rfl

theorem Writer.run_singleton (w : Writer) (step : Step) : w.run [step] = w.perform step := by
  rw [run]
  split
  · rename_i h
    rw [run, h]
  · rename_i h
    exact h.symm

theorem Writer.fails_iff {w : Writer} {steps : List Step} :
    (w.run steps).2 = false ↔ ∃ path last, FailsAt steps path last := by
  constructor
  · intro hfailed
    rcases writes_or_fails steps with ⟨items, rfl⟩ | h
    · rw [run_stepsOf] at hfailed
      cases hfailed
    · exact h
  · rintro ⟨path, last, h⟩
    rw [h.run_eq]

/-- Splicing what a program renders on a writer of its own comes to running it in place, to the line and to
the depth, if its texts are whole. A program that fails in place leaves behind what it has written, no brace
for the blocks it was in, and the depth that every one of its steps found. -/
theorem run_splices (w : Writer) :
    (∀ items : List Item, items ≠ [] → (∀ item ∈ items, item.Made Whole Whole) →
      w.run (stepsOf items) =
        (w.addFragment (({ width := w.width } : Writer).run (stepsOf items)).1.text, true)) ∧
    (∀ steps, (w.run steps).2 = false ↔ ∃ path last, FailsAt steps path last) ∧
    (∀ steps path last, FailsAt steps path last →
      w.run steps = ({ w with lines := w.lines ++ openLines w.width w.depth path last }, false)) ∧
    ∀ step, (w.perform step).1.depth = w.depth := by
  refine ⟨fun items hsome h => ?_, fun steps => Writer.fails_iff,
    fun steps path last h => h.run_eq w, fun step => ?_⟩
  · have hrendered : (({ width := w.width } : Writer).run (stepsOf items)).1.text =
        render w.width items := by
      rw [Writer.run_stepsOf, Writer.writeAll_eq]
      rfl
    rw [hrendered, w.addFragment_render hsome h, Writer.run_stepsOf]
  · rw [← Writer.run_singleton, Writer.depth_run]

/-- Shelves in a crate. -/
def crateItems : List Item :=
  [.line "# crate", .block "crate \x7b" [.block "shelf \x7b" [.line "box", .blank], .blank]]

/-- A crate that falls apart on its second shelf. -/
def fallenCrate : List Step :=
  [.line "# crate", .block "crate \x7b" [.block "shelf \x7b" [.line "box"],
    .block "shelf \x7b" [.blank, .fail, .line "lid"], .line "label"]]

/-- A writer in the middle of a document. -/
def midway : Writer :=
  { width := 2, lines := ["store \x7b"], depth := 1 }

theorem midway_splices :
    midway.run (stepsOf crateItems) =
      (midway.addFragment (({ width := 2 } : Writer).run (stepsOf crateItems)).1.text, true) ∧
    FailsAt fallenCrate
      [([.line "# crate"], "crate \x7b"), ([.block "shelf \x7b" [.line "box"]], "shelf \x7b")] [.blank] ∧
    midway.run fallenCrate =
      ({ midway with lines := ["store \x7b", "  # crate", "  crate \x7b", "    shelf \x7b", "      box",
          "    \x7d", "    shelf \x7b", ""] }, false) := by
  have hword : ∀ text ∈ ["# crate", "crate \x7b", "shelf \x7b", "box"], Whole text := by decide
  have hshelf : (Item.block "shelf \x7b" [.line "box", .blank]).Made Whole Whole :=
    .block (hword _ (by decide)) (List.forall_mem_cons.mpr ⟨.line (hword _ (by decide)),
      List.forall_mem_singleton.mpr .blank⟩)
  have hcrate : (Item.block "crate \x7b"
      [.block "shelf \x7b" [.line "box", .blank], .blank]).Made Whole Whole :=
    .block (hword _ (by decide)) (List.forall_mem_cons.mpr ⟨hshelf, List.forall_mem_singleton.mpr .blank⟩)
  have hwhole : ∀ item ∈ crateItems, item.Made Whole Whole :=
    List.forall_mem_cons.mpr ⟨.line (hword _ (by decide)), List.forall_mem_singleton.mpr hcrate⟩
  have hfails : FailsAt fallenCrate
      [([.line "# crate"], "crate \x7b"), ([.block "shelf \x7b" [.line "box"]], "shelf \x7b")] [.blank] :=
    .inside [.line "# crate"] _ [] (.inside [.block "shelf \x7b" [.line "box"]] _ [.line "label"]
      (.here [.blank] [.line "lid"]))
  obtain ⟨hspliced, -, hfailed, -⟩ := run_splices midway
  exact ⟨hspliced crateItems (by simp [crateItems]) hwhole, hfails, (hfailed _ _ _ hfails).trans rfl⟩

end C4Model.Layout
