import C4Model.Layout.Writer

/-! Programs that write. A program is made of steps as what it writes is made of items, but a step may also
fail. Then nothing of the program is done any more but leaving the blocks that are open. -/

namespace C4Model.Layout

inductive Step where
  | line (text : String)
  | blank
  | block (header : String) (body : List Step)
  | fail

namespace Writer

mutual

/-- The writer after a step, and whether the step has come to its end. -/
def perform (w : Writer) : Step → Writer × Bool
  | .line text => (w.addLine text, true)
  | .blank => (w.addBlank, true)
  | .block header body =>
      match (w.openBlock header).run body with
      | (inner, true) => (inner.closeBlock, true)
      | (inner, false) => (inner.abandonBlock, false)
  | .fail => (w, false)

/-- The writer after the steps of a program up to the one that fails, and whether none has failed. -/
def run (w : Writer) : List Step → Writer × Bool
  | [] => (w, true)
  | first :: rest =>
      match w.perform first with
      | (next, true) => next.run rest
      | (next, false) => (next, false)

end

end Writer

mutual

/-- The step that writes an item. -/
def Item.step : Item → Step
  | .line text => .line text
  | .blank => .blank
  | .block header body => .block header (stepsOf body)

/-- The program that writes items in a row. -/
def stepsOf : List Item → List Step
  | [] => []
  | item :: rest => item.step :: stepsOf rest

end

end C4Model.Layout
