import C4Model.Document.Toml.Node

/-! The sections of a TOML document. A section is open as long as the headers that follow have paths
that go on from its own; what they declare is put into it, each as it is closed, and then the section
goes into the one that holds it. A clash within a section is told as such. The outermost sections become
pieces of the document, which are joined when all is read. A clash that is found before makes the text
malformed. -/

namespace C4Model.Toml

/-- Why a text holds no table. -/
inductive ReadFault where
  | malformed
  | clash (clash : Clash)
  deriving DecidableEq

/-- A section that is open. -/
structure Section where
  path : List String
  isArray : Bool
  /-- Whether the path is one key longer than that of the section around it. -/
  isDirect : Bool
  /-- The tables of the array before the open one. -/
  earlier : List Nodes := []
  entries : Nodes := []

namespace Section

def node (s : Section) : Node :=
  if s.isArray then .tables s.earlier s.entries else .table .declared s.entries

/-- Whether a path goes on from the one of the section. -/
def holds (s : Section) (path : List String) : Bool :=
  s.path.isPrefixOf path && s.path != path

/-- Whether a header opens the next table of the section's array, right after its last one. -/
def isContinuedBy (s : Section) (path : List String) (isArray : Bool) : Bool :=
  s.isDirect && s.isArray && isArray && s.path == path

/-- Puts a section that is closed into the one around it. -/
def takeIn (s : Section) : Option Section → Except Clash Section
  | none => .ok s
  | some closed => do
      let entries ← joinEntries s.entries (branch closed.node (closed.path.drop s.path.length))
      return { s with entries }

/-- Closes open sections, innermost first, until one stays open. The section that was closed last goes
into that one; if none stays open it is returned. -/
def closeUntil (staysOpen : Section → Bool) (closed : Option Section) :
    List Section → Except Clash (Option Section × List Section)
  | [] => .ok (closed, [])
  | s :: rest => do
      let s ← s.takeIn closed
      if staysOpen s then return (none, s :: rest) else closeUntil staysOpen (some s) rest

end Section

/-- A document of which a part is read: its own entries, the pieces that closed sections have added,
last one first, and the open sections from the innermost one. -/
structure Draft where
  entries : Nodes := []
  pieces : Nodes := []
  sections : List Section := []

namespace Draft

/-- Whether two pieces of a table are joined only when all is read: its declaration and a path that
passes through it. -/
def areJoinedLate : Option Node → Node → Bool
  | some (.table .declared _), .table .implied _ => true
  | some (.table .implied _), .table .declared _ => true
  | _, _ => false

/-- Whether a piece is joined at once with the last one under its key: to an array of tables, or if
both only pass through a table and no other table is declared in between. -/
def areJoinedAtOnce (pieces : Nodes) (key : String) (piece : Node) : Bool :=
  match pieces.lookup key, piece with
  | some (.tables _ _), _ => true
  | some (.table .implied _), .table .implied _ =>
      (pieces.find? fun entry => entry.2.origin?.isSome).any (·.1 = key)
  | _, _ => false

/-- The tree of what stands under a key. -/
def tree (draft : Draft) (key : String) : Except Clash Nodes :=
  joinEntries (draft.entries.filter (·.1 = key)) (draft.pieces.reverse.filter (·.1 = key))

/-- Adds a piece under a key. What stood there must be one tree, and with the piece too unless they are
joined late. -/
def add (draft : Draft) (key : String) (piece : Node) : Except Clash Draft := do
  discard (draft.tree key)
  if areJoinedAtOnce draft.pieces key piece then
    let pieces ← joinEntry draft.pieces (key, piece)
    return { draft with pieces }
  else
    let last := (draft.pieces.lookup key).or (draft.entries.lookup key)
    let draft := { draft with pieces := (key, piece) :: draft.pieces }
    if !areJoinedLate last piece then discard (draft.tree key)
    return draft

/-- Puts an outermost section into the document. -/
def takeIn (draft : Draft) : Option Section → Except Clash Draft
  | none => .ok draft
  | some closed =>
      (branch closed.node closed.path).foldlM (fun draft (key, piece) => draft.add key piece) draft

def closeUntil (draft : Draft) (staysOpen : Section → Bool) : Except ReadFault Draft := do
  let (closed, sections) ← (Section.closeUntil staysOpen none draft.sections).mapError .clash
  ({ draft with sections }.takeIn closed).mapError fun _ => .malformed

/-- Opens the section of a header. -/
def begin (draft : Draft) (path : List String) (isArray : Bool) : Except ReadFault Draft := do
  let draft ← draft.closeUntil fun s => s.holds path || s.isContinuedBy path isArray
  match draft.sections with
  | [] => return { draft with sections := [⟨path, isArray, path.length = 1, [], []⟩] }
  | inner :: rest =>
      if inner.path = path then
        let inner := { inner with earlier := inner.earlier ++ [inner.entries], entries := [] }
        return { draft with sections := inner :: rest }
      else
        let isDirect := path.length = inner.path.length + 1
        return { draft with sections := ⟨path, isArray, isDirect, [], []⟩ :: inner :: rest }

/-- Writes a value in the innermost open section. -/
def write (draft : Draft) (key : List String) (value : Value) : Except ReadFault Draft :=
  match draft.sections with
  | [] => do
      let entries ← (assign value key draft.entries).mapError fun _ => .malformed
      return { draft with entries }
  | inner :: rest => do
      let entries ← (assign value key inner.entries).mapError .clash
      return { draft with sections := { inner with entries } :: rest }

/-- The table that is described when all is read. -/
def finish (draft : Draft) : Except ReadFault Table := do
  let draft ← draft.closeUntil fun _ => false
  let nodes ← (joinEntries draft.entries draft.pieces.reverse).mapError .clash
  return nodesToTable nodes

end Draft

end C4Model.Toml
