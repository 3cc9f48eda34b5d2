import C4Model.Document.Value

/-! The tree that a TOML document builds up. Sections are read into trees of their own, which are then
joined with the tree of what holds them. Whether two trees can be joined hangs on how their tables came
about: a table that was only passed through on the way to another may still be declared, one that was
declared or written by dotted keys may not. -/

namespace C4Model.Toml

/-- How a table came about: on the way to a declared one, by dotted keys, or by its own declaration. -/
inductive Origin where
  | implied
  | dotted
  | declared
  deriving DecidableEq

/-- Why two things cannot stand at one place. -/
inductive Clash where
  | keyTaken
  /-- A table that dotted keys have written is declared. -/
  | tableRedefined
  deriving DecidableEq

def Clash.message : Clash → String
  | .keyTaken => "a key is used twice"
  | .tableRedefined => "a table is defined twice"

/-- A place in the tree. Of an array of tables the last one is open, those before it are done. -/
inductive Node where
  | value (value : Value)
  | table (origin : Origin) (entries : List (String × Node))
  | tables (earlier : List (List (String × Node))) (last : List (String × Node))

abbrev Nodes := List (String × Node)

/-- How the table came about, if the node is one. -/
def Node.origin? : Node → Option Origin
  | .table origin _ => some origin
  | _ => none

/-- Changes what stands under a key, or refuses to. A new key goes to the end. -/
def alter (key : String) (change : Option Node → Except Clash Node) : Nodes → Except Clash Nodes
  | [] => (change none).map fun node => [(key, node)]
  | entry :: rest =>
      if entry.1 = key then (change (some entry.2)).map fun node => (key, node) :: rest
      else (alter key change rest).map (entry :: ·)

/-- Writes a value under a dotted key. -/
def assign (value : Value) : List String → Nodes → Except Clash Nodes
  | [] => fun _ => .error .keyTaken
  | [key] => alter key fun
      | none => .ok (.value value)
      | some _ => .error .keyTaken
  | key :: path => alter key fun
      | none => (assign value path []).map (.table .dotted)
      | some (.table .dotted entries) => (assign value path entries).map (.table .dotted)
      | some _ => .error .keyTaken

/-- The origin of a table that came about in two ways, of which one must be the mere passing. -/
def Origin.join : Origin → Origin → Except Clash Origin
  | .implied, later => .ok later
  | earlier, .implied => .ok earlier
  | .dotted, .declared => .error .tableRedefined
  | _, _ => .error .keyTaken

mutual

/-- Puts a later node on the place of an earlier one. The tables of two arrays follow one another, and
what passes through an array goes to its open table. -/
def Node.join (earlier : Node) : Node → Except Clash Node
  | .value _ => .error .keyTaken
  | .table origin entries =>
      match earlier with
      | .table before old => do
          let origin ← before.join origin
          return .table origin (← joinEntries old entries)
      | .tables done last =>
          if origin = .implied then (joinEntries last entries).map (.tables done)
          else .error .keyTaken
      | .value _ => .error .keyTaken
  | .tables done last =>
      match earlier with
      | .tables before open_ => .ok (.tables (before ++ open_ :: done) last)
      | _ => .error .keyTaken

/-- Joins the entries of a later tree, one after another, with those of an earlier one. -/
def joinEntries (earlier : Nodes) : Nodes → Except Clash Nodes
  | [] => .ok earlier
  | entry :: rest => do joinEntries (← joinEntry earlier entry) rest

def joinEntry (earlier : Nodes) : String × Node → Except Clash Nodes
  | (key, node) => alter key (fun
      | none => .ok node
      | some old => old.join node) earlier

end

/-- The tree that holds nothing but a node at the end of a path. -/
def branch (node : Node) : List String → Nodes
  | [] => []
  | [key] => [(key, node)]
  | key :: path => [(key, .table .implied (branch node path))]

mutual

def Node.toValue : Node → Value
  | .value value => value
  | .table _ entries => .table (nodesToTable entries)
  | .tables earlier last => .array (tablesToValues earlier ++ [.table (nodesToTable last)])

def nodesToTable : List (String × Node) → Table
  | [] => []
  | entry :: rest => entryToValue entry :: nodesToTable rest

def entryToValue : String × Node → String × Value
  | (key, node) => (key, node.toValue)

def tablesToValues : List (List (String × Node)) → List Value
  | [] => []
  | entries :: rest => .table (nodesToTable entries) :: tablesToValues rest

end

end C4Model.Toml
