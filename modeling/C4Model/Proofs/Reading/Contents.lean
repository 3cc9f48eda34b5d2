import C4Model.Proofs.Reading.Token
import C4Model.Proofs.Workspace.Outline

/-! Reading the header and the model back from tokens. A declaration ends where its tokens stop fitting: a
further literal is a technology, an opening brace begins what the element holds, and a word with an
equals sign after it begins the next declaration. So what is read does not depend on how the tokens were
laid out in lines. -/

namespace C4Model.Reading

open Layout Outline

/-- What a declaration says of an element. -/
structure Declared where
  identifier : String
  keyword : Keyword
  name : String
  description : String
  technology : Option String
  external : Bool

/-- What the line of a relationship says. -/
structure Arrow where
  source : String
  target : String
  description : String
  technology : Option String

/-- What the header and the model say. -/
structure Contents where
  title : String
  summary : String
  declarations : List (Tree Declared)
  relationships : List Arrow

def keyword? (text : String) : Option Keyword :=
  [Keyword.person, .softwareSystem, .container, .component].find? fun keyword => keyword.text == text

/-- A literal, if the next token is one. -/
def literal? : List Token → Option String × List Token
  | .literal text :: rest => (some text, rest)
  | rest => (none, rest)

/-- Whether the tag of external elements comes next. -/
def externalTag : List Token → Bool × List Token
  | .word word :: .literal tag :: rest =>
      if word = "tags" ∧ tag = Statement.externalTag then (true, rest)
      else (false, .word word :: .literal tag :: rest)
  | rest => (false, rest)

/-- What stands between braces, if there are any: the tag of external elements and declarations. -/
def body (declarations : List Token → Option (List (Tree Declared) × List Token)) :
    List Token → Option ((Bool × List (Tree Declared)) × List Token)
  | .opening :: rest =>
      (declarations (externalTag rest).2).bind fun (children, after) =>
        match after with
        | .closing :: after => some (((externalTag rest).1, children), after)
        | _ => none
  | rest => some ((false, []), rest)

/-- As many declarations as there are. The number bounds them, with all that they hold. -/
def declarations : Nat → List Token → Option (List (Tree Declared) × List Token)
  | bound + 1, .word identifier :: .equals :: .word word :: .literal name :: .literal description ::
      rest => do
      let keyword ← keyword? word
      let (technology, rest) := literal? rest
      let ((external, children), rest) ← body (declarations bound) rest
      let (others, rest) ← declarations bound rest
      return (.node ⟨identifier, keyword, name, description, technology, external⟩ children :: others,
        rest)
  | _, rest => some ([], rest)

/-- As many relationships as there are. -/
def arrows : List Token → List Arrow × List Token
  | .word source :: .arrow :: .word target :: .literal description :: .literal technology :: rest =>
      (⟨source, target, description, some technology⟩ :: (arrows rest).1, (arrows rest).2)
  | .word source :: .arrow :: .word target :: .literal description :: rest =>
      (⟨source, target, description, none⟩ :: (arrows rest).1, (arrows rest).2)
  | rest => ([], rest)

/-- The model up to its closing brace. -/
def model (title summary : String) (ts : List Token) : Option Contents := do
  let (declared, rest) ← declarations ts.length ts
  let (relationships, rest) := arrows rest
  match rest with
  | .closing :: _ => some ⟨title, summary, declared, relationships⟩
  | _ => none

/-- The header and the model; what comes after them is not read. -/
def contents : List Token → Option Contents
  | .word workspace :: .literal title :: .literal summary :: .opening :: .word directive :: .word mode ::
      .word modelWord :: .opening :: rest =>
      if workspace = "workspace" ∧ directive = "!identifiers" ∧ mode = "hierarchical" ∧
          modelWord = "model" then model title summary rest
      else none
  | _ => none

/-- The contents of a document. -/
def decode (text : String) : Option Contents :=
  contents (tokens text.toList)

/-- The tokens of the line of a declaration. -/
def Declared.head (declared : Declared) : List Token :=
  [.word declared.identifier, .equals, .word declared.keyword.text, .literal declared.name,
    .literal declared.description] ++ declared.technology.toList.map .literal

/-- The braces after the line of an element that holds nothing. -/
def emptyBraces : Keyword → List Token
  | .softwareSystem => [.opening, .closing]
  | .container => [.opening, .closing]
  | .person => []
  | .component => []

def tagTokens (external : Bool) : List Token :=
  if external then [.word "tags", .literal Statement.externalTag] else []

/-- The braces after the line of an element around the tokens of what it holds. -/
def Declared.braces (declared : Declared) (children : List (Tree Declared)) (inner : List Token) :
    List Token :=
  if !declared.external && children.isEmpty then emptyBraces declared.keyword
  else .opening :: (tagTokens declared.external ++ (inner ++ [.closing]))

mutual

def treeTokens : Tree Declared → List Token
  | .node declared children => declared.head ++ declared.braces children (forestTokens children)

def forestTokens : List (Tree Declared) → List Token
  | [] => []
  | tree :: rest => treeTokens tree ++ forestTokens rest

end

def Arrow.tokens (arrow : Arrow) : List Token :=
  [.word arrow.source, .arrow, .word arrow.target, .literal arrow.description]
    ++ arrow.technology.toList.map .literal

/-- The tokens of a document, `after` being those behind the model. -/
def Contents.tokens (contents : Contents) (after : List Token) : List Token :=
  [.word "workspace", .literal contents.title, .literal contents.summary, .opening,
    .word "!identifiers", .word "hierarchical", .word "model", .opening]
    ++ (forestTokens contents.declarations
      ++ (contents.relationships.flatMap Arrow.tokens ++ .closing :: after))

/-- The tokens go on with a word or a closing brace, so that neither a technology nor braces are read from
them. -/
def Separate (ts : List Token) : Prop :=
  (∃ after, ts = .closing :: after) ∨ ∃ word after, ts = .word word :: after

/-- The tokens go on with the end of a block or with a relationship. -/
def Undeclared (ts : List Token) : Prop :=
  (∃ after, ts = .closing :: after) ∨ ∃ source after, ts = .word source :: .arrow :: after

theorem Undeclared.separate {ts : List Token} (h : Undeclared ts) : Separate ts := by
  rcases h with ⟨after, rfl⟩ | ⟨source, after, rfl⟩
  · exact Or.inl ⟨after, rfl⟩
  · exact Or.inr ⟨source, _, rfl⟩

theorem declarations_undeclared {ts : List Token} (h : Undeclared ts) (bound : Nat) :
    declarations bound ts = some ([], ts) := by
  rcases h with ⟨after, rfl⟩ | ⟨source, after, rfl⟩ <;> cases bound <;> rfl

theorem separate_forestTokens (forest : List (Tree Declared)) {rest : List Token}
    (hrest : Separate rest) : Separate (forestTokens forest ++ rest) := by
  cases forest with
  | nil => exact hrest
  | cons tree forest =>
      cases tree with
      | node declared children => exact Or.inr ⟨declared.identifier, _, rfl⟩

theorem keyword?_text (keyword : Keyword) : keyword? keyword.text = some keyword := by
  cases keyword <;> decide

theorem literal?_append (technology : Option String) {rest : List Token}
    (hrest : ∀ text after, rest ≠ .literal text :: after) :
    literal? (technology.toList.map .literal ++ rest) = (technology, rest) := by
  cases technology with
  | some text => rfl
  | none =>
      rw [Option.toList_none, List.map_nil, List.nil_append, literal?.eq_2 rest hrest]

theorem externalTag_append (external : Bool) {rest : List Token}
    (hrest : ∀ word text after, rest ≠ .word word :: .literal text :: after) :
    externalTag (tagTokens external ++ rest) = (external, rest) := by
  cases external with
  | true => simp [tagTokens, externalTag]
  | false => exact externalTag.eq_2 rest hrest

theorem forestTokens_untagged (forest : List (Tree Declared)) {rest : List Token}
    (hrest : Undeclared rest) (word text : String) (after : List Token) :
    forestTokens forest ++ rest ≠ .word word :: .literal text :: after := by
  cases forest with
  | nil => rcases hrest with ⟨_, rfl⟩ | ⟨_, _, rfl⟩ <;> simp [forestTokens]
  | cons tree forest =>
      cases tree with
      | node declared children => simp [forestTokens, treeTokens, Declared.head]

/-- Whatever an element holds, its braces are read back, once the declarations between them are. -/
theorem body_braces {read : List Token → Option (List (Tree Declared) × List Token)}
    (declared : Declared) {children : List (Tree Declared)}
    (hread : ∀ rest, Undeclared rest → read (forestTokens children ++ rest) = some (children, rest))
    {rest : List Token} (hrest : Separate rest) :
    body read (declared.braces children (forestTokens children) ++ rest) =
      some ((declared.external, children), rest) := by
  have hbraces : body read
      (.opening :: (tagTokens declared.external ++ (forestTokens children ++ .closing :: rest))) =
        some ((declared.external, children), rest) := by
    have hclosing : Undeclared (.closing :: rest) := Or.inl ⟨rest, rfl⟩
    rw [body, externalTag_append _ (forestTokens_untagged children hclosing), hread _ hclosing,
      Option.bind_some]
  rw [Declared.braces]
  split
  · rename_i hempty
    rw [Bool.and_eq_true, Bool.not_eq_true', List.isEmpty_iff] at hempty
    obtain ⟨hexternal, rfl⟩ := hempty
    cases declared.keyword with
    | softwareSystem | container =>
        simpa [hexternal, tagTokens, forestTokens, emptyBraces] using hbraces
    | person | component =>
        rw [hexternal]
        rcases hrest with ⟨after, rfl⟩ | ⟨word, after, rfl⟩ <;> rfl
  · simpa using hbraces

theorem braces_not_literal (declared : Declared) (children : List (Tree Declared))
    (inner : List Token) {rest : List Token} (hrest : Separate rest) (text : String)
    (after : List Token) :
    declared.braces children inner ++ rest ≠ .literal text :: after := by
  have hskip : rest ≠ .literal text :: after := by
    rcases hrest with ⟨_, rfl⟩ | ⟨_, _, rfl⟩ <;> simp
  rw [Declared.braces]
  split
  · cases declared.keyword <;> simp [emptyBraces, hskip]
  · simp

/-- Declarations are read back from their tokens. -/
theorem declarations_forestTokens {bound : Nat} {forest : List (Tree Declared)}
    (hbound : (elementsOf forest).length ≤ bound) {rest : List Token} (hrest : Undeclared rest) :
    declarations bound (forestTokens forest ++ rest) = some (forest, rest) := by
  induction bound generalizing forest rest with
  | zero =>
      cases forest with
      | nil => exact declarations_undeclared hrest 0
      | cons tree forest =>
          cases tree with
          | node declared children => simp [elementsOf, elements] at hbound
  | succ bound ih =>
      cases forest with
      | nil => exact declarations_undeclared hrest _
      | cons tree forest =>
          cases tree with
          | node declared children =>
              rw [elementsOf, elements, List.length_append, List.length_cons] at hbound
              have hchildren : ∀ rest, Undeclared rest →
                  declarations bound (forestTokens children ++ rest) = some (children, rest) :=
                fun rest hrest => ih (by omega) hrest
              have hothers : declarations bound (forestTokens forest ++ rest) = some (forest, rest) :=
                ih (by omega) hrest
              have hseparate := separate_forestTokens forest hrest.separate
              have hbody := body_braces declared hchildren hseparate
              have htechnology := literal?_append declared.technology
                (braces_not_literal declared children (forestTokens children) hseparate)
              simp only [forestTokens, treeTokens, Declared.head, List.append_assoc, List.cons_append,
                List.nil_append, declarations, keyword?_text, htechnology, hbody, hothers,
                Option.bind_eq_bind, Option.bind_some, Option.pure_def]

theorem undeclared_arrows (list : List Arrow) (after : List Token) :
    Undeclared (list.flatMap Arrow.tokens ++ .closing :: after) := by
  cases list with
  | nil => exact Or.inl ⟨after, rfl⟩
  | cons arrow rest => exact Or.inr ⟨arrow.source, _, rfl⟩

theorem arrows_tokens (list : List Arrow) (after : List Token) :
    arrows (list.flatMap Arrow.tokens ++ .closing :: after) = (list, .closing :: after) := by
  induction list with
  | nil => rfl
  | cons arrow rest ih =>
      obtain ⟨source, target, description, technology⟩ := arrow
      rw [List.flatMap_cons, List.append_assoc]
      cases technology with
      | some technology =>
          simp only [Arrow.tokens, Option.toList_some, List.map_cons, List.map_nil, List.cons_append,
            List.nil_append, arrows, ih]
      | none =>
          have hskip : ∀ text others,
              rest.flatMap Arrow.tokens ++ .closing :: after ≠ .literal text :: others := by
            cases rest <;> simp [Arrow.tokens]
          simp only [Arrow.tokens, Option.toList_none, List.map_nil, List.append_nil,
            List.cons_append, List.nil_append, arrows.eq_2 _ _ _ _ hskip, ih]

mutual

theorem length_elements_le (tree : Tree Declared) :
    (elements tree).length ≤ (treeTokens tree).length := by
  cases tree with
  | node declared children =>
      have hchildren := length_elementsOf_le children
      have hbraces : (elementsOf children).length ≤
          (declared.braces children (forestTokens children)).length := by
        rw [Declared.braces]
        split
        · rename_i hempty
          rw [Bool.and_eq_true, List.isEmpty_iff] at hempty
          simp [hempty.2, elementsOf]
        · simp only [List.length_cons, List.length_append]
          omega
      simp only [elements, treeTokens, Declared.head, List.length_cons, List.length_append]
      omega

/-- Every element takes a token at least. -/
theorem length_elementsOf_le (forest : List (Tree Declared)) :
    (elementsOf forest).length ≤ (forestTokens forest).length := by
  cases forest with
  | nil => exact Nat.zero_le _
  | cons tree rest =>
      have htree := length_elements_le tree
      have hrest := length_elementsOf_le rest
      simp only [elementsOf, forestTokens, List.length_append]
      omega

end

/-- Contents are read back from their tokens, whatever comes after them. -/
theorem contents_tokens (contents : Contents) (after : List Token) :
    Reading.contents (contents.tokens after) = some contents := by
  have hbound : (elementsOf contents.declarations).length ≤
      (forestTokens contents.declarations ++
        (contents.relationships.flatMap Arrow.tokens ++ .closing :: after)).length := by
    rw [List.length_append]
    exact Nat.le_trans (length_elementsOf_le _) (Nat.le_add_right _ _)
  have hdeclarations := declarations_forestTokens hbound
    (undeclared_arrows contents.relationships after)
  simp only [Contents.tokens, List.cons_append, List.nil_append, Reading.contents, and_self, if_true,
    model, hdeclarations, Option.bind_eq_bind, Option.bind_some, arrows_tokens]

end C4Model.Reading
