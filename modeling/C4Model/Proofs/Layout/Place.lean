import C4Model.Proofs.Outcome
import C4Model.Proofs.Reading.Literals

/-! Places between quotes. A text with its escapes and the quote after it are all that a scanner reads from
behind an opening quote, whatever comes after them. A template puts such a text into every place that it has
between quotes. So the scanner that starts there finds the text that was put in, and leaves the line as
the rest of the template has it. -/

namespace C4Model

namespace Literal

theorem scan_escape (text rest : String) :
    scan (escape text ++ ("\"" ++ rest)).toList = some (text.toList, rest.toList) := by
  have hchars : (escape text ++ ("\"" ++ rest)).toList =
      escapeChars text.toList ++ '"' :: rest.toList := by
    simp
  rw [hchars, scan_escapeChars]

theorem escape_injective : Function.Injective escape := by
  intro first second h
  have hscan := scan_escape first ""
  rw [h, scan_escape] at hscan
  exact String.toList_inj.mp (Prod.mk.inj (Option.some.inj hscan)).1.symm

end Literal

namespace Layout

open Reading (Holds Unquoted)

namespace Template

variable {fields : List (String × String)} {template : Template} {line : String}

/-- A template is filled part by part. -/
theorem fill_append_eq_ok_iff {first second : Template} :
    fill fields (first ++ second) = .ok line ↔
      ∃ front back, fill fields first = .ok front ∧ fill fields second = .ok back ∧
        front ++ back = line := by
  induction first generalizing line with
  | nil => simp [fill]
  | cons piece rest ih =>
      cases piece with
      | text text => simp [fill, Outcome.map_eq_ok_iff, ih, String.append_assoc]
      | field name =>
          rw [List.cons_append, fill, fill]
          cases fields.lookup name <;> simp [Outcome.map_eq_ok_iff, ih, String.append_assoc]
      | fault fault => simp [fill]

/-- A place between quotes: a field, after a text that ends in a quote and before one that begins with
a quote. -/
structure Place (template : Template) where
  before : Template
  opening : String
  name : String
  closing : String
  after : Template
  template_eq : template = before ++ .text (opening ++ "\"") :: .field name ::
    .text ("\"" ++ closing) :: after

namespace Place

/-- What the template has before the opening quote. -/
def front (place : template.Place) : Template :=
  place.before ++ [.text place.opening]

/-- What the template has behind the closing quote. -/
def back (place : template.Place) : Template :=
  .text place.closing :: place.after

/-- What fills a place stands between its quotes. -/
theorem exists_fill (place : template.Place) (h : template.fill fields = .ok line) :
    ∃ front value back, place.front.fill fields = .ok front ∧
      fields.lookup place.name = some value ∧ place.back.fill fields = .ok back ∧
      line = front ++ ("\"" ++ (value ++ ("\"" ++ back))) := by
  rw [place.template_eq] at h
  obtain ⟨before, rest, hbefore, hrest, rfl⟩ := fill_append_eq_ok_iff.mp h
  rw [fill, fill] at hrest
  cases hvalue : fields.lookup place.name with
  | none => rw [hvalue] at hrest; cases hrest
  | some value =>
      rw [hvalue] at hrest
      simp only [fill, Outcome.map_eq_ok_iff] at hrest
      obtain ⟨_, ⟨_, ⟨after, hafter, rfl⟩, rfl⟩, rfl⟩ := hrest
      refine ⟨before ++ place.opening, value, place.closing ++ after, ?_, rfl, ?_, ?_⟩
      · exact fill_append_eq_ok_iff.mpr ⟨before, place.opening, hbefore, by simp [fill, Except.map], rfl⟩
      · rw [back, fill, hafter]
        rfl
      · simp only [String.append_assoc]

end Place

/-- The names of the fields between quotes. -/
def quotedNames : Template → List String
  -- The text with a closing quote may have the next opening one too, so it is looked at again.
  | .text opening :: .field name :: .text closing :: rest =>
      (if opening.toList.getLast? = some '"' ∧ closing.toList.head? = some '"' then [name] else []) ++
        quotedNames (.text closing :: rest)
  | _ :: rest => quotedNames rest
  | [] => []

/-- A place stays one with a further piece in front. -/
def Place.behind (piece : Piece) (place : template.Place) : Template.Place (piece :: template) where
  before := piece :: place.before
  opening := place.opening
  name := place.name
  closing := place.closing
  after := place.after
  template_eq := congrArg (piece :: ·) place.template_eq

theorem exists_place {name : String} (h : name ∈ template.quotedNames) :
    ∃ place : template.Place, place.name = name := by
  fun_induction quotedNames template with
  | case1 opening field closing rest ih =>
      rcases List.mem_append.mp h with h | h
      · obtain ⟨⟨hlast, hhead⟩, hname⟩ := List.mem_ite_nil_right.mp h
        obtain ⟨front, hfront⟩ := List.getLast?_eq_some_iff.mp hlast
        obtain ⟨back, hback⟩ := List.head?_eq_some_iff.mp hhead
        have hopening : opening = String.ofList front ++ "\"" := by
          simp [← String.toList_inj, hfront]
        have hclosing : closing = "\"" ++ String.ofList back := by
          simp [← String.toList_inj, hback]
        exact ⟨⟨[], String.ofList front, field, String.ofList back, rest, by rw [hopening, hclosing]; rfl⟩,
          (List.mem_singleton.mp hname).symm⟩
      · obtain ⟨place, rfl⟩ := ih h
        exact ⟨(place.behind _).behind _, rfl⟩
  | case2 piece rest _ ih =>
      obtain ⟨place, rfl⟩ := ih h
      exact ⟨place.behind piece, rfl⟩
  | case3 => cases h

end Template

/-- The text of a part that is a literal. -/
@[simp] def Part.held? : Part → Option String
  | .bare _ => none
  | .literal text => some text

theorem filterMap_held?_technologyParts (technology : Option String) :
    (technologyParts technology).filterMap Part.held? = (Line.present technology).toList := by
  rw [technologyParts]
  cases Line.present technology <;> rfl

theorem bare_not_mem_technologyParts (text : String) (technology : Option String) :
    .bare text ∉ technologyParts technology := by
  rw [technologyParts]
  cases Line.present technology <;> simp

theorem holds_unquoted {text : String} (h : Unquoted text) : Holds [] text.toList :=
  Reading.holds_nothing fun hmem => h _ hmem rfl

theorem holds_parts {parts : List Part} (h : ∀ text, .bare text ∈ parts → Unquoted text) :
    Holds (parts.filterMap Part.held?) (parts.flatMap fun part => ' ' :: part.chars) := by
  have hspace : Holds [] [' '] := Reading.holds_nothing (by decide)
  induction parts with
  | nil => exact Reading.holds_nothing List.not_mem_nil
  | cons part rest ih =>
      have hrest := ih fun text hmem => h text (List.mem_cons_of_mem _ hmem)
      rw [List.flatMap_cons, ← List.singleton_append]
      cases part with
      | bare text => exact (hspace.append (holds_unquoted (h text List.mem_cons_self))).append hrest
      | literal text => exact (hspace.append (Reading.holds_quote text)).append hrest

/-- A line of a word and parts has the literals that are among its parts, and no others. -/
theorem holds_of_phrase {word text closing : String} {parts : List Part}
    (htext : text.toList = phrase word parts ++ closing.toList) (hword : Unquoted word)
    (hparts : ∀ text, .bare text ∈ parts → Unquoted text) (hclosing : Unquoted closing) :
    Holds (parts.filterMap Part.held?) text.toList := by
  have hholds := ((holds_unquoted hword).append (holds_parts hparts)).append (holds_unquoted hclosing)
  rwa [List.nil_append, List.append_nil, ← phrase, ← htext] at hholds

theorem holds_of_eq_phrase {word text : String} {parts : List Part} (htext : text.toList = phrase word parts)
    (hword : Unquoted word) (hparts : ∀ text, .bare text ∈ parts → Unquoted text) :
    Holds (parts.filterMap Part.held?) text.toList :=
  holds_of_phrase (htext.trans (List.append_nil _).symm) hword hparts (by decide : Unquoted "")

namespace Line

/-- The texts that a line has in literals, with the names of their fields, in the order of the places. The
key of a view is made from a title. -/
inductive Quotes : Line → List (String × String) → Prop
  | workspaceOpen (name description : String) :
      Quotes (.workspaceOpen name description) [("name", name), ("description", description)]
  | element (identifier keyword name description : String) (technology : Option String) :
      Quotes (.element identifier keyword name description technology)
        ([("name", name), ("description", description)] ++
          (present technology).toList.map fun text => ("technology", text))
  | externalTags : Quotes .externalTags [("tags", Statement.externalTag)]
  | relationship (source target description : String) (technology : Option String) :
      Quotes (.relationship source target description technology)
        ([("description", description)] ++
          (present technology).toList.map fun text => ("technology", text))
  | viewOpen (viewType : String) (scope : Option String) (title : String) :
      Quotes (.viewOpen viewType scope (Naming.viewKey title)) [("title", underscored title)]
  | viewInclude (reference : String) : Quotes (.viewInclude reference) []
  | viewExclude (reference : String) : Quotes (.viewExclude reference) []
  | elementStyleOpen (tag : String) : Quotes (.elementStyleOpen tag) [("tag", tag)]
  | relationshipStyleOpen (tag : String) : Quotes (.relationshipStyleOpen tag) [("tag", tag)]
  | styleAttribute (name value : String) : Quotes (.styleAttribute name value) []

variable {line : Line} {texts : List (String × String)}

/-- They are for the fields between quotes. -/
theorem Quotes.map_fst (h : line.Quotes texts) : texts.map Prod.fst = line.template.quotedNames := by
  cases h with
  | element identifier keyword name description technology =>
      rw [template]
      cases present technology <;> rfl
  | relationship source target description technology =>
      rw [template]
      cases present technology <;> rfl
  | viewOpen viewType scope title => cases scope <;> rfl
  | _ => rfl

/-- They go into the line with their escapes. -/
theorem Quotes.lookup_fields (h : line.Quotes texts) :
    ∀ entry ∈ texts, line.fields.lookup entry.1 = some (Literal.escape entry.2) := by
  rw [← List.map_inj_left]
  cases h with
  | element identifier keyword name description technology =>
      rw [fields, technologyField]
      cases present technology <;> rfl
  | externalTags => decide
  | relationship source target description technology =>
      rw [fields, technologyField]
      cases present technology <;> rfl
  | _ => rfl

/-- From behind the opening quote of its place each is read as it is, and nothing else of the line, nor of
what comes after the line. -/
theorem Quotes.exists_place (h : line.Quotes texts) {entry : String × String} (hentry : entry ∈ texts) :
    ∃ place : line.template.Place, place.name = entry.1 ∧ ∃ front back,
      place.front.fill line.fields = .ok front ∧ place.back.fill line.fields = .ok back ∧
      line.text = front ++ (Statement.quote entry.2 ++ back) ∧
      ∀ after, Literal.scan (Literal.escape entry.2 ++ ("\"" ++ (back ++ after))).toList =
        some (entry.2.toList, (back ++ after).toList) := by
  have hname : entry.1 ∈ line.template.quotedNames := h.map_fst ▸ List.mem_map_of_mem hentry
  obtain ⟨place, hplace⟩ := Template.exists_place hname
  obtain ⟨front, value, back, hfront, hvalue, hback, htext⟩ := place.exists_fill line.fill_template
  rw [hplace, h.lookup_fields entry hentry] at hvalue
  obtain rfl := Option.some.inj hvalue
  refine ⟨place, hplace, front, back, hfront, hback, ?_, fun after => Literal.scan_escape _ _⟩
  rw [htext, Statement.quote]
  simp only [String.append_assoc]

/-- Read from its beginning, a line has these texts in its literals, if no field outside has quotes. -/
theorem Quotes.holds (h : line.Quotes texts)
    (hbare : ∀ field ∈ line.fields, field.1 ∉ texts.map Prod.fst → Unquoted field.2) :
    Holds (texts.map Prod.snd) line.text.toList := by
  cases h with
  | workspaceOpen name description =>
      exact holds_of_phrase (Statement.toList_workspaceOpen name description) (by decide) (by simp)
        (by decide)
  | element identifier keyword name description technology =>
      have hidentifier : Unquoted identifier :=
        hbare ("identifier", identifier) (by simp [fields]) (by simp)
      have hkeyword : Unquoted keyword := hbare ("keyword", keyword) (by simp [fields]) (by simp)
      have hsign : Unquoted "=" := by decide
      have hheld := holds_of_eq_phrase (Statement.toList_element identifier keyword name description
        technology) hidentifier (by simp [hsign, hkeyword, bare_not_mem_technologyParts])
      simpa [text, List.filterMap_cons, filterMap_held?_technologyParts, Function.comp_def] using hheld
  | externalTags => exact holds_of_eq_phrase Statement.toList_externalTags (by decide) (by simp)
  | relationship source target description technology =>
      have hsource : Unquoted source := hbare ("source", source) (by simp [fields]) (by simp)
      have htarget : Unquoted target := hbare ("target", target) (by simp [fields]) (by simp)
      have hsign : Unquoted "->" := by decide
      have hheld := holds_of_eq_phrase (Statement.toList_relationship source target description technology)
        hsource (by simp [hsign, htarget, bare_not_mem_technologyParts])
      simpa [text, List.filterMap_cons, filterMap_held?_technologyParts, Function.comp_def] using hheld
  | viewOpen viewType scope title =>
      have hviewType : Unquoted viewType := hbare ("view_type", viewType) (by simp [fields]) (by simp)
      have hscope : ∀ path, scope = some path → Unquoted path := fun path hpath =>
        hbare ("identifier", path) (by simp [fields, hpath]) (by simp)
      have hheld := holds_of_phrase (Statement.toList_viewOpen viewType scope title) hviewType
        (by simpa using hscope) (by decide)
      cases scope <;> exact hheld
  | viewInclude reference =>
      have hreference : Unquoted reference := hbare ("reference", reference) (by simp [fields]) (by simp)
      exact holds_of_eq_phrase (Statement.toList_viewInclude reference) (by decide) (by simp [hreference])
  | viewExclude reference =>
      have hreference : Unquoted reference := hbare ("reference", reference) (by simp [fields]) (by simp)
      exact holds_of_eq_phrase (Statement.toList_viewExclude reference) (by decide) (by simp [hreference])
  | elementStyleOpen tag =>
      exact holds_of_phrase (Statement.toList_elementStyleOpen tag) (by decide) (by simp) (by decide)
  | relationshipStyleOpen tag =>
      exact holds_of_phrase (Statement.toList_relationshipStyleOpen tag) (by decide) (by simp) (by decide)
  | styleAttribute name value =>
      have hname : Unquoted name := hbare ("attribute", name) (by simp [fields]) (by simp)
      have hvalue : Unquoted value := hbare ("value", value) (by simp [fields]) (by simp)
      exact holds_of_eq_phrase (Statement.toList_styleAttribute name value) hname (by simp [hvalue])

end Line

/-- An escaped text delimits itself: a scanner behind the opening quote reads the text, whatever it is and
whatever follows the closing quote. So different texts are escaped differently, and in a line the scanner finds
every text that was put between quotes, from the opening quote of its place as from the beginning of
the line. -/
theorem escaped_texts_delimited :
    (∀ text rest : String,
      Literal.scan (Literal.escape text ++ ("\"" ++ rest)).toList = some (text.toList, rest.toList)) ∧
    Function.Injective Literal.escape ∧
    ∀ (line : Line) (texts : List (String × String)), line.Quotes texts →
      line.template.fill line.fields = .ok line.text ∧
      (∀ entry ∈ texts, ∃ place : line.template.Place, place.name = entry.1 ∧ ∃ front back,
        place.front.fill line.fields = .ok front ∧ place.back.fill line.fields = .ok back ∧
        line.text = front ++ (Statement.quote entry.2 ++ back) ∧
        ∀ after, Literal.scan (Literal.escape entry.2 ++ ("\"" ++ (back ++ after))).toList =
          some (entry.2.toList, (back ++ after).toList)) ∧
      ((∀ field ∈ line.fields, field.1 ∉ texts.map Prod.fst → Unquoted field.2) → ∀ after : String,
        Reading.literals (line.text ++ after).toList =
          (Reading.literals after.toList).map (texts.map Prod.snd ++ ·)) := by
  refine ⟨Literal.scan_escape, Literal.escape_injective, fun line texts h =>
    ⟨line.fill_template, fun entry hentry => h.exists_place hentry, fun hbare after => ?_⟩⟩
  rw [String.toList_append]
  exact h.holds hbare after.toList

/-- A request whose texts end in a backslash and in a quote. -/
def request : Line :=
  .relationship "reader" "shop" "Asks for \"1984\\" (some "\\\"")

theorem escaped_texts_delimited_in_request :
    request.Quotes [("description", "Asks for \"1984\\"), ("technology", "\\\"")] ∧
    request.text = "reader -> shop \"Asks for \\\"1984\\\\\" \"\\\\\\\"\"" ∧
    (∃ place : request.template.Place, place.name = "description" ∧ ∃ back,
      Literal.scan (Literal.escape "Asks for \"1984\\" ++ ("\"" ++ (back ++ "\n"))).toList =
        some ("Asks for \"1984\\".toList, (back ++ "\n").toList)) ∧
    Reading.literals (request.text ++ "\n\x7d").toList = some ["Asks for \"1984\\", "\\\""] := by
  have hquotes : request.Quotes [("description", "Asks for \"1984\\"), ("technology", "\\\"")] :=
    .relationship "reader" "shop" "Asks for \"1984\\" (some "\\\"")
  obtain ⟨-, hplaces, hline⟩ := escaped_texts_delimited.2.2 _ _ hquotes
  obtain ⟨place, hname, -, back, -, -, -, hscan⟩ := hplaces _ List.mem_cons_self
  have hafter : Reading.literals "\n\x7d".toList = some [] :=
    (Reading.holds_nothing (by decide)).literals
  refine ⟨hquotes, by decide, ⟨place, hname, back, hscan "\n"⟩, ?_⟩
  rw [hline (by decide), hafter]
  rfl

end Layout

end C4Model
