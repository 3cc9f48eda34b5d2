import C4Model.Files.Text
import Mathlib.Data.List.Basic

/-! Writing into the tree of files. A file that is written is found by the path that it was written to, and
holds what was written; at every other place there is what was there before. -/

namespace C4Model.Files.FileTree

variable {tree after : FileTree} {place : List String} {content : ByteArray}

theorem lookup_filter_ne {entries : List (List String × Node)} {other : List String} (h : other ≠ place) :
    (entries.filter fun entry => entry.1 ≠ place).lookup other = entries.lookup other := by
  induction entries with
  | nil => rfl
  | cons entry rest ih =>
      obtain ⟨key, node⟩ := entry
      by_cases hkey : key = place
      · have hother : (other == key) = false := by
          rw [beq_eq_false_iff_ne, hkey]
          exact h
        rw [List.filter_cons_of_neg (by simpa using hkey), ih, List.lookup_cons, hother]
      · rw [List.filter_cons_of_pos (by simpa using hkey), List.lookup_cons, List.lookup_cons, ih]

/-- What is found before a file is put somewhere else is found after it too. -/
theorem node?_put_of_ne {other : List String} {node : Node} (h : tree.node? other = some node)
    (hne : other ≠ place) : (tree.put place content).node? other = some node := by
  have hlookup : (tree.put place content).nodes.lookup other = tree.nodes.lookup other := by
    have hother : (other == place) = false := beq_eq_false_iff_ne.mpr hne
    rw [put, List.lookup_cons, hother]
    exact lookup_filter_ne hne
  rw [node?, hlookup]
  rw [node?] at h
  cases hfound : tree.nodes.lookup other with
  | some found =>
      rw [hfound] at h
      exact h
  | none =>
      rw [hfound] at h
      -- A directory is one by what it holds, and what was at the place is still there.
      simp only [Option.ite_none_right_eq_some, Bool.or_eq_true, List.any_eq_true] at h ⊢
      refine ⟨h.1.imp_right ?_, h.2⟩
      rintro ⟨entry, hentry, hprefix⟩
      by_cases hplace : entry.1 = place
      · exact ⟨_, List.mem_cons_self, hplace ▸ hprefix⟩
      · exact ⟨entry, List.mem_cons_of_mem _ (List.mem_filter.mpr ⟨hentry, by simpa using hplace⟩), hprefix⟩

theorem walk_file (step : String) (rest : List String) :
    tree.walk place (.file content) (step :: rest) = .error .notADirectory := by
  rw [walk]

theorem walk_up (rest : List String) :
    tree.walk place .directory (upStep :: rest) = tree.walk place.dropLast .directory rest := by
  rw [walk, if_pos rfl]

theorem walk_missing {step : String} (hstep : step ≠ upStep) (h : tree.node? (place ++ [step]) = none)
    (rest : List String) : tree.walk place .directory (step :: rest) = .error .notFound := by
  rw [walk, if_neg hstep, h]

theorem walk_down {step : String} (hstep : step ≠ upStep) {node : Node}
    (h : tree.node? (place ++ [step]) = some node) (rest : List String) :
    tree.walk place .directory (step :: rest) = tree.walk (place ++ [step]) node rest := by
  rw [walk, if_neg hstep, h]

/-- A walk of one step or more, from a directory: upwards, or to what is there. -/
theorem walk_cons_eq_ok_iff {step : String} {rest reached : List String} {found : Node} :
    tree.walk place .directory (step :: rest) = .ok (reached, found) ↔
      step = upStep ∧ tree.walk place.dropLast .directory rest = .ok (reached, found) ∨
      step ≠ upStep ∧ ∃ node, tree.node? (place ++ [step]) = some node ∧
        tree.walk (place ++ [step]) node rest = .ok (reached, found) := by
  by_cases hstep : step = upStep
  · simp [hstep, walk_up]
  · cases hnode : tree.node? (place ++ [step]) with
    | none => simp [hstep, walk_missing hstep hnode]
    | some node => simp [hstep, walk_down hstep hnode]

theorem walk_append (node : Node) (first second : List String) :
    tree.walk place node (first ++ second) =
      tree.walk place node first >>= fun reached => tree.walk reached.1 reached.2 second := by
  induction first generalizing place node with
  | nil => simp [walk, bind, Except.bind]
  | cons step rest ih =>
      cases node with
      | file => rw [List.cons_append, walk_file, walk_file]; rfl
      | directory =>
          by_cases hstep : step = upStep
          · rw [hstep, List.cons_append, walk_up, walk_up, ih]
          · cases hnode : tree.node? (place ++ [step]) with
            | none => rw [List.cons_append, walk_missing hstep hnode, walk_missing hstep hnode]; rfl
            | some node => rw [List.cons_append, walk_down hstep hnode, walk_down hstep hnode, ih]

/-- Only from the end of a walk is a file reached. -/
theorem walk_file_eq_ok_iff {steps reached : List String} {found : Node} :
    tree.walk place (.file content) steps = .ok (reached, found) ↔
      steps = [] ∧ place = reached ∧ .file content = found := by
  cases steps with
  | nil => simp [walk]
  | cons step rest => simp [walk_file]

theorem node?_of_walk {steps reached : List String} {old : ByteArray}
    (h : tree.walk place .directory steps = .ok (reached, .file old)) :
    tree.node? reached = some (.file old) := by
  induction steps generalizing place with
  | nil => simp [walk] at h
  | cons step rest ih =>
      rcases walk_cons_eq_ok_iff.mp h with ⟨-, h⟩ | ⟨-, node, hnode, h⟩
      · exact ih h
      · cases node with
        | directory => exact ih h
        | file =>
            obtain ⟨-, rfl, hsame⟩ := walk_file_eq_ok_iff.mp h
            rw [hnode, hsame]

/-- A walk to a directory leads there also after a file was put where none was met on the way. -/
theorem walk_put_directory {steps reached : List String} (hnew : tree.node? place = none)
    {start : List String} (h : tree.walk start .directory steps = .ok (reached, .directory)) :
    (tree.put place content).walk start .directory steps = .ok (reached, .directory) := by
  induction steps generalizing start with
  | nil => simpa [walk] using h
  | cons step rest ih =>
      rcases walk_cons_eq_ok_iff.mp h with ⟨rfl, h⟩ | ⟨hstep, node, hnode, h⟩
      · rw [walk_up]
        exact ih h
      · cases node with
        | file => simp [walk_file_eq_ok_iff] at h
        | directory =>
            have hne : start ++ [step] ≠ place := by
              rintro rfl
              rw [hnew] at hnode
              cases hnode
            rw [walk_down hstep (node?_put_of_ne hnode hne)]
            exact ih h

/-- A walk to a file leads there also after the file was replaced. -/
theorem walk_put_file {steps start : List String} {old : ByteArray}
    (h : tree.walk start .directory steps = .ok (place, .file old)) :
    (tree.put place content).walk start .directory steps = .ok (place, .file content) := by
  have hplace := node?_of_walk h
  induction steps generalizing start with
  | nil => simp [walk] at h
  | cons step rest ih =>
      rcases walk_cons_eq_ok_iff.mp h with ⟨rfl, h⟩ | ⟨hstep, node, hnode, h⟩
      · rw [walk_up]
        exact ih h
      · cases node with
        | directory =>
            have hne : start ++ [step] ≠ place := by
              rintro heq
              rw [heq, hplace] at hnode
              cases hnode
            rw [walk_down hstep (node?_put_of_ne hnode hne)]
            exact ih h
        | file =>
            obtain ⟨rfl, rfl, -⟩ := walk_file_eq_ok_iff.mp h
            rw [walk_down hstep (tree.node?_put _ content), walk]

/-- A new file is found in the directory that it was put into. -/
theorem find_put_new {path : Path} (hmissing : tree.find path = .error .notFound)
    (hparent : tree.find { path with steps := path.steps.dropLast } = .ok (place, .directory)) :
    (tree.put (place ++ [path.name]) content).find path =
      .ok (place ++ [path.name], .file content) := by
  obtain ⟨root, steps⟩ := path
  rcases List.eq_nil_or_concat steps with rfl | ⟨front, last, rfl⟩
  · cases hmissing
  · rw [List.concat_eq_append] at *
    have hname : Path.name ⟨root, front ++ [last]⟩ = last := by simp [Path.name]
    simp only [find, hname, List.dropLast_concat, walk_append] at hmissing hparent ⊢
    have hstart : ∀ steps, (tree.put (place ++ [last]) content).startOf ⟨root, steps⟩ =
        tree.startOf ⟨root, steps⟩ := fun _ => rfl
    have hsame : ∀ steps, tree.startOf ⟨root, steps⟩ = tree.startOf ⟨root, front⟩ := fun _ => rfl
    rw [hsame, hparent] at hmissing
    change tree.walk place .directory [last] = _ at hmissing
    have hup : last ≠ upStep := by
      rintro rfl
      rw [walk_up, walk] at hmissing
      cases hmissing
    have hnew : tree.node? (place ++ [last]) = none := by
      cases hnode : tree.node? (place ++ [last]) with
      | none => rfl
      | some node =>
          rw [walk_down hup hnode, walk] at hmissing
          cases hmissing
    rw [hstart, hsame, walk_put_directory hnew hparent]
    change (tree.put (place ++ [last]) content).walk place .directory [last] = _
    rw [walk_down hup (tree.node?_put _ content), walk]

/-- A path leads to the file that was put at the place for it. -/
theorem find_put {path : Path} (h : tree.placeToWrite path = .ok place) :
    (tree.put place content).find path = .ok (place, .file content) := by
  rw [placeToWrite] at h
  split at h
  case h_1 => cases h
  case h_2 hfind =>
    obtain rfl := Except.ok.inj h
    exact walk_put_file hfind
  case h_3 hfind =>
    split at h
    case h_1 hparent =>
      obtain rfl := Except.ok.inj h
      exact find_put_new hfind hparent
    all_goals cases h
  case h_4 => cases h

theorem read_put {path : Path} (h : tree.placeToWrite path = .ok place) :
    (tree.put place content).read path = .ok content := by
  rw [read, find_put h]

variable {surrogates : Surrogates} {path : Path} {text : String}

/-- What was written as a whole is read back by the same path. -/
theorem writeText_eq_ok (h : tree.writeText surrogates path text = (.ok (), after)) :
    (∃ place, after = tree.put place text.toUTF8) ∧ after.read path = .ok text.toUTF8 := by
  rw [writeText] at h
  split at h
  case h_1 => cases h
  case h_2 place hplace =>
    split at h
    case h_1 => cases h
    case h_2 bytes hencode =>
      obtain ⟨-, rfl⟩ := Surrogates.encode_eq_ok_iff.mp hencode
      obtain ⟨hresult, rfl⟩ := Prod.mk.inj h
      split at hresult
      case isTrue => cases hresult
      case isFalse hfits =>
        have hwhole : text.toUTF8.extract 0 (tree.fitting text.toUTF8) = text.toUTF8 := by
          rw [← Nat.max_eq_left (Nat.le_of_not_lt hfits), ByteArray.extract_zero_max_size]
        rw [hwhole]
        exact ⟨⟨place, rfl⟩, read_put hplace⟩

end C4Model.Files.FileTree
