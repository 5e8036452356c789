import Wording.FileTree.Resolve
import Wording.Proofs.Text.Pieces

/-!
# The names of a path

* `FileTree.IsName` — a name that an entry of a directory can have.
* `Path.names` — the names that a path is followed by, slashes at its end apart.
* `Path.steps_eq`, `Path.no_slash_of_mem_steps` — the steps of a path are its names, and perhaps an
  empty one behind them; none has a slash in it.
* `Path.steps_ne_nil` — there is a step at least, unless the path is empty.
* `Path.pieces_intercalate` — names with slashes in between are cut into the names again.
* **`Path.names_join`** — joining a name to a path adds it to the names of the path.
-/

namespace Wording

namespace FileTree

/-- A name that an entry of a directory can have. -/
structure IsName (name : String) : Prop where
  ne_empty : name ≠ ""
  ne_dot : name ≠ "."
  ne_dotdot : name ≠ ".."
  no_slash : '/' ∉ name.toList

instance : DecidablePred IsName := fun name =>
  decidable_of_iff (name ≠ "" ∧ name ≠ "." ∧ name ≠ ".." ∧ '/' ∉ name.toList)
    ⟨fun ⟨hempty, hdot, hdots, hslash⟩ => ⟨hempty, hdot, hdots, hslash⟩,
      fun ⟨hempty, hdot, hdots, hslash⟩ => ⟨hempty, hdot, hdots, hslash⟩⟩

end FileTree

namespace Path

/-- The pieces of a path that are followed one after another, slashes at the end apart. -/
def names (path : String) : List String :=
  ((pieces path).filter (· ≠ [])).map String.ofList

/-- The names in a text that is no whole path: what stands between its slashes. -/
def namesIn (text : List Char) : List String :=
  ((Text.pieces '/' text).filter (· ≠ [])).map String.ofList

/-- A name added behind a slash is one name more. -/
theorem namesIn_append_slash {text name : List Char} (hname : name ≠ []) (hslash : '/' ∉ name) :
    namesIn (text ++ '/' :: name) = namesIn text ++ [String.ofList name] := by
  rw [namesIn, Text.pieces_append_cons, Text.pieces_eq_singleton hslash]
  simp [namesIn, hname]

/-- A name added to a text that is empty or ends in a slash is one name more. -/
theorem namesIn_append {text name : List Char} (htext : text = [] ∨ text.getLast? = some '/')
    (hname : name ≠ []) (hslash : '/' ∉ name) :
    namesIn (text ++ name) = namesIn text ++ [String.ofList name] := by
  rcases htext with rfl | htext
  · rw [List.nil_append, namesIn, Text.pieces_eq_singleton hslash]
    simp [namesIn, Text.pieces, hname]
  · obtain ⟨front, rfl⟩ := List.getLast?_eq_some_iff.mp htext
    rw [List.append_assoc, List.singleton_append, namesIn_append_slash hname hslash]
    simp [namesIn, Text.pieces_append_cons, Text.pieces]

/-- The text of a path behind the slash at its beginning, if there is one. -/
def body (path : String) : List Char :=
  if isAbsolute path then path.toList.tail else path.toList

/-- The names of a path are those in its body. -/
theorem names_eq (path : String) : names path = namesIn (body path) := rfl

/-- A name does not begin with a slash. -/
theorem isAbsolute_eq_false {name : String} (hname : FileTree.IsName name) :
    isAbsolute name = false := by
  rcases hc : name.toList with _ | ⟨c, rest⟩
  · simp [isAbsolute, hc]
  · have hslash : c ≠ '/' := by
      rintro rfl
      exact hname.no_slash (by simp [hc])
    simp [isAbsolute, hc, hslash]

/-- A name has characters. -/
theorem toList_ne_nil {name : String} (hname : FileTree.IsName name) : name.toList ≠ [] :=
  fun h => hname.ne_empty (String.toList_eq_nil_iff.mp h)

/-- Names with slashes in between are cut into the names again. -/
theorem pieces_intercalate {names : List String} (hne : names ≠ [])
    (hnames : ∀ name ∈ names, FileTree.IsName name) :
    Text.pieces '/' ("/".intercalate names).toList = names.map String.toList := by
  have hpieces : ∀ piece ∈ names.map String.toList, '/' ∉ piece :=
    List.forall_mem_map.mpr fun name hname => (hnames name hname).no_slash
  rw [String.toList_intercalate]
  exact Text.pieces_intercalate (by simpa using hne) hpieces

/-- The characters of a path and a name joined. -/
theorem toList_join {path name : String} (hpath : path ≠ "") (hname : FileTree.IsName name) :
    (join path name).toList =
      if path.toList.getLast? = some '/' then path.toList ++ name.toList
      else path.toList ++ '/' :: name.toList := by
  have hne : path.isEmpty = false := by simpa using hpath
  rw [join, isAbsolute_eq_false hname, hne]
  by_cases h : path.toList.getLast? = some '/' <;> simp [h]

/-- A joined path is not empty. -/
theorem join_ne_empty {path name : String} (hpath : path ≠ "") (hname : FileTree.IsName name) :
    join path name ≠ "" := by
  intro hempty
  have hlist := toList_join hpath hname
  rw [hempty] at hlist
  split_ifs at hlist <;> simp_all

/-- Joining a name keeps a path absolute or relative. -/
theorem isAbsolute_join {path name : String} (hpath : path ≠ "") (hname : FileTree.IsName name) :
    isAbsolute (join path name) = isAbsolute path := by
  obtain ⟨c, rest, hc⟩ := List.exists_cons_of_ne_nil (mt String.toList_eq_nil_iff.mp hpath)
  rw [isAbsolute, isAbsolute, toList_join hpath hname, hc]
  split_ifs <;> rfl

/-- The body of a joined path. -/
theorem body_join {path name : String} (hpath : path ≠ "") (hname : FileTree.IsName name) :
    body (join path name) =
      if path.toList.getLast? = some '/' then body path ++ name.toList
      else body path ++ '/' :: name.toList := by
  have hne : path.toList ≠ [] := mt String.toList_eq_nil_iff.mp hpath
  rw [body, isAbsolute_join hpath hname, toList_join hpath hname, body]
  split_ifs <;> simp [List.tail_append_of_ne_nil hne]

/-- A path that ends in a slash has a body that does, unless that is empty. -/
theorem body_eq_nil_or {path : String} (h : path.toList.getLast? = some '/') :
    body path = [] ∨ (body path).getLast? = some '/' := by
  rw [body]
  split_ifs
  · rcases hc : path.toList with _ | ⟨c, _ | ⟨d, rest⟩⟩
    · exact .inl rfl
    · exact .inl rfl
    · right
      rw [hc, List.getLast?_cons_cons] at h
      exact h
  · exact .inr h

/-- Joining a name adds it to the names of a path. -/
theorem names_join {path name : String} (hpath : path ≠ "") (hname : FileTree.IsName name) :
    names (join path name) = names path ++ [name] := by
  rw [names_eq, body_join hpath hname]
  split_ifs with h
  · rw [namesIn_append (body_eq_nil_or h) (toList_ne_nil hname) hname.no_slash, names_eq,
      String.ofList_toList]
  · rw [namesIn_append_slash (toList_ne_nil hname) hname.no_slash, names_eq,
      String.ofList_toList]

/-- The steps of a path are its names, with an empty one behind them if it ends in a slash. -/
theorem steps_eq (path : String) : steps path = names path ∨ steps path = names path ++ [""] := by
  rw [steps]
  split_ifs
  · exact .inr rfl
  · exact .inl rfl

/-- A text with more than slashes in it has names in it. -/
theorem namesIn_ne_nil {text : List Char} {c : Char} (h : c ∈ text) (hc : c ≠ '/') :
    namesIn text ≠ [] := by
  obtain ⟨piece, hpiece, hmem⟩ := Text.exists_mem_pieces h hc
  have hkept : piece ∈ (Text.pieces '/' text).filter (· ≠ []) :=
    List.mem_filter.mpr ⟨hpiece, by simpa using List.ne_nil_of_mem hmem⟩
  exact List.ne_nil_of_mem (List.mem_map_of_mem hkept)

/-- A path that is not empty has steps: a slash at its end counts as one, and any other character
there belongs to a name. -/
theorem steps_ne_nil {path : String} (h : path ≠ "") : steps path ≠ [] := by
  obtain ⟨front, last, hpath⟩ :=
    (List.eq_nil_or_concat path.toList).resolve_left (mt String.toList_eq_nil_iff.mp h)
  rw [List.concat_eq_append] at hpath
  by_cases hlast : last = '/'
  · rw [steps, if_pos (by simp [hpath, hlast])]
    exact List.append_ne_nil_of_right_ne_nil _ (List.cons_ne_nil _ _)
  · have hbody : last ∈ body path := by
      rw [body, isAbsolute, hpath]
      cases front with
      | nil => simp [hlast]
      | cons c front => split_ifs <;> simp
    rw [steps, if_neg (by simp [hpath, hlast])]
    exact namesIn_ne_nil hbody hlast

/-- No name of a path is empty. -/
theorem ne_empty_of_mem_names {path name : String} (h : name ∈ names path) : name ≠ "" := by
  rintro rfl
  obtain ⟨piece, hpiece, hempty⟩ := List.mem_map.mp h
  have hne : piece ≠ [] := by simpa using (List.mem_filter.mp hpiece).2
  exact hne (String.ofList_eq_empty_iff.mp hempty)

/-- No step of a path has a slash in it. -/
theorem no_slash_of_mem_steps {path step : String} (h : step ∈ steps path) :
    '/' ∉ step.toList := by
  have hnames : ∀ name ∈ names path, '/' ∉ name.toList := by
    intro name hname
    obtain ⟨piece, hpiece, rfl⟩ := List.mem_map.mp hname
    rw [String.toList_ofList]
    exact Text.not_mem_of_mem_pieces (List.mem_filter.mp hpiece).1
  rcases steps_eq path with heq | heq
  · exact hnames step (heq ▸ h)
  · rw [heq, List.mem_append, List.mem_singleton] at h
    rcases h with h | rfl
    · exact hnames step h
    · exact List.not_mem_nil

end Path

end Wording
