import Mathlib.Data.List.Induction
import Wording.Proofs.Scan.Preorder

/-!
# Paths below the root of a walk

* `Path.pieces_join`, `Path.components_join` — joining a name to a path adds one piece and one
  component.
* `Walk.components_pathBelow` — the components of an entry's path are the root's and the names below
  it.
* **`Walk.below?_pathBelow`** — what of an entry's path follows the root are these names, with
  slashes in between.
* **`Walk.join_intercalate`** — the root with those names joined is the entry's path again.

A root that ends in a slash has an empty piece at its end, in the place of which the first name
comes.  So the pieces of an entry's path begin with those of the root but for this one, called
`front`.
-/

namespace Wording

namespace Path

variable {path name : String} {front rest voids : List (List Char)}

/-- The pieces are those of the path, up to an empty one at its end. -/
structure Fronts (path : String) (front : List (List Char)) : Prop where
  pieces_eq : pieces path = front ∨ pieces path = front ++ [[]]
  head?_eq : isAbsolute path = true ∨ front.head? = (pieces path).head?

/-- If no empty piece is at the end, the pieces are all those of the path. -/
theorem Fronts.eq_pieces (h : Fronts path front) (hlast : (pieces path).getLast? ≠ some []) :
    front = pieces path := by
  rcases h.pieces_eq with hpieces | hpieces
  · exact hpieces.symm
  · rw [hpieces, List.getLast?_concat] at hlast
    exact absurd rfl hlast

/-- **Joining a name adds one piece**, in the place of an empty one at the end of the path. -/
theorem pieces_join (hpath : path ≠ "") (hname : FileTree.IsName name) :
    ∃ front, Fronts path front ∧ pieces (join path name) = front ++ [name.toList] := by
  have hpieces : pieces (join path name) = Text.pieces '/' (body (join path name)) := rfl
  rw [hpieces, body_join hpath hname]
  split_ifs with hslash
  · rcases body_eq_nil_or hslash with hbody | hbody
    · -- the path is made of a slash alone
      have habsolute : isAbsolute path = true := by
        by_contra hrelative
        rw [body, if_neg hrelative] at hbody
        exact hpath (String.toList_eq_nil_iff.mp hbody)
      refine ⟨[], ⟨.inr ?_, .inl habsolute⟩, ?_⟩
      · have hempty : pieces path = Text.pieces '/' (body path) := rfl
        rw [hempty, hbody]
        rfl
      · rw [hbody, List.nil_append, Text.pieces_eq_singleton hname.no_slash]
        rfl
    · obtain ⟨most, hmost⟩ := List.getLast?_eq_some_iff.mp hbody
      have hpath' : pieces path = Text.pieces '/' most ++ [[]] := by
        have hempty : pieces path = Text.pieces '/' (body path) := rfl
        rw [hempty, hmost, Text.pieces_append_cons]
        rfl
      refine ⟨Text.pieces '/' most, ⟨.inr hpath', .inr ?_⟩, ?_⟩
      · rw [hpath', List.head?_append_of_ne_nil _ (Text.pieces_ne_nil '/' most)]
      · rw [hmost, List.append_assoc, List.singleton_append, Text.pieces_append_cons,
          Text.pieces_eq_singleton hname.no_slash]
  · refine ⟨pieces path, ⟨.inl rfl, .inr rfl⟩, ?_⟩
    rw [Text.pieces_append_cons, Text.pieces_eq_singleton hname.no_slash]
    rfl

/-- A name is a component. -/
theorem pieceComponent?_name (hname : FileTree.IsName name) :
    pieceComponent? name.toList = some (.name name) := by
  have hdot : name.toList ≠ ['.'] := fun h => hname.ne_dot (String.toList_inj.mp h)
  have hdots : name.toList ≠ ['.', '.'] := fun h => hname.ne_dotdot (String.toList_inj.mp h)
  rw [pieceComponent?, if_neg (not_or.mpr ⟨toList_ne_nil hname, hdot⟩), if_neg hdots,
    String.ofList_toList]

/-- An empty piece at the end is no component. -/
theorem Fronts.filterMap_eq (h : Fronts path front) :
    (pieces path).filterMap pieceComponent? = front.filterMap pieceComponent? := by
  rcases h.pieces_eq with hpieces | hpieces
  · rw [hpieces]
  · rw [hpieces, List.filterMap_append]
    exact List.append_nil _

/-- A relative path is joined with a slash in between unless there is one. -/
theorem join_of_relative {more : String} (hpath : path ≠ "") (hmore : isAbsolute more = false) :
    join path more =
      if path.toList.getLast? = some '/' then path ++ more else path ++ "/" ++ more := by
  have hne : path.isEmpty = false := by simpa using hpath
  rw [join, hmore, hne]
  by_cases h : path.toList.getLast? = some '/' <;> simp [h]

/-- The component that a path begins with, if it is the root or a dot. -/
def leading (path : String) : List Component :=
  if isAbsolute path then [.root]
  else if (pieces path).head? = some ['.'] then [.current]
  else []

/-- The components of a path are the leading one and those of its pieces. -/
theorem components_eq (path : String) :
    components path = leading path ++ (pieces path).filterMap pieceComponent? := by
  rw [components, leading]
  split_ifs <;> rfl

/-- Joining a name does not change how a path begins. -/
theorem leading_join (hpath : path ≠ "") (hname : FileTree.IsName name) :
    leading (join path name) = leading path := by
  obtain ⟨front, hfront, hjoin⟩ := pieces_join hpath hname
  rw [leading, leading, isAbsolute_join hpath hname, hjoin]
  by_cases habsolute : isAbsolute path = true
  · rw [if_pos habsolute, if_pos habsolute]
  · obtain ⟨piece, more, hpieces⟩ := List.exists_cons_of_ne_nil (Text.pieces_ne_nil '/' (body path))
    have hhead : (pieces path).head? = some piece := congrArg List.head? hpieces
    have hfirst : (front ++ [name.toList]).head? = (pieces path).head? := by
      rw [List.head?_append, hfront.head?_eq.resolve_left habsolute, hhead]
      rfl
    rw [hfirst]

/-- **Joining a name adds one component.** -/
theorem components_join (hpath : path ≠ "") (hname : FileTree.IsName name) :
    components (join path name) = components path ++ [.name name] := by
  obtain ⟨front, hfront, hjoin⟩ := pieces_join hpath hname
  rw [components_eq, components_eq path, leading_join hpath hname, hjoin, List.filterMap_append,
    hfront.filterMap_eq, List.append_assoc]
  simp [pieceComponent?_name hname]

/-! ## What follows a part of the pieces -/

/-- The piece is no component. -/
def isVoid (piece : List Char) : Bool :=
  (pieceComponent? piece).isNone

/-- A name is a component. -/
theorem isVoid_name (hname : FileTree.IsName name) : isVoid name.toList = false := by
  rw [isVoid, pieceComponent?_name hname]
  rfl

/-- Nothing is dropped if no component is to be. -/
theorem dropComponents_zero (pieces : List (List Char)) : dropComponents 0 pieces = pieces := by
  cases pieces <;> rfl

/-- Dropping as many components as the pieces in front have leaves what follows them, and of
themselves only pieces that are no components. -/
theorem dropComponents_append (front rest : List (List Char)) :
    ∃ voids, (∀ piece ∈ voids, isVoid piece = true) ∧
      dropComponents (front.filterMap pieceComponent?).length (front ++ rest) = voids ++ rest := by
  induction front with
  | nil => exact ⟨[], nofun, dropComponents_zero rest⟩
  | cons piece front ih =>
      obtain ⟨voids, hvoids, hdrop⟩ := ih
      cases hpiece : pieceComponent? piece with
      | some component =>
          refine ⟨voids, hvoids, ?_⟩
          rw [List.filterMap_cons_some hpiece, List.length_cons, List.cons_append, dropComponents,
            hpiece, if_neg (by simp), hdrop]
      | none =>
          rw [List.filterMap_cons_none hpiece]
          cases hcount : (front.filterMap pieceComponent?).length with
          | zero =>
              -- no component is left to be dropped, so nothing is
              refine ⟨piece :: front, ?_, dropComponents_zero _⟩
              have hnone := List.filterMap_eq_nil_iff.mp (List.length_eq_zero_iff.mp hcount)
              refine List.forall_mem_cons.mpr ⟨by rw [isVoid, hpiece]; rfl, fun p hp => ?_⟩
              rw [isVoid, hnone p hp]
              rfl
          | succ count =>
              refine ⟨voids, hvoids, ?_⟩
              rw [hcount] at hdrop
              rw [List.cons_append, dropComponents, hpiece, if_pos (by simp), hdrop]

/-- Nothing is cut off where all are components. -/
theorem dropWhile_isVoid {pieces : List (List Char)} (h : ∀ piece ∈ pieces, isVoid piece = false) :
    pieces.dropWhile isVoid = pieces := by
  cases pieces with
  | nil => rfl
  | cons piece rest => rw [List.dropWhile_cons, h piece List.mem_cons_self, if_neg (by simp)]

/-- Names are left when what is no component is cut off at both ends. -/
theorem trimPieces_append {names : List String} (hvoids : ∀ piece ∈ voids, isVoid piece = true)
    (hnames : ∀ name ∈ names, FileTree.IsName name) :
    trimPieces (voids ++ names.map String.toList) = names.map String.toList := by
  have htrim : ∀ pieces, trimPieces pieces =
      ((pieces.dropWhile isVoid).reverse.dropWhile isVoid).reverse := fun _ => rfl
  have hpieces : ∀ piece ∈ names.map String.toList, isVoid piece = false := by
    intro piece hpiece
    obtain ⟨name, hname, rfl⟩ := List.mem_map.mp hpiece
    exact isVoid_name (hnames name hname)
  rw [htrim, List.dropWhile_append_of_pos hvoids, dropWhile_isVoid hpieces,
    dropWhile_isVoid fun piece hpiece => hpieces piece (List.mem_reverse.mp hpiece),
    List.reverse_reverse]

/-- Names that are put together as pieces have slashes in between. -/
theorem joinPieces_names (names : List String) :
    joinPieces (names.map String.toList) = "/".intercalate names := by
  rw [joinPieces, ← @String.ofList_toList ("/".intercalate names), String.toList_intercalate]
  rfl

/-- The components of pieces are names and double dots. -/
theorem pieceComponent?_ne_root {piece : List Char} {c : Component}
    (h : pieceComponent? piece = some c) : c ≠ .root ∧ c ≠ .current := by
  unfold pieceComponent? at h
  split_ifs at h <;> obtain rfl := Option.some.inj h <;> exact ⟨nofun, nofun⟩

/-- The components of the pieces of a path are those but the leading one. -/
theorem length_filter_components (path : String) :
    ((components path).filter fun c => c ≠ .root && c ≠ .current).length =
      ((pieces path).filterMap pieceComponent?).length := by
  have hleading : (leading path).filter (fun c => c ≠ .root && c ≠ .current) = [] := by
    rw [leading]
    split_ifs <;> rfl
  rw [components_eq, List.filter_append, hleading, List.nil_append, List.filter_eq_self.mpr]
  intro c hc
  obtain ⟨piece, -, hpiece⟩ := List.mem_filterMap.mp hc
  simpa using pieceComponent?_ne_root hpiece

/-- **What of a path follows the base**: the names of which its pieces are, but for those of the
base. -/
theorem below?_eq {base : String} {names : List String} (hfront : Fronts base front)
    (hpieces : pieces path = front ++ names.map String.toList)
    (hcomponents : components path = components base ++ names.map .name)
    (hnames : ∀ name ∈ names, FileTree.IsName name) :
    below? base path = some ("/".intercalate names) := by
  have hcount : ((components base).filter fun c => c ≠ .root && c ≠ .current).length =
      (front.filterMap pieceComponent?).length := by
    rw [length_filter_components, hfront.filterMap_eq]
  obtain ⟨voids, hvoids, hdrop⟩ := dropComponents_append front (names.map String.toList)
  rw [below?, belowOf?, hcomponents, if_pos (List.isPrefixOf_iff_prefix.mpr (List.prefix_append _ _))]
  simp only [hcount, hpieces, hdrop]
  rw [trimPieces_append hvoids hnames, joinPieces_names]

end Path

namespace Walk

variable {root : String} {below : List String}

/-- The path of an entry is not empty. -/
theorem pathBelow_ne_empty (hroot : root ≠ "") (hnames : ∀ name ∈ below, FileTree.IsName name) :
    pathBelow root below ≠ "" := by
  induction below using List.reverseRecOn with
  | nil => exact hroot
  | append_singleton below name ih =>
      obtain ⟨hbelow, hname⟩ := List.forall_mem_append.mp hnames
      rw [pathBelow_concat]
      exact Path.join_ne_empty (ih hbelow) (List.forall_mem_singleton.mp hname)

/-- **The components of an entry's path** are those of the root and the names from the root to the
entry. -/
theorem components_pathBelow (hroot : root ≠ "")
    (hnames : ∀ name ∈ below, FileTree.IsName name) :
    Path.components (pathBelow root below) = Path.components root ++ below.map .name := by
  induction below using List.reverseRecOn with
  | nil => exact (List.append_nil _).symm
  | append_singleton below name ih =>
      obtain ⟨hbelow, hname⟩ := List.forall_mem_append.mp hnames
      rw [pathBelow_concat, Path.components_join (pathBelow_ne_empty hroot hbelow)
        (List.forall_mem_singleton.mp hname), ih hbelow, List.map_append, List.append_assoc]
      rfl

/-- **The pieces of an entry's path** are those of the root, but for an empty one at their end, and
the names from the root to the entry. -/
theorem pieces_pathBelow (hroot : root ≠ "") (hne : below ≠ [])
    (hnames : ∀ name ∈ below, FileTree.IsName name) :
    ∃ front, Path.Fronts root front ∧
      Path.pieces (pathBelow root below) = front ++ below.map String.toList := by
  induction below using List.reverseRecOn with
  | nil => exact absurd rfl hne
  | append_singleton below name ih =>
      obtain ⟨hbelow, hname⟩ := List.forall_mem_append.mp hnames
      rw [List.forall_mem_singleton] at hname
      rw [pathBelow_concat]
      by_cases hfirst : below = []
      · subst hfirst
        exact Path.pieces_join hroot hname
      · obtain ⟨front, hfront, hpieces⟩ := ih hfirst hbelow
        obtain ⟨front', hfront', hjoin⟩ :=
          Path.pieces_join (pathBelow_ne_empty hroot hbelow) hname
        have hlast : (Path.pieces (pathBelow root below)).getLast? ≠ some [] := by
          obtain ⟨most, last, rfl⟩ := (List.eq_nil_or_concat below).resolve_left hfirst
          rw [List.concat_eq_append] at hpieces hbelow
          rw [List.concat_eq_append, hpieces, List.map_append, List.map_singleton,
            ← List.append_assoc, List.getLast?_concat]
          intro hempty
          exact Path.toList_ne_nil (hbelow last (by simp)) (Option.some.inj hempty)
        refine ⟨front, hfront, ?_⟩
        rw [hjoin, hfront'.eq_pieces hlast, hpieces, List.map_append, List.append_assoc]
        rfl

/-- **What of an entry's path follows the root** are the names from the root to the entry, with
slashes in between. -/
theorem below?_pathBelow (hroot : root ≠ "") (hne : below ≠ [])
    (hnames : ∀ name ∈ below, FileTree.IsName name) :
    Path.below? root (pathBelow root below) = some ("/".intercalate below) := by
  obtain ⟨front, hfront, hpieces⟩ := pieces_pathBelow hroot hne hnames
  exact Path.below?_eq hfront hpieces (components_pathBelow hroot hnames) hnames

/-- The path of an entry does not end in a slash. -/
theorem getLast?_pathBelow (hroot : root ≠ "") (hne : below ≠ [])
    (hnames : ∀ name ∈ below, FileTree.IsName name) :
    (pathBelow root below).toList.getLast? ≠ some '/' := by
  obtain ⟨most, last, rfl⟩ := (List.eq_nil_or_concat below).resolve_left hne
  rw [List.concat_eq_append] at *
  obtain ⟨hmost, hlast⟩ := List.forall_mem_append.mp hnames
  rw [List.forall_mem_singleton] at hlast
  obtain ⟨front, c, hc⟩ :=
    (List.eq_nil_or_concat last.toList).resolve_left (Path.toList_ne_nil hlast)
  have hslash : c ≠ '/' := by
    rintro rfl
    exact hlast.no_slash (by simp [hc])
  have hne' : ∀ text : List Char, (text ++ [c]).getLast? ≠ some '/' := by
    intro text hend
    rw [List.getLast?_concat] at hend
    exact hslash (Option.some.inj hend)
  rw [pathBelow_concat, Path.toList_join (pathBelow_ne_empty hroot hmost) hlast, hc,
    List.concat_eq_append, ← List.cons_append, ← List.append_assoc, ← List.append_assoc]
  split_ifs
  · exact hne' _
  · exact hne' _

/-- Names with slashes in between are a relative path. -/
theorem isAbsolute_intercalate (hne : below ≠ [])
    (hnames : ∀ name ∈ below, FileTree.IsName name) :
    Path.isAbsolute ("/".intercalate below) = false := by
  obtain ⟨name, more, rfl⟩ := List.exists_cons_of_ne_nil hne
  have hname := hnames name List.mem_cons_self
  have hrelative := Path.isAbsolute_eq_false hname
  cases more with
  | nil => rwa [String.intercalate_singleton]
  | cons next more =>
      rw [Path.isAbsolute, String.intercalate_cons_cons, String.append_assoc, String.toList_append,
        List.head?_append_of_ne_nil _ (Path.toList_ne_nil hname)]
      exact hrelative

/-- **The root with the names joined to it at once** is the entry's path. -/
theorem join_intercalate (hroot : root ≠ "") (hne : below ≠ [])
    (hnames : ∀ name ∈ below, FileTree.IsName name) :
    Path.join root ("/".intercalate below) = pathBelow root below := by
  induction below using List.reverseRecOn with
  | nil => exact absurd rfl hne
  | append_singleton below name ih =>
      obtain ⟨hbelow, hname⟩ := List.forall_mem_append.mp hnames
      rw [List.forall_mem_singleton] at hname
      rw [pathBelow_concat]
      by_cases hfirst : below = []
      · subst hfirst
        rw [List.nil_append, String.intercalate_singleton]
        rfl
      · have hwhole := Path.join_of_relative hroot (isAbsolute_intercalate hne hnames)
        have hpart := Path.join_of_relative hroot (isAbsolute_intercalate hfirst hbelow)
        rw [Path.join_of_relative (pathBelow_ne_empty hroot hbelow)
          (Path.isAbsolute_eq_false hname), if_neg (getLast?_pathBelow hroot hfirst hbelow),
          ← ih hfirst hbelow, hwhole, hpart,
          String.intercalate_append_of_ne_nil hfirst (List.cons_ne_nil _ _),
          String.intercalate_singleton]
        split_ifs <;> simp only [String.append_assoc]

end Walk

end Wording
