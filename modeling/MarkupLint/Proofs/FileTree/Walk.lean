import MarkupLint.Proofs.FileTree

set_option autoImplicit false

namespace MarkupLint

namespace FileEntries

theorem mem_names_of_lookup (wanted : String) (entries : FileEntries) (found : FileTree)
    (holds : entries.lookup wanted = some found) : wanted ∈ entries.names := by
  fun_induction lookup wanted entries with
  | case1 => cases holds
  | case2 => exact List.mem_cons_self
  | case3 name tree rest different ih => exact List.mem_cons_of_mem name (ih holds)

theorem distinct_cons (name : String) (tree : FileTree) (rest : FileEntries)
    (distinct : (FileEntries.cons name tree rest).distinct = true) :
    name ∉ rest.names ∧ tree.distinct = true ∧ rest.distinct = true := by
  simpa [FileEntries.distinct] using distinct

theorem lookup_cons_later (name wanted : String) (tree found : FileTree) (rest : FileEntries)
    (fresh : name ∉ rest.names) (holds : rest.lookup wanted = some found) :
    (FileEntries.cons name tree rest).lookup wanted = some found := by
  have different : name ≠ wanted := fun same => fresh (same ▸ mem_names_of_lookup wanted rest found holds)
  rw [lookup, if_neg different, holds]

theorem size_lookup (wanted : String) (entries : FileEntries) (found : FileTree)
    (holds : entries.lookup wanted = some found) : sizeOf found < sizeOf entries := by
  fun_induction lookup wanted entries with
  | case1 => cases holds
  | case2 tree rest =>
      cases holds
      simp
      omega
  | case3 name tree rest different ih =>
      have smaller := ih holds
      simp
      omega

section Files

variable (leads : String → Bool)

theorem file_names_sublist (entries : FileEntries) : (entries.fileNames leads).Sublist entries.names := by
  fun_induction fileNames leads entries with
  | case1 => exact .slnil
  | case2 name tree rest leaf ih => exact ih.cons_cons name
  | case3 name tree rest directory ih => exact ih.cons name

theorem mem_file_names_iff (entries : FileEntries) (wanted : String) (distinct : entries.distinct = true) :
    wanted ∈ entries.fileNames leads ↔
      ∃ child, entries.lookup wanted = some child ∧ child.isLeaf (leads wanted) = true := by
  fun_induction fileNames leads entries with
  | case1 => simp [lookup]
  | case2 name tree rest leaf ih =>
      obtain ⟨fresh, -, others⟩ := distinct_cons name tree rest distinct
      rw [List.mem_cons, ih others, lookup]
      by_cases same : name = wanted
      · subst same
        simp [leaf]
      · simp [same, Ne.symm same]
  | case3 name tree rest directory ih =>
      obtain ⟨fresh, -, others⟩ := distinct_cons name tree rest distinct
      rw [ih others, lookup]
      by_cases same : name = wanted
      · subst same
        have absent : rest.lookup name = none := by
          cases found : rest.lookup name with
          | none => rfl
          | some child => exact absurd (mem_names_of_lookup name rest child found) fresh
        simp [absent, directory]
      · simp [same]

end Files

end FileEntries

namespace FileTree

theorem distinct_find (names : List String) (tree found : FileTree) (distinct : tree.distinct = true)
    (holds : tree.find? names = some found) : found.distinct = true := by
  fun_induction find? tree names with
  | case1 tree =>
      cases holds
      exact distinct
  | case2 entries access name rest child under ih => exact ih (entries.distinct_lookup name child distinct under) holds
  | case3 => cases holds
  | case4 => cases holds
  | case5 => cases holds

theorem find_of_seek (tree found : FileTree) (names : List String) (holds : tree.seek names = .ok found) :
    tree.find? names = some found := by
  fun_induction seek tree names with
  | case1 tree =>
      cases holds
      rfl
  | case2 => cases holds
  | case3 => cases holds
  | case4 entries access name rest _ _ child under ih =>
      rw [find?, under]
      exact ih holds
  | case5 => cases holds
  | case6 => cases holds
  | case7 => cases holds

section Walk

variable (opens leads : List String → Bool)

-- Directories that are shown and can be listed lead to what is no directory.
structure Visible (here : List String) (tree : FileTree) (directories : List String) (name : String) : Prop where
  leaf : ∃ child, tree.find? (directories ++ [name]) = some child ∧
    child.isLeaf (leads (here ++ directories ++ [name])) = true
  shown : ∀ directory ∈ directories, isHidden directory = false
  opened : ∀ before, before <+: directories → opens (here ++ before) = true
  listed : ∀ before found, before <+: directories → tree.find? before = some found → found.access.lists = true
  entered : ∀ before found, before <+: directories → before ≠ directories → tree.find? before = some found →
    found.access.enters = true

variable {opens leads}

theorem visible_directory (here : List String) (tree : FileTree) (directories : List String) (name : String)
    (visible : Visible opens leads here tree directories name) : ∃ entries access, tree = .directory entries access := by
  obtain ⟨child, found, -⟩ := visible.leaf
  cases tree with
  | directory entries access => exact ⟨entries, access, rfl⟩
  | file | link => cases directories <;> cases found

theorem visible_here_iff (here : List String) (entries : FileEntries) (access : Access) (name : String) :
    Visible opens leads here (.directory entries access) [] name ↔ opens here = true ∧ access.lists = true ∧
      ∃ child, entries.lookup name = some child ∧ child.isLeaf (leads (here ++ [name])) = true := by
  have found : (FileTree.directory entries access).find? [name] = entries.lookup name := by
    rw [find?]
    cases entries.lookup name <;> rfl
  constructor
  · intro visible
    refine ⟨by simpa using visible.opened [] List.prefix_rfl, visible.listed [] _ List.prefix_rfl rfl, ?_⟩
    simpa [found] using visible.leaf
  · rintro ⟨opened, lists, leaf⟩
    refine ⟨by simpa [found] using leaf, by simp, ?_, ?_, ?_⟩
    · intro before within
      rw [List.prefix_nil.mp within, List.append_nil]
      exact opened
    · intro before other within held
      rw [List.prefix_nil.mp within] at held
      cases held
      exact lists
    · exact fun before other within shorter => absurd (List.prefix_nil.mp within) shorter

theorem visible_below_iff (here : List String) (entries : FileEntries) (access : Access) (first : String)
    (directories : List String) (name : String) :
    Visible opens leads here (.directory entries access) (first :: directories) name ↔
      opens here = true ∧ access.lists = true ∧ access.enters = true ∧ isHidden first = false ∧
        ∃ child, entries.lookup first = some child ∧ Visible opens leads (here ++ [first]) child directories name := by
  have below (child : FileTree) (under : entries.lookup first = some child) (names : List String) :
      (FileTree.directory entries access).find? (first :: names) = child.find? names := by
    rw [find?, under]
  constructor
  · rintro ⟨⟨leaf, found, isLeaf⟩, shown, opened, listed, entered⟩
    cases under : entries.lookup first with
    | none => simp [find?, under] at found
    | some child =>
        refine ⟨by simpa using opened [] List.nil_prefix, listed [] _ List.nil_prefix rfl,
          entered [] _ List.nil_prefix (by simp) rfl, shown first List.mem_cons_self, child, rfl, ?_, ?_, ?_, ?_, ?_⟩
        · exact ⟨leaf, below child under _ ▸ found, by simpa using isLeaf⟩
        · exact fun directory member => shown directory (List.mem_cons_of_mem first member)
        · exact fun before within => by simpa using opened (first :: before) ((List.prefix_cons_inj first).mpr within)
        · exact fun before other within held => listed (first :: before) other ((List.prefix_cons_inj first).mpr within)
            (below child under before ▸ held)
        · exact fun before other within shorter held => entered (first :: before) other ((List.prefix_cons_inj first).mpr within)
            (by simpa using shorter) (below child under before ▸ held)
  · rintro ⟨openedHere, lists, enters, firstShown, child, under, ⟨leaf, found, isLeaf⟩, shown, opened, listed, entered⟩
    refine ⟨⟨leaf, by rw [List.cons_append, below child under]; exact found, by simpa using isLeaf⟩, ?_, ?_, ?_, ?_⟩
    · simpa [firstShown] using shown
    · intro before within
      rcases List.prefix_cons_iff.mp within with rfl | ⟨rest, rfl, deeper⟩
      · simpa using openedHere
      · simpa using opened rest deeper
    · intro before other within held
      rcases List.prefix_cons_iff.mp within with rfl | ⟨rest, rfl, deeper⟩
      · cases held
        exact lists
      · exact listed rest other deeper (below child under rest ▸ held)
    · intro before other within shorter held
      rcases List.prefix_cons_iff.mp within with rfl | ⟨rest, rfl, deeper⟩
      · cases held
        exact enters
      · exact entered rest other deeper (fun same => shorter (same ▸ rfl)) (below child under rest ▸ held)

theorem mem_walk_below_iff (here : List String) (entries : FileEntries) (names : List String)
    (distinct : entries.distinct = true) :
    names ∈ walkBelow opens leads here entries ↔ ∃ first child, entries.lookup first = some child ∧
      isHidden first = false ∧ names ∈ walk opens leads (here ++ [first]) child := by
  cases entries with
  | nil => simp [walkBelow, FileEntries.lookup]
  | cons name tree rest =>
      obtain ⟨fresh, -, others⟩ := FileEntries.distinct_cons name tree rest distinct
      rw [walkBelow, List.mem_append, mem_walk_below_iff here rest names others]
      constructor
      · rintro (own | ⟨first, child, under, shown, member⟩)
        · by_cases hidden : isHidden name = true
          · simp [hidden] at own
          · rw [if_neg hidden] at own
            exact ⟨name, tree, by simp [FileEntries.lookup], Bool.not_eq_true _ ▸ hidden, own⟩
        · exact ⟨first, child, FileEntries.lookup_cons_later name first tree child rest fresh under, shown, member⟩
      · rintro ⟨first, child, under, shown, member⟩
        by_cases same : name = first
        · rw [FileEntries.lookup, if_pos same, Option.some.injEq] at under
          subst same under
          exact .inl (by simpa [shown] using member)
        · rw [FileEntries.lookup, if_neg same] at under
          exact .inr ⟨first, child, under, shown, member⟩

theorem mem_walk_directory_iff (here : List String) (entries : FileEntries) (access : Access) (names : List String)
    (distinct : entries.distinct = true) :
    names ∈ (FileTree.directory entries access).walk opens leads here ↔ opens here = true ∧ access.lists = true ∧
      ((∃ name, names = here ++ [name] ∧
          ∃ child, entries.lookup name = some child ∧ child.isLeaf (leads (here ++ [name])) = true) ∨
        access.enters = true ∧ ∃ first child, entries.lookup first = some child ∧ isHidden first = false ∧
          names ∈ walk opens leads (here ++ [first]) child) := by
  have own : names ∈ (entries.fileNames fun name => leads (here ++ [name])).map (fun name => here ++ [name]) ↔
      ∃ name, names = here ++ [name] ∧
        ∃ child, entries.lookup name = some child ∧ child.isLeaf (leads (here ++ [name])) = true := by
    simp only [List.mem_map, entries.mem_file_names_iff _ _ distinct, and_comm, eq_comm]
  have below : names ∈ (if access.enters then walkBelow opens leads here entries else []) ↔ access.enters = true ∧
      ∃ first child, entries.lookup first = some child ∧ isHidden first = false ∧
        names ∈ walk opens leads (here ++ [first]) child := by
    rw [← mem_walk_below_iff here entries names distinct]
    cases access.enters <;> simp
  rw [walk, ← own, ← below, ← List.mem_append, ← and_assoc, ← Bool.and_eq_true]
  cases opens here && access.lists <;> simp

theorem mem_walk_iff (here : List String) (tree : FileTree) (names : List String) (distinct : tree.distinct = true) :
    names ∈ tree.walk opens leads here ↔ ∃ directories name, names = here ++ directories ++ [name] ∧
      Visible opens leads here tree directories name := by
  match tree, distinct with
  | .file bytes readable, _ | .link target, _ =>
      refine iff_of_false (by simp [walk]) ?_
      rintro ⟨directories, name, -, visible⟩
      obtain ⟨entries, access, same⟩ := visible_directory _ _ _ _ visible
      cases same
  | .directory entries access, distinct =>
      rw [mem_walk_directory_iff here entries access names distinct]
      constructor
      · rintro ⟨opened, lists, ⟨name, rfl, leaf⟩ | ⟨enters, first, child, under, shown, member⟩⟩
        · exact ⟨[], name, by simp, (visible_here_iff here entries access name).mpr ⟨opened, lists, leaf⟩⟩
        · have smaller := entries.size_lookup first child under
          obtain ⟨directories, name, rfl, visible⟩ := (mem_walk_iff (here ++ [first]) child names
            (entries.distinct_lookup first child distinct under)).mp member
          exact ⟨first :: directories, name, by simp, (visible_below_iff here entries access first directories name).mpr
            ⟨opened, lists, enters, shown, child, under, visible⟩⟩
      · rintro ⟨directories, name, rfl, visible⟩
        cases directories with
        | nil =>
            obtain ⟨opened, lists, leaf⟩ := (visible_here_iff here entries access name).mp visible
            exact ⟨opened, lists, .inl ⟨name, by simp, leaf⟩⟩
        | cons first directories =>
            obtain ⟨opened, lists, enters, shown, child, under, visible⟩ :=
              (visible_below_iff here entries access first directories name).mp visible
            have smaller := entries.size_lookup first child under
            have member := (mem_walk_iff (here ++ [first]) child (here ++ first :: directories ++ [name])
              (entries.distinct_lookup first child distinct under)).mpr ⟨directories, name, by simp, visible⟩
            exact ⟨opened, lists, .inr ⟨enters, first, child, under, shown, member⟩⟩
termination_by sizeOf tree

end Walk

def ListsBefore (tree : FileTree) (directory : List String) (first second : String) : Prop :=
  ∃ found, tree.find? directory = some found ∧ [first, second].Sublist found.entries.names

-- One file comes before another when a tree is walked from a place: what stands in a directory comes before what
-- stands below it.
inductive TopDown (tree : FileTree) (here : List String) : List String → List String → Prop
  | beside (shared : List String) (first second : String) (before : tree.ListsBefore shared first second) :
      TopDown tree here (here ++ shared ++ [first]) (here ++ shared ++ [second])
  | above (shared : List String) (first second : String) (rest : List String) (deeper : rest ≠ []) :
      TopDown tree here (here ++ shared ++ [first]) (here ++ shared ++ second :: rest)
  | across (shared : List String) (first second : String) (left right : List String)
      (before : tree.ListsBefore shared first second) (leftDeeper : left ≠ []) (rightDeeper : right ≠ []) :
      TopDown tree here (here ++ shared ++ first :: left) (here ++ shared ++ second :: right)

theorem top_down_within (tree inner : FileTree) (here skipped first second : List String)
    (within : ∀ directory first second, inner.ListsBefore directory first second →
      tree.ListsBefore (skipped ++ directory) first second)
    (before : TopDown inner (here ++ skipped) first second) : TopDown tree here first second := by
  cases before with
  | beside shared first second before =>
      simpa using @TopDown.beside _ here (skipped ++ shared) first second (within shared first second before)
  | above shared first second rest deeper =>
      simpa using @TopDown.above tree here (skipped ++ shared) first second rest deeper
  | across shared first second left right before leftDeeper rightDeeper =>
      simpa using @TopDown.across _ here (skipped ++ shared) first second left right
        (within shared first second before) leftDeeper rightDeeper

theorem lists_before_child (entries : FileEntries) (access : Access) (name : String) (child : FileTree)
    (under : entries.lookup name = some child) (directory : List String) (first second : String)
    (before : child.ListsBefore directory first second) :
    (FileTree.directory entries access).ListsBefore ([name] ++ directory) first second := by
  obtain ⟨found, holds, order⟩ := before
  refine ⟨found, ?_, order⟩
  rw [List.singleton_append, find?, under]
  exact holds

theorem lists_before_later (name : String) (tree : FileTree) (rest : FileEntries) (access : Access)
    (fresh : name ∉ rest.names) (directory : List String) (first second : String)
    (before : (FileTree.directory rest access).ListsBefore directory first second) :
    (FileTree.directory (.cons name tree rest) access).ListsBefore ([] ++ directory) first second := by
  obtain ⟨found, holds, order⟩ := before
  cases directory with
  | nil =>
      cases holds
      exact ⟨_, rfl, order.cons name⟩
  | cons outer inner =>
      refine ⟨found, ?_, order⟩
      rw [find?] at holds
      cases under : rest.lookup outer with
      | none => simp [under] at holds
      | some child =>
          rw [under] at holds
          rw [List.nil_append, find?, FileEntries.lookup_cons_later name outer tree child rest fresh under]
          exact holds

section Order

variable (opens leads : List String → Bool)

theorem walk_shape (here : List String) (tree : FileTree) (names : List String) (distinct : tree.distinct = true)
    (member : names ∈ tree.walk opens leads here) : ∃ rest, rest ≠ [] ∧ names = here ++ rest := by
  obtain ⟨directories, name, rfl, -⟩ := (mem_walk_iff here tree names distinct).mp member
  exact ⟨directories ++ [name], by simp, by simp⟩

theorem walk_below_shape (here : List String) (entries : FileEntries) (names : List String)
    (distinct : entries.distinct = true) (member : names ∈ walkBelow opens leads here entries) :
    ∃ first rest, first ∈ entries.names ∧ rest ≠ [] ∧ names = here ++ first :: rest := by
  obtain ⟨first, child, under, -, member⟩ := (mem_walk_below_iff here entries names distinct).mp member
  obtain ⟨rest, deeper, rfl⟩ :=
    walk_shape opens leads _ child names (entries.distinct_lookup first child distinct under) member
  exact ⟨first, rest, entries.mem_names_of_lookup first child under, deeper, by simp⟩

mutual

theorem walk_top_down (here : List String) (tree : FileTree) (distinct : tree.distinct = true) :
    (tree.walk opens leads here).Pairwise (TopDown tree here) := by
  cases tree with
  | file | link => exact List.Pairwise.nil
  | directory entries access =>
      have below : (if access.enters then walkBelow opens leads here entries else []).Pairwise
          (TopDown (.directory entries access) here) := by
        split
        · exact walk_below_top_down here entries access distinct
        · exact List.Pairwise.nil
      rw [walk]
      split
      · refine List.pairwise_append.mpr ⟨?_, below, ?_⟩
        · refine List.pairwise_map.mpr (List.pairwise_iff_forall_sublist.mpr fun {first second} order => ?_)
          have before : (FileTree.directory entries access).ListsBefore [] first second :=
            ⟨_, rfl, order.trans (entries.file_names_sublist _)⟩
          simpa using @TopDown.beside _ here [] first second before
        · intro own member names later
          obtain ⟨name, -, rfl⟩ := List.mem_map.mp member
          split at later
          · obtain ⟨first, rest, -, deeper, rfl⟩ := walk_below_shape opens leads here entries names distinct later
            simpa using @TopDown.above _ here [] name first rest deeper
          · cases later
      · exact List.Pairwise.nil

theorem walk_below_top_down (here : List String) (entries : FileEntries) (access : Access)
    (distinct : entries.distinct = true) :
    (walkBelow opens leads here entries).Pairwise (TopDown (.directory entries access) here) := by
  cases entries with
  | nil => exact List.Pairwise.nil
  | cons name tree rest =>
      obtain ⟨fresh, own, others⟩ := FileEntries.distinct_cons name tree rest distinct
      have below : (walkBelow opens leads here rest).Pairwise (TopDown (.directory (.cons name tree rest) access) here) :=
        (walk_below_top_down here rest access others).imp fun before =>
          top_down_within _ _ here [] _ _ (lists_before_later name tree rest access fresh) (by simpa using before)
      by_cases hidden : isHidden name = true
      · rw [walkBelow, if_pos hidden, List.nil_append]
        exact below
      · rw [walkBelow, if_neg hidden, List.pairwise_append]
        refine ⟨?_, below, ?_⟩
        · have under : (FileEntries.cons name tree rest).lookup name = some tree := if_pos rfl
          exact (walk_top_down (here ++ [name]) tree own).imp fun before =>
            top_down_within _ tree here [name] _ _ (lists_before_child _ access name tree under) before
        · intro names member later belongs
          obtain ⟨left, leftDeeper, rfl⟩ := walk_shape opens leads _ tree names own member
          obtain ⟨first, right, listed, rightDeeper, rfl⟩ := walk_below_shape opens leads here rest later others belongs
          have before : (FileTree.directory (.cons name tree rest) access).ListsBefore [] name first :=
            ⟨_, rfl, (List.singleton_sublist.mpr listed).cons_cons name⟩
          simpa using @TopDown.across _ here [] name first left right before leftDeeper rightDeeper

end

end Order

end FileTree

namespace FileSystem

theorem follow_with_found (tree : FileTree) (jump : List String → List String → Except LookFault FileTree)
    (jumps : ∀ here rest found, jump here rest = .ok found → ∃ names, tree.seek names = .ok found)
    (here names : List String) (found : FileTree) (holds : followWith tree jump here names = .ok found) :
    ∃ names, tree.seek names = .ok found := by
  fun_induction followWith tree jump here names with
  | case1 here => exact ⟨here, holds⟩
  | case2 _ _ _ _ _ _ ih => exact ih holds
  | case6 => exact jumps _ _ found holds
  | case7 _ _ _ _ _ _ _ ih => exact ih holds
  | case3 | case4 | case5 | case8 => cases holds

theorem follow_found (tree : FileTree) (budget : Nat) (here names : List String) (found : FileTree)
    (holds : follow tree budget here names = .ok found) : ∃ names, tree.seek names = .ok found := by
  induction budget generalizing here names found with
  | zero => exact follow_with_found tree _ (fun _ _ _ reached => by cases reached) here names found holds
  | succ budget ih =>
      exact follow_with_found tree _ (fun here names found reached => ih here names found reached) here names found holds

theorem distinct_of_reach (files : FileSystem) (path : Path) (found : FileTree) (holds : files.reach path = .ok found) :
    found.distinct = true := by
  rw [reach] at holds
  split at holds
  · cases holds
  · obtain ⟨names, seen⟩ := follow_found _ _ _ _ found holds
    exact FileTree.distinct_find names files.tree found files.distinct (FileTree.find_of_seek _ found names seen)

theorem mem_walk_iff (files : FileSystem) (start path : Path) :
    path ∈ files.walk start ↔ ∃ tree directories name, files.reach start = .ok tree ∧
      path = { start with names := start.names ++ directories ++ [name] } ∧
      tree.Visible start.opens (files.leadsBelow start) [] directories name := by
  rw [walk]
  cases reached : files.reach start with
  | error fault => simp
  | ok tree =>
      have distinct := files.distinct_of_reach start tree reached
      simp only [List.mem_map, FileTree.mem_walk_iff [] tree _ distinct, Except.ok.injEq]
      constructor
      · rintro ⟨names, ⟨directories, name, rfl, visible⟩, rfl⟩
        exact ⟨tree, directories, name, rfl, by simp, visible⟩
      · rintro ⟨_, directories, name, rfl, rfl, visible⟩
        exact ⟨_, ⟨directories, name, rfl, visible⟩, by simp⟩

theorem walk_top_down (files : FileSystem) (start : Path) (tree : FileTree) (reached : files.reach start = .ok tree) :
    (files.walk start).Pairwise fun first second => tree.TopDown start.names first.names second.names := by
  have distinct := files.distinct_of_reach start tree reached
  rw [walk, reached]
  refine (FileTree.walk_top_down _ _ [] tree distinct).map _ fun first second before => ?_
  cases before with
  | beside shared first second before => simpa using @FileTree.TopDown.beside _ start.names shared first second before
  | above shared first second rest deeper =>
      simpa using @FileTree.TopDown.above _ start.names shared first second rest deeper
  | across shared first second left right before leftDeeper rightDeeper =>
      simpa using @FileTree.TopDown.across _ start.names shared first second left right before leftDeeper rightDeeper

end FileSystem

end MarkupLint
