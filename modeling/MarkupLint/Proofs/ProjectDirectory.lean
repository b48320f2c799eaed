import MarkupLint.ProjectDirectory
import MarkupLint.Proofs.FileTree
import MarkupLint.Settings.Load
import Mathlib.Data.List.Induction

set_option autoImplicit false

namespace MarkupLint

open Settings (ancestors)

@[simp]
theorem candidates_snoc (root name : String) (names : List String) :
    projectCandidates ⟨root, names ++ [name]⟩ = ⟨root, names ++ [name]⟩ :: projectCandidates ⟨root, names⟩ := by
  simp only [projectCandidates, List.length_append, List.length_singleton]
  rw [List.range_succ_eq_map, List.map_cons, List.map_map]
  refine congr (congrArg _ ?_) (List.map_congr_left fun up _ => ?_)
  · rw [Nat.sub_zero, List.take_of_length_le (by simp)]
  · simp only [Function.comp_apply, Path.mk.injEq, true_and]
    rw [List.take_append_of_le_length (by omega), show names.length + 1 - (up + 1) = names.length - up by omega]

theorem candidates_spelled (directory candidate : Path) (member : candidate ∈ projectCandidates directory) :
    candidate.root = directory.root ∧ candidate.names <+: directory.names := by
  obtain ⟨up, -, rfl⟩ := List.mem_map.mp member
  exact ⟨rfl, List.take_prefix _ _⟩

theorem ancestors_eq (directory : Path) :
    ancestors directory = projectCandidates directory ++ [{ directory with names := [] }] := by
  simp [ancestors, projectCandidates, List.range_succ]

@[simp]
theorem ancestors_snoc (root name : String) (names : List String) :
    ancestors ⟨root, names ++ [name]⟩ = ⟨root, names ++ [name]⟩ :: ancestors ⟨root, names⟩ := by
  rw [ancestors_eq, candidates_snoc, List.cons_append, ancestors_eq]

theorem ancestors_parent (directory : Path) (below : directory.names ≠ []) :
    ancestors directory = directory :: ancestors directory.parent := by
  have spelled := List.dropLast_concat_getLast below
  have split := ancestors_snoc directory.root (directory.names.getLast below) directory.names.dropLast
  rwa [spelled] at split

theorem ancestors_self (directory : Path) : ∃ others, ancestors directory = directory :: others := by
  by_cases top : directory.names = []
  · obtain ⟨root, names⟩ := directory
    cases top
    exact ⟨[], rfl⟩
  · exact ⟨_, ancestors_parent directory top⟩

theorem ancestors_shorter (directory around : Path) (member : around ∈ ancestors directory) :
    around.names.length ≤ directory.names.length := by
  rw [ancestors_eq, List.mem_append, List.mem_singleton] at member
  rcases member with candidate | rfl
  · exact (candidates_spelled directory around candidate).2.length_le
  · exact Nat.zero_le _

namespace FileSystem

def holdsProject (files : FileSystem) (place : Path) : Bool :=
  (follow files.tree maxLinks [] (place.child projectFile).names).isOk

-- The top of the project that a place belongs to: the nearest of the directories around it that holds the file.
def nearestProject? (files : FileSystem) (place : Path) : Option Path := (ancestors place).find? files.holdsProject

-- Nothing keeps the search from a look-up, no link is on the way, and a path with double dots leads somewhere.
structure Searchable (files : FileSystem) (directory : Path) : Prop where
  here : files.directory.hasNull = false
  readable : directory.hasNull = false
  quiet : ∀ candidate ∈ projectCandidates directory, (files.exists? (candidate.child projectFile)).isOk = true
  unlinked : files.tree.Unlinked (files.trail directory)
  leads : ".." ∉ files.trail directory ∨ ∃ found, files.reach directory = .ok found

theorem follow_project (tree : FileTree) (names more : List String) (unlinked : tree.Unlinked (names ++ more))
    (leads : ".." ∉ names ++ more ∨ ∃ found, follow tree maxLinks [] (names ++ more) = .ok found) :
    follow tree maxLinks [] (names ++ [projectFile]) =
      follow tree maxLinks [] (Path.normalNames [] names ++ [projectFile]) := by
  have own := tree.unlinked_prefix names more unlinked
  rcases leads with plain | ⟨found, leads⟩
  · rw [Path.normal_names_plain [] names fun dots => plain (List.mem_append_left more dots)]
    rfl
  · have split := follow_with_append tree (follow tree 39) [] names more own
    rw [List.reverse_nil, show followWith tree (follow tree 39) [] (names ++ more) = .ok found from leads] at split
    cases start : followWith tree (follow tree 39) [] names with
    | error fault =>
        rw [start] at split
        cases split
    | ok inner => exact follow_with_normal tree (follow tree 39) names [projectFile] inner own start

theorem exists_eq (files : FileSystem) (path : Path) (readable : path.hasNull = false) (present : Bool)
    (looked : files.exists? path = .ok present) : present = (follow files.tree maxLinks [] (files.trail path)).isOk := by
  rw [exists?, readable, reach] at looked
  by_cases long : Path.maxSize < (toString path).utf8ByteSize
  · simp [long] at looked
  · cases result : follow files.tree maxLinks [] (files.trail path) with
    | ok found =>
        simp only [long, result, Bool.false_eq_true, if_false, Except.ok.injEq] at looked
        exact looked.symm
    | error fault =>
        simp only [long, result, Bool.false_eq_true, if_false] at looked
        cases fault <;> cases looked <;> rfl

theorem exists_project (files : FileSystem) (directory candidate : Path) (member : candidate ∈ projectCandidates directory)
    (unlinked : files.tree.Unlinked (files.trail directory))
    (leads : ".." ∉ files.trail directory ∨ ∃ found, files.reach directory = .ok found)
    (readable : (candidate.child projectFile).hasNull = false) (present : Bool)
    (looked : files.exists? (candidate.child projectFile) = .ok present) :
    present = files.holdsProject (files.spelled candidate) := by
  obtain ⟨top, spelling⟩ := directory
  obtain ⟨root, names⟩ := candidate
  obtain ⟨rfl, more, rfl⟩ := candidates_spelled _ _ member
  rw [trail_append] at unlinked leads
  have followed := follow_project files.tree _ more unlinked <| leads.imp id <| Exists.imp fun found reached => by
    rw [reach, trail_append] at reached
    split at reached
    · cases reached
    · exact reached
  have place : files.holdsProject (files.spelled ⟨root, names⟩)
      = (follow files.tree maxLinks [] (files.trail ⟨root, names⟩ ++ [projectFile])).isOk := by
    rw [followed, holdsProject, spelled_eq]
    rfl
  have own := files.exists_eq _ readable present looked
  rw [Path.child, trail_append] at own
  rw [place, own]

theorem first_project_ok (files : FileSystem) (candidates : List Path)
    (quiet : ∀ candidate ∈ candidates, (files.exists? (candidate.child projectFile)).isOk = true) :
    ∃ found, files.firstProject? candidates = .ok found := by
  induction candidates with
  | nil => exact ⟨none, rfl⟩
  | cons candidate rest ih =>
      obtain ⟨found, later⟩ := ih fun other member => quiet other (List.mem_cons_of_mem candidate member)
      have own := quiet candidate List.mem_cons_self
      rw [firstProject?]
      generalize files.exists? (candidate.child projectFile) = looked at own
      rcases looked with cause | _ | _
      · cases own
      · exact ⟨found, later⟩
      · exact ⟨some candidate, rfl⟩

theorem first_project_eq (files : FileSystem) (candidates : List Path) (found : Option Path)
    (looks : ∀ candidate ∈ candidates, ∀ present, files.exists? (candidate.child projectFile) = .ok present →
      present = files.holdsProject (files.spelled candidate))
    (searched : files.firstProject? candidates = .ok found) :
    found = candidates.find? fun candidate => files.holdsProject (files.spelled candidate) := by
  induction candidates with
  | nil =>
      cases searched
      rfl
  | cons candidate rest ih =>
      rw [firstProject?] at searched
      cases looked : files.exists? (candidate.child projectFile) with
      | error cause =>
          rw [looked] at searched
          cases searched
      | ok present =>
          rw [looked] at searched
          rw [List.find?_cons, ← looks candidate List.mem_cons_self present looked]
          cases present with
          | true =>
              cases searched
              rfl
          | false => exact ih (fun other member => looks other (List.mem_cons_of_mem candidate member)) searched

theorem has_null_child (path : Path) (readable : path.hasNull = false) : (path.child projectFile).hasNull = false := by
  have file : projectFile.toList.contains (Char.ofNat 0) = false := by decide
  rw [Path.hasNull] at readable ⊢
  rw [Path.child, List.any_append, readable, List.any_cons, file]
  rfl

theorem project_directory_eq (files : FileSystem) (directory : Path) (found : Option Path)
    (readable : directory.hasNull = false) (unlinked : files.tree.Unlinked (files.trail directory))
    (leads : ".." ∉ files.trail directory ∨ ∃ found, files.reach directory = .ok found)
    (searched : files.projectDirectory? directory = .ok found) :
    found = (projectCandidates directory).find? fun candidate => files.holdsProject (files.spelled candidate) := by
  refine first_project_eq files _ found (fun candidate member => ?_) searched
  refine exists_project files directory candidate member unlinked leads (has_null_child candidate ?_)
  rw [Path.hasNull, List.any_eq_false] at readable ⊢
  exact fun name among => readable name ((candidates_spelled directory candidate member).2.subset among)

theorem spelled_snoc (files : FileSystem) (root name : String) (names : List String) :
    files.spelled ⟨root, names ++ [name]⟩ =
      if name = ".." then ⟨"/", (files.spelled ⟨root, names⟩).names.dropLast⟩
      else ⟨"/", (files.spelled ⟨root, names⟩).names ++ [name]⟩ := by
  rw [spelled_eq, spelled_eq, trail_append, Path.normal_names_snoc]
  split <;> rfl

-- A candidate around the path is come to after all directories that are nearer.
theorem found_around (files : FileSystem) (root : String) (names : List String) (top : Path)
    (found : (projectCandidates ⟨root, names⟩).find? (fun candidate => files.holdsProject (files.spelled candidate))
      = some top)
    (around : files.spelled top ∈ ancestors (files.spelled ⟨root, names⟩)) :
    files.nearestProject? (files.spelled ⟨root, names⟩) = some (files.spelled top) := by
  induction names using List.reverseRecOn with
  | nil => cases found
  | append_singleton names name ih =>
      have holds : files.holdsProject (files.spelled top) = true := by simpa using List.find?_some found
      rw [candidates_snoc, List.find?_cons] at found
      by_cases held : files.holdsProject (files.spelled ⟨root, names ++ [name]⟩) = true
      · simp only [held, Option.some.injEq] at found
        obtain ⟨others, self⟩ := ancestors_self (files.spelled ⟨root, names ++ [name]⟩)
        rw [nearestProject?, self, List.find?_cons, held, found]
      · simp only [held] at found
        rw [spelled_snoc] at held around ⊢
        have before := ih found
        by_cases dots : name = ".."
        · rw [if_pos dots] at held around ⊢
          change files.spelled top ∈ ancestors (files.spelled ⟨root, names⟩).parent at around
          change files.nearestProject? (files.spelled ⟨root, names⟩).parent = _
          generalize files.spelled ⟨root, names⟩ = inner at *
          by_cases highest : inner.names = []
          · obtain ⟨above, spelling⟩ := inner
            cases highest
            exact before around
          · -- The directory that the double dots lead out of is farther in, so it is not the one that was found.
            have outer := ancestors_parent inner highest
            have nearest := before (outer ▸ List.mem_cons_of_mem inner around)
            rw [nearestProject?, outer, List.find?_cons] at nearest
            by_cases inside : files.holdsProject inner = true
            · simp only [inside, Option.some.injEq] at nearest
              have shorter := ancestors_shorter inner.parent _ around
              have filled := List.length_pos_iff.mpr highest
              rw [← nearest, Path.parent, List.length_dropLast] at shorter
              omega
            · rw [nearestProject?]
              simpa only [inside] using nearest
        · rw [if_neg dots, ancestors_snoc, List.mem_cons] at around
          rw [if_neg dots] at held ⊢
          rw [nearestProject?, ancestors_snoc, List.find?_cons]
          rcases around with self | further
          · exact absurd (self ▸ holds) held
          · simp only [held]
            exact before further

theorem candidates_spelled_out (files : FileSystem) (root : String) (names : List String) (plain : ".." ∉ names) :
    (projectCandidates ⟨root, names⟩).map files.spelled ++ ancestors (files.spelled ⟨root, []⟩) =
      ancestors (files.spelled ⟨root, names⟩) := by
  induction names using List.reverseRecOn with
  | nil => rfl
  | append_singleton names name ih =>
      rw [List.mem_append, List.mem_singleton, not_or] at plain
      rw [candidates_snoc, List.map_cons, List.cons_append, ih plain.1, spelled_snoc, if_neg (Ne.symm plain.2),
        ancestors_snoc]
      rfl

theorem find_spelled (files : FileSystem) (places : List Path) :
    (places.find? fun place => files.holdsProject (files.spelled place)).map files.spelled =
      (places.map files.spelled).find? files.holdsProject := by
  rw [List.find?_map]
  rfl

theorem candidates_plain (files : FileSystem) (place : Path) (plain : place.Plain) :
    (projectCandidates place).map files.spelled = projectCandidates place := by
  refine (List.map_congr_left fun candidate member => ?_).trans (List.map_id _)
  obtain ⟨sameRoot, start⟩ := candidates_spelled place candidate member
  exact files.spelled_plain candidate ⟨sameRoot.trans plain.root, fun dots => plain.names (start.subset dots)⟩

theorem has_null_spelled (files : FileSystem) (path : Path) (here : files.directory.hasNull = false)
    (readable : path.hasNull = false) : (files.spelled path).hasNull = false := by
  rw [Path.hasNull, List.any_eq_false] at here readable ⊢
  rw [spelled_eq]
  intro name member
  rcases Path.mem_normal_names [] _ name member with none | spelled
  · cases none
  · rw [trail] at spelled
    split at spelled
    · exact readable name spelled
    · rcases List.mem_append.mp spelled with start | own
      · exact here name start
      · exact readable name own

theorem candidates_absolute (files : FileSystem) (root : String) (names : List String) (plain : ".." ∉ names) :
    projectCandidates (files.spelled ⟨root, names⟩) =
      (projectCandidates ⟨root, names⟩).map files.spelled ++ projectCandidates (files.spelled ⟨root, []⟩) := by
  have split := candidates_spelled_out files root names plain
  rw [ancestors_eq, ancestors_eq, ← List.append_assoc] at split
  exact (List.append_inj_left' split rfl).symm

theorem eq_or_iff {α : Type} (first second : Option α) : first = first.or second ↔ first.isSome = true ∨ second = none := by
  cases first <;> simp [eq_comm]

def SeenOnTheWay (files : FileSystem) (directory : Path) : Prop :=
  ∃ candidate ∈ projectCandidates directory, files.holdsProject (files.resolve candidate) = true

section Unlinked

variable (files : FileSystem) (directory : Path) (unlinked : files.tree.Unlinked (files.trail directory))

include unlinked

theorem resolve_candidate (candidate : Path) (member : candidate ∈ projectCandidates directory) :
    files.resolve candidate = files.spelled candidate := by
  obtain ⟨top, spelling⟩ := directory
  obtain ⟨root, names⟩ := candidate
  obtain ⟨rfl, more, rfl⟩ := candidates_spelled _ _ member
  rw [trail_append] at unlinked
  exact files.resolve_unlinked _ (files.tree.unlinked_prefix _ more unlinked)

theorem resolve_start : files.resolve { directory with names := [] } = files.spelled { directory with names := [] } := by
  have start := files.trail_append directory.root [] directory.names
  rw [List.nil_append] at start
  rw [start] at unlinked
  exact files.resolve_unlinked _ (files.tree.unlinked_prefix _ directory.names unlinked)

theorem map_resolve (found : Option Path) (holds : Path → Bool)
    (looked : found = (projectCandidates directory).find? holds) :
    found.map files.resolve = found.map files.spelled := by
  cases found with
  | none => rfl
  | some top =>
      exact congrArg some (resolve_candidate files directory unlinked top (List.mem_of_find?_eq_some looked.symm))

theorem seen_on_the_way_iff : SeenOnTheWay files directory ↔
    (((projectCandidates directory).map files.spelled).find? files.holdsProject).isSome = true := by
  simp only [SeenOnTheWay, List.find?_isSome, List.mem_map, exists_exists_and_eq_and]
  refine exists_congr fun candidate => and_congr_right fun member => ?_
  rw [resolve_candidate files directory unlinked candidate member]

theorem unlinked_spelled : files.tree.Unlinked (files.trail (files.spelled directory)) := by
  rw [spelled_eq]
  exact files.tree.unlinked_normal _ unlinked

end Unlinked

/-- The search is right exactly if what it finds is around the given directory, or if it finds nothing and there is
nothing. For a path without double dots this means that a directory on the way holds the file, or neither the
directory that the path starts in nor one around that: the search does not look there, and so finds less than from the
absolute form of the path, which leaves out no more than the root. -/
theorem project_directory_nearest_iff (files : FileSystem) (directory : Path) (searchable : Searchable files directory) :
    ∃ found, files.projectDirectory? directory = .ok found ∧
      (found.map files.resolve = files.nearestProject? (files.resolve directory) ↔
        (∀ top, found = some top → files.resolve top ∈ ancestors (files.resolve directory)) ∧
        (found = none → ∀ around ∈ ancestors (files.resolve directory), files.holdsProject around = false)) ∧
      (".." ∉ directory.names →
        (found.map files.resolve = files.nearestProject? (files.resolve directory) ↔
          SeenOnTheWay files directory ∨
            ∀ around ∈ ancestors (files.resolve { directory with names := [] }), files.holdsProject around = false) ∧
        ∀ whole, files.projectDirectory? (files.resolve directory) = .ok whole →
          (found.map files.resolve = whole.map files.resolve ↔ SeenOnTheWay files directory ∨
            ∀ around ∈ projectCandidates (files.resolve { directory with names := [] }),
              files.holdsProject around = false)) := by
  obtain ⟨found, searched⟩ := first_project_ok files _ searchable.quiet
  have unlinked := searchable.unlinked
  have looked := project_directory_eq files directory found searchable.readable unlinked searchable.leads searched
  have resolved := files.resolve_unlinked directory unlinked
  refine ⟨found, searched, ?_, fun plain => ?_⟩
  · constructor
    · intro right
      refine ⟨fun top own => ?_, fun none => ?_⟩
      · subst own
        exact List.mem_of_find?_eq_some right.symm
      · subst none
        simpa [nearestProject?] using right.symm
    · rintro ⟨around, nothing⟩
      cases found with
      | none =>
          have none : files.nearestProject? (files.resolve directory) = none :=
            List.find?_eq_none.mpr fun around member => by simp [nothing rfl around member]
          rw [none, Option.map_none]
      | some top =>
          have own := resolve_candidate files directory unlinked top (List.mem_of_find?_eq_some looked.symm)
          have placed := around top rfl
          rw [own, resolved] at placed
          rw [Option.map_some, own, resolved]
          exact (found_around files directory.root directory.names top looked.symm placed).symm
  · have split := candidates_spelled_out files directory.root directory.names plain
    have nowhere (places : List Path) :
        places.find? files.holdsProject = none ↔ ∀ around ∈ places, files.holdsProject around = false := by
      simp
    rw [map_resolve files directory unlinked found _ looked, resolved, resolve_start files directory unlinked,
      seen_on_the_way_iff files directory unlinked, looked, find_spelled]
    refine ⟨?_, fun whole searchedWhole => ?_⟩
    · rw [nearestProject?, ← split, List.find?_append, eq_or_iff, nowhere]
    · have absolute : ".." ∉ files.trail (files.spelled directory) := (files.spelled_is_plain directory).names
      have apart := unlinked_spelled files directory unlinked
      have lookedWhole := project_directory_eq files _ whole
        (has_null_spelled files directory searchable.here searchable.readable) apart (.inl absolute) searchedWhole
      rw [map_resolve files _ apart whole _ lookedWhole, lookedWhole, find_spelled,
        candidates_plain files _ (files.spelled_is_plain directory),
        candidates_absolute files directory.root directory.names plain, List.find?_append, eq_or_iff, nowhere]

-- A project with documents in it, and another project beside them.
def documented : FileSystem where
  tree := .directory (.cons "p" (.directory (.cons "conf.py" (.file []) (.cons "src" (.directory (.cons "docs" .empty
    (.cons "lib" (.directory (.cons "conf.py" (.file []) .nil)) .nil))) .nil))) .nil)
  directory := ⟨"/", ["p", "src"]⟩

theorem documented_searchable : Searchable documented ⟨"", ["docs"]⟩ where
  here := by decide
  readable := by decide
  quiet := by decide
  unlinked := documented.tree.unlinked_of_no_links rfl _
  leads := .inl (by decide)

theorem documented_searchable_dotted : Searchable documented ⟨"", ["lib", "..", "docs"]⟩ where
  here := by decide
  readable := by decide
  quiet := by decide
  unlinked := documented.tree.unlinked_of_no_links rfl _
  leads := .inr ⟨.empty, rfl⟩

/-- The project is not found by a path that starts inside it; a directory that a path only passes through is found
instead. -/
theorem project_directory_nearest_missed :
    documented.nearestProject? ⟨"/", ["p", "src", "docs"]⟩ = some ⟨"/", ["p"]⟩ ∧
    (∃ found, documented.projectDirectory? ⟨"", ["docs"]⟩ = .ok found ∧
      found.map documented.resolve ≠ some ⟨"/", ["p"]⟩) ∧
    ∃ found, documented.projectDirectory? ⟨"", ["lib", "..", "docs"]⟩ = .ok found ∧
      found.map documented.resolve ≠ some ⟨"/", ["p"]⟩ := by
  refine ⟨rfl, ?_, ?_⟩
  · obtain ⟨found, searched, -, undotted⟩ := project_directory_nearest_iff documented _ documented_searchable
    refine ⟨found, searched, fun right => ?_⟩
    obtain ⟨exact, -⟩ := undotted (by decide)
    rcases exact.mp right with ⟨candidate, member, held⟩ | nowhere
    · rw [List.mem_singleton.mp member] at held
      cases held
    · cases nowhere ⟨"/", ["p"]⟩ (by decide)
  · obtain ⟨found, searched, exact, -⟩ := project_directory_nearest_iff documented _ documented_searchable_dotted
    refine ⟨found, searched, fun right => ?_⟩
    have passed : found = some ⟨"", ["lib"]⟩ := Except.ok.inj (searched.symm.trans rfl)
    exact absurd ((exact.mp right).1 _ passed) (by decide)

end FileSystem

end MarkupLint
