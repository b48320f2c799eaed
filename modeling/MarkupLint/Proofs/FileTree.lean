import MarkupLint.FileTree
import Mathlib.Data.List.Induction

set_option autoImplicit false

namespace MarkupLint

def plainBytes (text : String) : List UInt8 := text.toList.map fun c => c.toNat.toUInt8

namespace Path

structure Plain (path : Path) : Prop where
  root : path.root = "/"
  names : ".." ∉ path.names

theorem normal_names_plain (done names : List String) (plain : ".." ∉ names) :
    normalNames done names = done.reverse ++ names := by
  induction names generalizing done with
  | nil => simp [normalNames]
  | cons name rest ih =>
      rw [List.mem_cons, not_or] at plain
      rw [normalNames, if_neg (Ne.symm plain.1), ih (name :: done) plain.2]
      simp

theorem normal_names_no_dots (done names : List String) (plain : ".." ∉ done) :
    ".." ∉ normalNames done names := by
  induction names generalizing done with
  | nil => simpa [normalNames] using plain
  | cons name rest ih =>
      by_cases dots : name = ".."
      · rw [normalNames, if_pos dots]
        exact ih _ fun member => plain (List.mem_of_mem_drop member)
      · rw [normalNames, if_neg dots]
        exact ih _ (by simp [plain, Ne.symm dots])

theorem normal_names_snoc (done names : List String) (name : String) :
    normalNames done (names ++ [name]) =
      if name = ".." then (normalNames done names).dropLast else normalNames done names ++ [name] := by
  induction names generalizing done with
  | nil => by_cases dots : name = ".." <;> simp [normalNames, dots]
  | cons first rest ih =>
      by_cases dots : first = ".."
      · rw [List.cons_append, normalNames, if_pos dots, ih, normalNames, if_pos dots]
      · rw [List.cons_append, normalNames, if_neg dots, ih, normalNames, if_neg dots]

theorem mem_normal_names (done names : List String) (name : String) (member : name ∈ normalNames done names) :
    name ∈ done ∨ name ∈ names := by
  induction names generalizing done with
  | nil => exact .inl (List.mem_reverse.mp member)
  | cons first rest ih =>
      by_cases dots : first = ".."
      · rw [normalNames, if_pos dots] at member
        exact (ih _ member).imp List.mem_of_mem_drop (List.mem_cons_of_mem first)
      · rw [normalNames, if_neg dots] at member
        rcases ih _ member with own | later
        · rcases List.mem_cons.mp own with rfl | before
          · exact .inr List.mem_cons_self
          · exact .inl before
        · exact .inr (List.mem_cons_of_mem first later)

theorem prefix_normal_names (names place : List String) (start : place <+: normalNames [] names) :
    ∃ before, before <+: names ∧ normalNames [] before = place := by
  induction names using List.reverseRecOn generalizing place with
  | nil => exact ⟨[], List.nil_prefix, (List.prefix_nil.mp start).symm⟩
  | append_singleton names name ih =>
      have earlier : place <+: normalNames [] names → ∃ before, before <+: names ++ [name] ∧ normalNames [] before = place :=
        fun inner => (ih place inner).imp fun _ held => ⟨held.1.trans (List.prefix_append _ _), held.2⟩
      rw [normal_names_snoc] at start
      by_cases dots : name = ".."
      · rw [if_pos dots] at start
        exact earlier (start.trans (List.dropLast_prefix _))
      · rw [if_neg dots, List.prefix_concat_iff] at start
        rcases start with whole | inner
        · exact ⟨names ++ [name], List.prefix_rfl, by rw [normal_names_snoc, if_neg dots, whole]⟩
        · exact earlier inner

end Path

namespace FileTree

theorem seek_append (tree : FileTree) (names more : List String) :
    tree.seek (names ++ more) = tree.seek names >>= fun found => found.seek more := by
  fun_induction seek tree names with
  | case1 tree => rfl
  | case2 entries access name rest barred => simp [seek, barred]; rfl
  | case3 entries access name rest open_ long => simp [seek, open_, long]; rfl
  | case4 entries access name rest open_ short child found ih => simpa [seek, open_, short, found] using ih
  | case5 entries access name rest open_ short missing => simp [seek, open_, short, missing]; rfl
  | case6 bytes readable name rest => rfl
  | case7 target name rest => rfl

-- No link stands where the names lead to.
def Unlinked (tree : FileTree) (names : List String) : Prop :=
  ∀ before, before <+: names → ∀ target, tree.seek (Path.normalNames [] before) ≠ .ok (.link target)

-- The same from a place on the way, of which the names stand in reverse.
def UnlinkedFrom (tree : FileTree) (done names : List String) : Prop :=
  ∀ before, before <+: names → ∀ target, tree.seek (Path.normalNames done before) ≠ .ok (.link target)

section From

variable (tree : FileTree) (done rest : List String)

theorem unlinked_from_up (unlinked : tree.UnlinkedFrom done (".." :: rest)) : tree.UnlinkedFrom (done.drop 1) rest :=
  fun before within => unlinked (".." :: before) ((List.prefix_cons_inj "..").mpr within)

theorem unlinked_from_into (name : String) (named : name ≠ "..") (unlinked : tree.UnlinkedFrom done (name :: rest)) :
    tree.UnlinkedFrom (name :: done) rest ∧ ∀ target, tree.seek (done.reverse ++ [name]) ≠ .ok (.link target) := by
  have inner : tree.UnlinkedFrom (name :: done) rest := by
    intro before within
    simpa only [Path.normalNames, if_neg named] using unlinked (name :: before) ((List.prefix_cons_inj name).mpr within)
  refine ⟨inner, ?_⟩
  rw [← List.reverse_cons]
  exact inner [] List.nil_prefix

end From

theorem link_count_lookup (wanted : String) (entries : FileEntries) (found : FileTree)
    (holds : entries.lookup wanted = some found) : found.linkCount ≤ entries.linkCount := by
  fun_induction FileEntries.lookup wanted entries with
  | case1 => cases holds
  | case2 tree rest =>
      cases holds
      rw [FileEntries.linkCount]
      omega
  | case3 name tree rest different ih =>
      have smaller := ih holds
      rw [FileEntries.linkCount]
      omega

theorem link_count_seek (tree found : FileTree) (names : List String) (holds : tree.seek names = .ok found) :
    found.linkCount ≤ tree.linkCount := by
  fun_induction seek tree names with
  | case1 tree =>
      cases holds
      exact Nat.le_refl _
  | case4 entries access name rest _ _ child under ih =>
      exact Nat.le_trans (ih holds) (link_count_lookup name entries child under)
  | case2 | case3 | case5 | case6 | case7 => cases holds

theorem unlinked_of_no_links (tree : FileTree) (none : tree.linkCount = 0) (names : List String) : tree.Unlinked names := by
  intro before _ target found
  have counted := link_count_seek tree _ _ found
  rw [none] at counted
  exact absurd counted (by simp [linkCount])

theorem unlinked_prefix (tree : FileTree) (names more : List String) (unlinked : tree.Unlinked (names ++ more)) :
    tree.Unlinked names :=
  fun before within => unlinked before (within.trans (List.prefix_append names more))

theorem unlinked_normal (tree : FileTree) (names : List String) (unlinked : tree.Unlinked names) :
    tree.Unlinked (Path.normalNames [] names) := by
  intro before within target
  obtain ⟨spelled, start, same⟩ := Path.prefix_normal_names names before within
  have plain : ".." ∉ before := fun dots =>
    Path.normal_names_no_dots [] names List.not_mem_nil (within.subset dots)
  rw [Path.normal_names_plain [] before plain, List.reverse_nil, List.nil_append, ← same]
  exact unlinked spelled start target

end FileTree

namespace FileSystem

section Steps

variable (tree : FileTree)

theorem settle_with_unlinked (jump : List String → Path → Option (List String)) (done names : List String)
    (unlinked : tree.UnlinkedFrom done names) :
    settleWith tree jump done.reverse names = some (Path.normalNames done names) := by
  induction names generalizing done with
  | nil => rfl
  | cons name rest ih =>
      rw [settleWith, Path.normalNames]
      by_cases dots : name = ".."
      · subst dots
        rw [if_pos rfl, if_pos rfl, List.dropLast_reverse, ← List.drop_one]
        exact ih (done.drop 1) (tree.unlinked_from_up done rest unlinked)
      · obtain ⟨inner, here⟩ := tree.unlinked_from_into done rest name dots unlinked
        have later := ih (name :: done) inner
        rw [List.reverse_cons] at later
        rw [if_neg dots, if_neg dots]
        split
        · next target found => exact absurd found (here target)
        · exact later

end Steps

@[simp]
theorem trail_append (files : FileSystem) (root : String) (names more : List String) :
    files.trail ⟨root, names ++ more⟩ = files.trail ⟨root, names⟩ ++ more := by
  by_cases absolute : root = ""
  · simp [trail, Path.isAbsolute, absolute]
  · simp [trail, Path.isAbsolute, absolute]

def spelled (files : FileSystem) (path : Path) : Path := Path.resolve files.directory path

theorem spelled_eq (files : FileSystem) (path : Path) :
    files.spelled path = ⟨"/", Path.normalNames [] (files.trail path)⟩ := by
  rw [spelled, Path.resolve, Path.join, trail]
  split <;> rfl

theorem spelled_is_plain (files : FileSystem) (path : Path) : (files.spelled path).Plain :=
  ⟨rfl, Path.normal_names_no_dots [] _ List.not_mem_nil⟩

theorem spelled_plain (files : FileSystem) (path : Path) (plain : path.Plain) : files.spelled path = path := by
  obtain ⟨root, names⟩ := path
  obtain ⟨rfl, undotted⟩ := plain
  rw [spelled_eq]
  exact congrArg _ (Path.normal_names_plain [] names undotted)

theorem resolve_unlinked (files : FileSystem) (path : Path) (unlinked : files.tree.Unlinked (files.trail path)) :
    files.resolve path = files.spelled path := by
  have settled : files.realNames? path = some (Path.normalNames [] (files.trail path)) := by
    rw [realNames?]
    cases files.tree.linkCount with
    | zero => exact settle_with_unlinked files.tree _ [] _ unlinked
    | succ depth => exact settle_with_unlinked files.tree _ [] _ unlinked
  rw [resolve, settled, spelled_eq]

section Follow

variable (tree : FileTree) (jump : List String → List String → Except LookFault FileTree)

theorem follow_with_plain (here names : List String) (plain : ".." ∉ names)
    (unlinked : ∀ before, before <+: names → ∀ target, tree.seek (here ++ before) ≠ .ok (.link target)) :
    followWith tree jump here names = tree.seek (here ++ names) := by
  induction names generalizing here with
  | nil => rw [followWith, List.append_nil]
  | cons name rest ih =>
      rw [List.mem_cons, not_or] at plain
      have here' := unlinked [name] ((List.prefix_cons_inj name).mpr List.nil_prefix)
      have later := ih (here ++ [name]) plain.2 fun before within => by
        simpa using unlinked (name :: before) ((List.prefix_cons_inj name).mpr within)
      rw [followWith, if_neg (Ne.symm plain.1)]
      split
      · next target found => exact absurd found (here' target)
      · next found => simpa using later
      · next fault found =>
          rw [← List.singleton_append, ← List.append_assoc, tree.seek_append (here ++ [name]), found]
          rfl

theorem follow_with_here (here names : List String) :
    followWith tree jump here names = tree.seek here >>= fun _ => followWith tree jump here names := by
  cases names with
  | nil =>
      rw [followWith]
      cases tree.seek here <;> rfl
  | cons name rest =>
      cases found : tree.seek here with
      | ok other => rfl
      | error fault =>
          rw [followWith, tree.seek_append, found]
          split <;> rfl

-- Names are followed to the end of a part of them, and then from there.
theorem follow_with_append (done names more : List String) (unlinked : tree.UnlinkedFrom done names) :
    followWith tree jump done.reverse (names ++ more) =
      followWith tree jump done.reverse names >>= fun _ => followWith tree jump (Path.normalNames done names) more := by
  induction names generalizing done with
  | nil => exact follow_with_here tree jump done.reverse more
  | cons name rest ih =>
      rw [List.cons_append, followWith, followWith, Path.normalNames]
      by_cases dots : name = ".."
      · subst dots
        rw [if_pos rfl, if_pos rfl, if_pos rfl]
        have later := ih (done.drop 1) (tree.unlinked_from_up done rest unlinked)
        rw [List.drop_one, ← List.dropLast_reverse, ← List.drop_one] at later
        rcases tree.seek done.reverse with fault | bytes | ⟨entries, access⟩ | target
        · rfl
        · rfl
        · by_cases entered : access.enters = true
          · simpa only [if_pos entered] using later
          · simp only [if_neg entered]
            rfl
        · rfl
      · obtain ⟨inner, here⟩ := tree.unlinked_from_into done rest name dots unlinked
        have later := ih (name :: done) inner
        rw [List.reverse_cons] at later
        rw [if_neg dots, if_neg dots, if_neg dots]
        rcases found : tree.seek (done.reverse ++ [name]) with fault | bytes | ⟨entries, access⟩ | target
        · rfl
        · exact later
        · exact later
        · exact absurd found (here target)

theorem seek_of_follow_with (names : List String) (found : FileTree) (unlinked : tree.Unlinked names)
    (leads : followWith tree jump [] names = .ok found) : tree.seek (Path.normalNames [] names) = .ok found := by
  have split := follow_with_append tree jump [] names [] unlinked
  rw [List.append_nil, List.reverse_nil, leads] at split
  exact split.symm

theorem follow_with_normal (names more : List String) (found : FileTree) (unlinked : tree.Unlinked names)
    (leads : followWith tree jump [] names = .ok found) :
    followWith tree jump [] (names ++ more) = followWith tree jump [] (Path.normalNames [] names ++ more) := by
  have plain : ".." ∉ Path.normalNames [] names := Path.normal_names_no_dots [] names List.not_mem_nil
  have own : Path.normalNames [] (Path.normalNames [] names) = Path.normalNames [] names :=
    Path.normal_names_plain [] _ plain
  have settled := tree.unlinked_normal names unlinked
  have place := seek_of_follow_with tree jump names found unlinked leads
  have again : followWith tree jump [] (Path.normalNames [] names) = .ok found := by
    rw [follow_with_plain tree jump [] _ plain, List.nil_append, place]
    intro before within target
    have undotted : ".." ∉ before := fun dots => plain (within.subset dots)
    simpa only [Path.normal_names_plain [] before undotted, List.reverse_nil] using settled before within target
  have spelled := follow_with_append tree jump [] names more unlinked
  have absolute := follow_with_append tree jump [] _ more settled
  rw [List.reverse_nil, leads] at spelled
  rw [List.reverse_nil, again, own] at absolute
  rw [spelled, absolute]

end Follow

end FileSystem

end MarkupLint
