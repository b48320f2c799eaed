import MarkupLint.Path
import MarkupLint.Proofs.Text.Pieces

set_option autoImplicit false

namespace MarkupLint

namespace Path

structure IsName (name : String) : Prop where
  filled : name ≠ ""
  dot : name ≠ "."
  slash : '/' ∉ name.toList

theorem of_string_names (text name : String) (member : name ∈ (ofString text).names) : IsName name := by
  simp only [ofString, List.mem_map, List.mem_filter, Bool.and_eq_true, decide_eq_true_eq] at member
  obtain ⟨piece, ⟨split, filled, dot⟩, rfl⟩ := member
  refine ⟨?_, ?_, ?_⟩
  · intro empty
    exact filled (by simpa using congrArg String.toList empty)
  · intro single
    exact dot (by simpa using congrArg String.toList single)
  · rw [String.toList_ofList]
    exact Text.split_on_char_absent '/' _ piece split

theorem of_string_root (text : String) :
    (ofString text).root = "" ∨ (ofString text).root = "/" ∨ (ofString text).root = "//" := by
  simp only [ofString, rootOf]
  split <;> simp

def namesIn (text : List Char) : List String :=
  ((Text.splitOnChar '/' text).filter fun name => name ≠ [] && name ≠ ['.']).map String.ofList

@[simp]
theorem names_in_slash (text : List Char) : namesIn ('/' :: text) = namesIn text := by
  simp [namesIn, Text.splitOnChar]

theorem names_in_joined (names : List String) (read : ∀ name ∈ names, IsName name) :
    namesIn (String.intercalate "/" names).toList = names := by
  by_cases none : names = []
  · subst none
    rfl
  · have kept : ∀ piece ∈ names.map String.toList, (decide (piece ≠ []) && decide (piece ≠ ['.'])) = true := by
      intro piece member
      obtain ⟨name, among, rfl⟩ := List.mem_map.mp member
      obtain ⟨filled, dot, -⟩ := read name among
      simp only [Bool.and_eq_true, decide_eq_true_eq]
      exact ⟨fun empty => filled (String.ext (by simpa using empty)), fun single => dot (String.ext (by simpa using single))⟩
    have split : Text.splitOnChar '/' (String.intercalate "/" names).toList = names.map String.toList :=
      Text.split_on_char_joined '/' "/" rfl names none fun name among => (read name among).slash
    rw [namesIn, split, List.filter_eq_self.mpr kept, List.map_map]
    exact (List.map_congr_left fun name _ => String.ofList_toList).trans (List.map_id names)

theorem joined_head (names : List String) (read : ∀ name ∈ names, IsName name) :
    (String.intercalate "/" names).toList.head? ≠ some '/' := by
  cases names with
  | nil => simp
  | cons name rest =>
      obtain ⟨filled, -, slash⟩ := read name List.mem_cons_self
      rw [String.toList_intercalate]
      cases spelled : name.toList with
      | nil => exact absurd (String.ext (by simpa using spelled)) filled
      | cons c letters =>
          rw [spelled, List.mem_cons, not_or] at slash
          cases rest <;> simpa [spelled, List.intercalate] using Ne.symm slash.1

theorem root_of_joined (root : String) (names : List String) (read : ∀ name ∈ names, IsName name)
    (slashes : root = "" ∨ root = "/" ∨ root = "//") :
    rootOf (root ++ String.intercalate "/" names).toList = root := by
  have none : (String.intercalate "/" names).toList.takeWhile (· = '/') = [] := by
    have head := joined_head names read
    cases joined : (String.intercalate "/" names).toList with
    | nil => rfl
    | cons c rest =>
        rw [joined, List.head?_cons, ne_eq, Option.some.injEq] at head
        simp [head]
  rw [rootOf, String.toList_append]
  generalize (String.intercalate "/" names).toList = joined at none
  rcases slashes with rfl | rfl | rfl <;> simp [none]

structure Readable (path : Path) : Prop where
  root : path.root = "" ∨ path.root = "/" ∨ path.root = "//"
  names : ∀ name ∈ path.names, IsName name

theorem of_string_readable (text : String) : (ofString text).Readable :=
  ⟨of_string_root text, of_string_names text⟩

theorem of_string_to_string (path : Path) (readable : path.Readable) : ofString (toString path) = path := by
  obtain ⟨root, names⟩ := path
  obtain ⟨slashes, read⟩ := readable
  by_cases here : root = "" ∧ names = []
  · -- The working directory is written as a single dot, which is no name.
    obtain ⟨rfl, rfl⟩ := here
    rfl
  · have written : toString (Path.mk root names) = root ++ String.intercalate "/" names :=
      if_neg (by simpa using here)
    have names_eq : namesIn (root ++ String.intercalate "/" names).toList = names := by
      rw [String.toList_append]
      rcases slashes with rfl | rfl | rfl
      · exact names_in_joined names read
      · exact (names_in_slash _).trans (names_in_joined names read)
      · exact (names_in_slash _).trans ((names_in_slash _).trans (names_in_joined names read))
    rw [written]
    exact congr (congrArg Path.mk (root_of_joined root names read slashes)) names_eq

end Path

end MarkupLint
