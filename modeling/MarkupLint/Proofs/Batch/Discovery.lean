import MarkupLint.Batch.Basic
import MarkupLint.Proofs.FileTree.Walk

set_option autoImplicit false

namespace MarkupLint

namespace Batch

section Sift

variable (fault? : Path → Option PathError) (isPresent : Path → Bool)

theorem filter_without (kept : List Path) (path : Path) (wanted : Path → Bool) (dropped : wanted path = false) :
    (sift.without path kept).filter wanted = kept.filter wanted := by
  have absent : path ∉ kept.filter wanted := fun member => by simp [dropped] at member
  rw [sift.without]
  split
  · rw [List.filter_append, ← List.erase_filter, List.erase_of_not_mem absent]
    simp [dropped]
  · rfl

-- Only a path that can be looked up and is not there is taken out.
theorem sift_filter (wanted : Path → Bool)
    (spared : ∀ path, wanted path = true → fault? path = none → isPresent path = true) (kept paths : List Path)
    (whole : (sift fault? isPresent kept paths).fault = none) :
    (sift fault? isPresent kept paths).stay.filter wanted = (kept ++ paths).filter wanted := by
  fun_induction sift fault? isPresent kept paths with
  | case1 kept => simp
  | case2 kept path fault faulty => cases whole
  | case3 kept path sound present => rfl
  | case4 kept path sound missing =>
      have dropped : wanted path = false := Bool.eq_false_iff.mpr fun held => missing (spared path held sound)
      simp [filter_without kept path wanted dropped, dropped]
  | case5 kept path next rest fault faulty => cases whole
  | case6 kept path next rest sound present ih => simpa using ih whole
  | case7 kept path next rest sound missing sifted ih =>
      have dropped : wanted path = false := Bool.eq_false_iff.mpr fun held => missing (spared path held sound)
      have later := ih whole
      rw [List.append_assoc, List.filter_append, filter_without kept path wanted dropped] at later
      exact later.trans (by simp [dropped])

-- A path behind a missing one may be passed over, but the first one that is missing is not.
theorem sift_missing_nil_iff (kept paths : List Path) (whole : (sift fault? isPresent kept paths).fault = none) :
    (sift fault? isPresent kept paths).missing = [] ↔ ∀ path ∈ paths, isPresent path = true := by
  fun_induction sift fault? isPresent kept paths with
  | case1 kept => simp
  | case2 kept path fault faulty => cases whole
  | case3 kept path sound present => simp [present]
  | case4 kept path sound missing => simp [missing]
  | case5 kept path next rest fault faulty => cases whole
  | case6 kept path next rest sound present ih =>
      rw [ih whole, @List.forall_mem_cons _ _ path, and_iff_right present]
  | case7 kept path next rest sound missing sifted ih => simp [missing]

end Sift

end Batch

namespace FileSystem

def gathered (files : FileSystem) (recursive : Bool) (queue : List Path) : List Path :=
  queue.filter files.isDocument
    ++ if recursive then (queue.filter files.isDirectory).flatMap files.documentsBelow else []

theorem discover_sound (files : FileSystem) (recursive : Bool) (queue : List Path) :
    ∀ path ∈ (files.discover recursive queue).documents, files.isDocument path = true := by
  fun_induction discover files recursive queue with
  | case1 => exact fun _ member => nomatch member
  | case2 path queue fault faulty => exact fun _ member => nomatch member
  | case3 path queue sound entered fault faulty => exact fun _ member => nomatch member
  | case4 path queue sound entered clean ih => exact ih
  | case5 path queue sound notEntered document ih => exact List.forall_mem_cons.mpr ⟨document, ih⟩
  | case6 path queue sound notEntered other ih => exact ih

end FileSystem

namespace Batch

section Update

variable (files : FileSystem) (recursive : Bool) (paths : List Path)
  (whole : (sift files.fault? (files.isPresent recursive) [] paths).fault = none)

include whole

end Update

theorem update_eq (batch : Batch) (files : FileSystem) (several : batch.readsInput = false) :
    let recursive := batch.settings.recursive.getD false
    let sifted := sift files.fault? (files.isPresent recursive) [] batch.paths
    let found := if sifted.fault.isSome then { fault := sifted.fault } else files.discover recursive sifted.stay
    (batch.update files).fault = found.fault ∧ (batch.update files).batch.files = found.documents := by
  rw [update, several]
  exact ⟨rfl, rfl⟩

-- Documents in a working directory, in a directory there, and below that in a hidden directory and in one that cannot
-- be listed.
def nested : FileSystem where
  tree := .directory (.cons "w" (.directory
    (.cons "d" (.directory (.cons ".h" (.directory (.cons "b.rst" (.file []) .nil))
      (.cons "a.rst" (.file []) (.cons "e" (.directory (.cons "c.rst" (.file []) .nil))
      (.cons "f" (.directory (.cons "g.rst" (.file []) .nil) { lists := false }) (.cons "x.txt" (.file []) .nil))))))
    (.cons "top.RST" (.file []) .nil))) .nil)
  directory := ⟨"/", ["w"]⟩

end Batch

end MarkupLint
