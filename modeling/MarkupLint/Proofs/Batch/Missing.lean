import MarkupLint.Proofs.Batch.Discovery
import Mathlib.Data.List.Perm.Basic

set_option autoImplicit false

namespace MarkupLint.Batch

section Sift

variable (fault? : Path → Option PathError) (isPresent : Path → Bool)

-- The paths that are looked at: all but those directly behind one that is looked at and missing.
def lookedAt : List Path → List Path
  | [] => []
  | [path] => [path]
  | path :: next :: rest =>
      if isPresent path then path :: lookedAt (next :: rest) else path :: lookedAt rest

def Apart (paths : List Path) : Prop :=
  paths.IsChain fun path next => isPresent path = true ∨ isPresent next = true

theorem looked_at_sublist (paths : List Path) : (lookedAt isPresent paths).Sublist paths := by
  fun_induction lookedAt isPresent paths with
  | case1 => exact .slnil
  | case2 path => exact .refl _
  | case3 path next rest present ih => exact ih.cons_cons path
  | case4 path next rest missing ih => exact (ih.cons next).cons_cons path

theorem apart_cons_present (path : Path) (rest : List Path) (present : isPresent path = true) :
    Apart isPresent (path :: rest) ↔ Apart isPresent rest := by
  cases rest with
  | nil => simp [Apart]
  | cons next rest => simp [Apart, present]

theorem missing_looked_at_iff (paths : List Path) :
    (lookedAt isPresent paths).filter (!isPresent ·) = paths.filter (!isPresent ·) ↔ Apart isPresent paths := by
  fun_induction lookedAt isPresent paths with
  | case1 => simp [Apart]
  | case2 path => simp [Apart]
  | case3 path next rest present ih =>
      rw [apart_cons_present isPresent path _ present, ← ih]
      simp [present]
  | case4 path next rest missing ih =>
      by_cases nextPresent : isPresent next = true
      · have apart : Apart isPresent (path :: next :: rest) ↔ Apart isPresent (next :: rest) := by
          simp [Apart, nextPresent]
        rw [apart, apart_cons_present isPresent next rest nextPresent, ← ih]
        simp [missing, nextPresent]
      · -- The second of two missing paths is passed over, and what is left is too short to make up for it.
        have beside : ¬ Apart isPresent (path :: next :: rest) := by simp [Apart, missing, nextPresent]
        refine iff_of_false (fun same => ?_) beside
        have fewer := ((looked_at_sublist isPresent rest).filter (!isPresent ·)).length_le
        have lengths := congrArg List.length same
        simp only [List.filter_cons, missing, nextPresent, Bool.not_false, if_true, List.length_cons] at lengths
        omega

theorem without_perm (kept : List Path) (path : Path) : (sift.without path kept).Perm kept := by
  rw [sift.without]
  split
  · next held =>
      have member : path ∈ kept := List.contains_iff_mem.mp held
      exact (List.perm_append_singleton path _).trans (List.perm_cons_erase member).symm
  · exact .refl _

theorem sift_perm (kept paths : List Path) (whole : (sift fault? isPresent kept paths).fault = none) :
    ((sift fault? isPresent kept paths).stay ++ (sift fault? isPresent kept paths).missing).Perm (kept ++ paths) := by
  fun_induction sift fault? isPresent kept paths with
  | case1 kept => exact .refl _
  | case2 kept path fault faulty => cases whole
  | case3 kept path sound present => simp
  | case4 kept path sound missing => exact (without_perm kept path).append_right [path]
  | case5 kept path next rest fault faulty => cases whole
  | case6 kept path next rest sound present ih => simpa using ih whole
  | case7 kept path next rest sound missing sifted ih =>
      have taken : (sifted.stay ++ path :: sifted.missing).Perm (path :: (sifted.stay ++ sifted.missing)) :=
        List.perm_middle
      have later := ih whole
      rw [List.append_assoc] at later
      have back : (sift.without path kept ++ ([next] ++ rest)).Perm (kept ++ ([next] ++ rest)) :=
        (without_perm kept path).append_right _
      exact (taken.trans ((later.trans back).cons path)).trans List.perm_middle.symm

theorem sift_fault_eq (kept paths : List Path) :
    (sift fault? isPresent kept paths).fault = (lookedAt isPresent paths).findSome? fault? := by
  fun_induction sift fault? isPresent kept paths with
  | case1 kept => rfl
  | case2 kept path fault faulty => simp [lookedAt, faulty]
  | case3 kept path sound present => simp [lookedAt, sound]
  | case4 kept path sound missing => simp [lookedAt, sound]
  | case5 kept path next rest fault faulty =>
      rw [lookedAt]
      split <;> simp [faulty]
  | case6 kept path next rest sound present ih => simpa [lookedAt, sound, present] using ih
  | case7 kept path next rest sound missing sifted ih => simpa [lookedAt, sound, missing] using ih

theorem sift_missing_eq (kept paths : List Path) (whole : (sift fault? isPresent kept paths).fault = none) :
    (sift fault? isPresent kept paths).missing = (lookedAt isPresent paths).filter (!isPresent ·) := by
  fun_induction sift fault? isPresent kept paths with
  | case1 kept => rfl
  | case2 kept path fault faulty => cases whole
  | case3 kept path sound present => simp [lookedAt, present]
  | case4 kept path sound missing => simp [lookedAt, missing]
  | case5 kept path next rest fault faulty => cases whole
  | case6 kept path next rest sound present ih => simpa [lookedAt, present] using ih whole
  | case7 kept path next rest sound missing sifted ih =>
      have later : sifted.missing = (lookedAt isPresent rest).filter (!isPresent ·) := ih whole
      simp [lookedAt, missing, later]

theorem sift_present_eq (paths : List Path) (whole : (sift fault? isPresent [] paths).fault = none) :
    (sift fault? isPresent [] paths).stay.filter isPresent = paths.filter isPresent :=
  sift_filter fault? isPresent isPresent (fun _ present _ => present) [] paths whole

theorem sift_stay_eq (paths : List Path) (whole : (sift fault? isPresent [] paths).fault = none)
    (reported : (sift fault? isPresent [] paths).missing = paths.filter (!isPresent ·)) :
    (sift fault? isPresent [] paths).stay = paths.filter isPresent := by
  have parts := sift_perm fault? isPresent [] paths whole
  rw [reported, List.nil_append] at parts
  have split : (paths.filter isPresent ++ paths.filter (!isPresent ·)).Perm paths := List.filter_append_perm _ _
  have same := (List.perm_append_right_iff _).mp (parts.trans split.symm)
  have present : (sift fault? isPresent [] paths).stay.filter isPresent = (sift fault? isPresent [] paths).stay :=
    List.filter_eq_self.mpr fun path member => (List.mem_filter.mp (same.mem_iff.mp member)).2
  rw [← present]
  exact sift_present_eq fault? isPresent paths whole

end Sift

theorem update_missing (batch : Batch) (files : FileSystem) (several : batch.readsInput = false) :
    let recursive := batch.settings.recursive.getD false
    let sifted := sift files.fault? (files.isPresent recursive) [] batch.paths
    (batch.update files).batch.missing = sifted.missing ∧
      (batch.update files).lines = sifted.missing.map (missingWarning recursive) := by
  rw [update, several]
  exact ⟨rfl, rfl⟩

/-- The paths that are there stay and all others are reported, each list in order and with repetitions, exactly if
every path that is looked at can be looked up and no two missing paths stand side by side. At all events the paths
that are there stay in order, the missing ones that are looked at are reported in order, and no path is lost or added.
An update logs one warning for each path that is reported. -/
theorem sift_reports_iff (files : FileSystem) (recursive : Bool) (paths : List Path) :
    let isPresent := files.isPresent recursive
    let sifted := sift files.fault? isPresent [] paths
    (sifted.fault = none ∧ sifted.stay = paths.filter isPresent ∧ sifted.missing = paths.filter (!isPresent ·) ↔
      (∀ path ∈ lookedAt isPresent paths, files.fault? path = none) ∧
        paths.IsChain fun path next => isPresent path = true ∨ isPresent next = true) ∧
    (sifted.fault = none → sifted.stay.filter isPresent = paths.filter isPresent ∧
      sifted.missing = (lookedAt isPresent paths).filter (!isPresent ·) ∧ (sifted.stay ++ sifted.missing).Perm paths) ∧
    ∀ batch : Batch, batch.readsInput = false → batch.paths = paths → batch.settings.recursive.getD false = recursive →
      (batch.update files).batch.missing = sifted.missing ∧
        (batch.update files).lines = sifted.missing.map (missingWarning recursive) := by
  intro isPresent sifted
  refine ⟨?_, ?_, ?_⟩
  · rw [← List.findSome?_eq_none_iff, ← sift_fault_eq files.fault? isPresent [] paths]
    refine and_congr_right fun whole => ?_
    rw [← Apart, ← missing_looked_at_iff isPresent paths, ← sift_missing_eq files.fault? isPresent [] paths whole]
    exact ⟨And.right, fun reported => ⟨sift_stay_eq files.fault? isPresent paths whole reported, reported⟩⟩
  · intro whole
    exact ⟨sift_present_eq files.fault? isPresent paths whole, sift_missing_eq files.fault? isPresent [] paths whole,
      sift_perm files.fault? isPresent [] paths whole⟩
  · rintro batch several rfl rfl
    exact update_missing batch files several

/-- Of three missing paths side by side the second is not reported and stays. One that stands alone is taken out. -/
theorem sift_reports_side_by_side :
    let paths : List Path := [⟨"", ["x.rst"]⟩, ⟨"", ["y.rst"]⟩, ⟨"", ["x.rst"]⟩, ⟨"", ["top.RST"]⟩]
    let batch : Batch := { settings := {}, overwrite := true, paths := paths }
    let sifted := sift nested.fault? (nested.isPresent false) [] paths
    ¬ (sifted.fault = none ∧ sifted.stay = paths.filter (nested.isPresent false) ∧
        sifted.missing = paths.filter (!nested.isPresent false ·)) ∧
      batch.readsInput = false ∧ (batch.update nested).batch.missing = [⟨"", ["x.rst"]⟩, ⟨"", ["x.rst"]⟩] ∧
      (sift nested.fault? (nested.isPresent false) [] (paths.drop 2)).stay = [⟨"", ["top.RST"]⟩] := by
  intro paths batch sifted
  obtain ⟨exactly, -, logged⟩ := sift_reports_iff nested false paths
  refine ⟨fun complete => ?_, rfl, (logged batch rfl rfl rfl).1.trans (by decide +kernel), ?_⟩
  · have apart := (exactly.mp complete).2
    simp only [paths, List.isChain_cons_cons] at apart
    exact absurd apart.1 (by decide +kernel)
  · exact ((sift_reports_iff nested false (paths.drop 2)).1.mpr ⟨by decide +kernel, by decide +kernel⟩).2.1.trans
      (by decide +kernel)

end MarkupLint.Batch
