import MarkupLint.Proofs.Inline
import MarkupLint.Proofs.Text.Lines
import MarkupLint.Settings.Basic

set_option autoImplicit false

namespace MarkupLint.Inline

def comment (kind : IgnoreKind) (value : String) : String := ".. rstcheck: " ++ kind.key ++ "=" ++ value

theorem to_list_comment (kind : IgnoreKind) (value : String) :
    (comment kind value).toList = marker ++ (kind.key.toList ++ '=' :: value.toList) := by
  simp only [comment, String.toList_append, List.append_assoc]
  rfl

theorem key_stripped (kind : IgnoreKind) : Text.Stripped kind.key.toList kind.key.toList := by
  rw [← Text.trim_eq_iff]
  cases kind <;> decide +kernel

theorem comment_plain (kind : IgnoreKind) : ∀ c ∈ marker ++ kind.key.toList ++ ['='], Text.isLineBreak c = false := by
  rw [← Text.any_line_break_iff]
  cases kind <;> decide +kernel

@[simp]
theorem names_in_strip (value : String) : namesIn (Text.strip value) = namesIn value := by
  have pieces := congrArg (List.map String.ofList) (Text.split_on_char_trim ',' value.toList (by decide))
  simpa [namesIn, Text.strip, Function.comp_def] using pieces

section Comment

variable (kind : IgnoreKind) (value : String) (noSign : '=' ∉ value.toList)
  (oneLine : ∀ c ∈ value.toList, Text.isLineBreak c = false)
include noSign oneLine

theorem comment_settings : settings (comment kind value) = [⟨kind, Text.strip value⟩] := by
  have plain : ∀ c ∈ (comment kind value).toList, Text.isLineBreak c = false := by
    have split : (comment kind value).toList = marker ++ kind.key.toList ++ ['='] ++ value.toList := by
      rw [to_list_comment]
      simp only [List.append_assoc, List.singleton_append]
    rw [split]
    exact List.forall_mem_append.mpr ⟨comment_plain kind, oneLine⟩
  have filled : (comment kind value).toList ≠ [] := by
    rw [to_list_comment]
    exact List.append_ne_nil_of_left_ne_nil marker_ne_nil _
  have read : setting? (comment kind value).toList = some ⟨kind, Text.strip value⟩ := by
    rw [setting_some_iff, to_list_comment]
    refine ⟨[], kind.key.toList, value.toList, Text.first_cut_here marker _, noSign, key_stripped kind, ?_⟩
    rw [Text.strip, String.toList_ofList]
    exact Text.stripped_trim value.toList
  rw [settings_eq, Text.split_lines_whole _ filled plain, List.filterMap_cons_some read, List.filterMap_nil]

theorem names_comment : names kind (comment kind value) = namesIn value := by
  rw [names_eq, comment_settings kind value noSign oneLine]
  simp

end Comment

theorem split_names_eq (value : String) : Settings.splitNames value = (namesIn value).filter (· ≠ "") := by
  simp [Settings.splitNames, Settings.trimNames, namesIn, Text.strip, Function.comp_def]

theorem name_ne_empty_iff (piece : List Char) : String.ofList (Text.trim piece) ≠ "" ↔ Text.allBlank piece = false := by
  rw [← Bool.not_eq_true, ← Text.trim_eq_nil_iff, ne_eq, ← String.toList_inj, String.toList_ofList]
  rfl

/-- The names of a comment are all the pieces of its value; a settings file leaves out those that are blank. -/
theorem comment_names_iff (kind : IgnoreKind) (value : String) (noSign : '=' ∉ value.toList)
    (oneLine : ∀ c ∈ value.toList, Text.isLineBreak c = false) :
    let inComment := names kind (comment kind value)
    ∃ inFile, Settings.readNames (.text value) = .ok (some inFile) ∧ Lists value inComment ∧
      inFile = inComment.filter (· ≠ "") ∧
      (inComment = inFile ↔ ∀ piece ∈ Text.splitOnChar ',' value.toList, Text.allBlank piece = false) := by
  intro inComment
  have all : inComment = namesIn value := names_comment kind value noSign oneLine
  have dropped : Settings.splitNames value = inComment.filter (· ≠ "") := by rw [all, split_names_eq]
  refine ⟨Settings.splitNames value, rfl, all ▸ lists_names_in value, dropped, ?_⟩
  rw [dropped, eq_comm, List.filter_eq_self, all, namesIn, List.forall_mem_map]
  refine forall_congr' fun piece => imp_congr_right fun _ => ?_
  rw [decide_eq_true_eq, name_ne_empty_iff]

/-- A comma at the end adds an empty name to the list of a comment, and nothing to that of a settings file. -/
theorem comment_names_trailing :
    names .directives (comment .directives "a,") ≠ ["a"] ∧ Settings.readNames (.text "a,") = .ok (some ["a"]) := by
  have listed : Settings.readNames (.text "a,") = .ok (some ["a"]) :=
    congrArg (fun names => Except.ok (some names)) (by decide +kernel : Settings.splitNames "a," = ["a"])
  obtain ⟨inFile, read, -, -, agree⟩ := comment_names_iff .directives "a," (by decide)
    ((Text.any_line_break_iff _).mp (by decide +kernel))
  cases listed.symm.trans read
  refine ⟨fun same => ?_, listed⟩
  exact absurd (agree.mp same [] (by decide +kernel)) (by decide)

end MarkupLint.Inline
