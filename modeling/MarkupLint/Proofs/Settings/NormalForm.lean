import MarkupLint.Proofs.Inline
import MarkupLint.Proofs.Settings.Override
import MarkupLint.Proofs.Text.Number

set_option autoImplicit false

namespace MarkupLint

theorem Text.fold_char_digit (c : Char) (ascii : isAsciiDigit c = true) : foldChar c = [c] := by
  simp only [isAsciiDigit, Bool.and_eq_true, decide_eq_true_eq] at ascii
  have upper : c.toNat ≤ 0x39 := ascii.2
  have small : c.toLower = c := dif_neg fun capital => by
    have lower : 0x41 ≤ c.toNat := capital.1
    omega
  rw [foldChar, if_pos (by omega), small]

namespace Settings

structure IsName (name : String) : Prop where
  filled : name ≠ ""
  head : ∀ c, name.toList.head? = some c → Text.isBlank c = false
  last : ∀ c, name.toList.getLast? = some c → Text.isBlank c = false

theorem trim_names_names (pieces : List String) : ∀ name ∈ trimNames pieces, IsName name := by
  intro name member
  obtain ⟨stripped, filled⟩ := trim_names_trimmed pieces name member
  rw [Text.strip, ← String.toList_inj, String.toList_ofList, Text.trim_eq_iff] at stripped
  exact ⟨filled, stripped.head, stripped.last⟩

theorem read_names_texts (pieces : List String) : readNames (namesValue pieces) = .ok (some (trimNames pieces)) := by
  simp [namesValue, readNames]

theorem read_names_trimmed (value : SettingValue) (names : List String) (reads : readNames value = .ok (some names)) :
    trimNames names = names := Option.some.inj (read_names_normal value (some names) reads)

theorem split_names_joined (pieces : List String) (apart : ∀ piece ∈ pieces, ',' ∉ piece.toList) :
    splitNames (String.intercalate "," pieces) = trimNames pieces := by
  by_cases none : pieces = []
  · subst none
    decide +kernel
  · rw [splitNames, Text.split_on_char_joined ',' "," rfl pieces none apart]
    simp [Function.comp_def]

def Gives (piece name : String) : Prop := Text.Stripped piece.toList name.toList ∧ name ≠ ""

theorem trim_names_gathered (pieces : List String) : Inline.Gathered Gives pieces (trimNames pieces) := by
  have reads : ∀ piece name, (if Text.strip piece = "" then none else some (Text.strip piece)) = some name ↔
      Gives piece name := by
    intro piece name
    rw [Gives, ← Text.trim_eq_iff, ← String.ofList_inj, String.ofList_toList]
    change _ ↔ Text.strip piece = name ∧ _
    grind
  rw [Inline.gathered_iff _ Gives reads, trimNames, ← List.filterMap_eq_filter, List.filterMap_map]
  refine List.filterMap_congr fun piece _ => ?_
  by_cases empty : Text.strip piece = "" <;> simp [empty, Option.guard]

end Settings

namespace ReportLevel

theorem of_rank_iff (rank : Int) (level : ReportLevel) : ofRank? rank = some level ↔ (level.rank : Int) = rank := by
  constructor
  · intro found
    simpa using List.find?_some found
  · rintro rfl
    exact Settings.level_of_rank level

def outcome (found : Option ReportLevel) : Except SettingError (Option ReportLevel) :=
  found.elim (.error .invalidLevel) fun level => .ok (some level)

theorem read_whole (rank : Int) : read (.whole rank) = outcome (ofRank? rank) := by
  rw [read]
  cases ofRank? rank <;> rfl

theorem read_text (text : String) (filled : text ≠ "") : read (.text text) = outcome (ofText? text) := by
  rw [read]
  · cases ofText? text <;> rfl
  · exact filled

theorem name_head (level : ReportLevel) (c : Char) (head : (Text.caseFold level.name.toList).head? = some c) :
    c ≠ '-' ∧ Text.isAsciiDigit c = false := by
  cases level <;> cases head <;> decide

@[simp]
theorem of_name_written (rank : Int) : ofName? (toString rank) = .none := by
  obtain ⟨c, head, written⟩ := Text.to_string_head rank
  obtain ⟨rest, spelled⟩ := List.head?_eq_some_iff.mp head
  have folded : Text.foldChar c = [c] := by
    rcases written with rfl | digit
    · decide
    · exact Text.fold_char_digit c digit
  rw [ofName?, List.find?_eq_none]
  intro level _ same
  rw [decide_eq_true_eq, Text.toFolded, Text.toFolded, String.ofList_inj, spelled] at same
  have first : (Text.caseFold level.name.toList).head? = some c := by
    rw [same, Text.caseFold, List.flatMap_cons, folded]
    rfl
  obtain ⟨noSign, noDigit⟩ := name_head level c first
  rcases written with sign | digit
  · exact noSign sign
  · simp [digit] at noDigit

@[simp]
theorem of_text_written (rank : Int) : ofText? (toString rank) = ofRank? rank := by
  rw [ofText?, of_name_written, Text.read_integer_written]
  by_cases long : Text.maxDigits < (Nat.toDigits 10 rank.natAbs).length
  · rw [if_pos long]
    have large := Text.written_short rank.natAbs (by rw [Text.maxDigits] at long; omega)
    symm
    rw [Option.eq_none_iff_forall_ne_some]
    intro level found
    have held := (of_rank_iff rank level).mp found
    have small : level.rank ≤ 5 := by cases level <;> decide
    omega
  · rw [if_neg long]

theorem read_written (rank : Int) : read (.text (toString rank)) = read (.whole rank) := by
  have filled : toString rank ≠ "" := by
    intro empty
    obtain ⟨c, head, -⟩ := Text.to_string_head rank
    simp [empty] at head
  rw [read_text _ filled, of_text_written, read_whole]

theorem read_whole_cases (rank : Int) :
    (∃ level : ReportLevel, (level.rank : Int) = rank ∧ read (.whole rank) = .ok (some level)) ∨
      (∀ level : ReportLevel, (level.rank : Int) ≠ rank) ∧ read (.whole rank) = .error .invalidLevel := by
  rw [read_whole]
  cases found : ofRank? rank with
  | some level => exact .inl ⟨level, (of_rank_iff rank level).mp found, rfl⟩
  | none =>
      refine .inr ⟨fun level held => ?_, rfl⟩
      rw [(of_rank_iff rank level).mpr held] at found
      cases found

end ReportLevel

namespace Settings

/-- Names that have been read are in normal form, and are read from it again as they are. Names without commas are
read alike from a list and from one text, one name for each piece that has one. A rank is read alike as a number and
in its digits, and a level that has been read is read as itself. -/
theorem read_normal_form :
    (∀ value names, readNames value = .ok (some names) →
      (∀ name ∈ names, IsName name) ∧ readNames (.list (names.map .text)) = .ok (some names)) ∧
    (∀ pieces : List String, (∀ piece ∈ pieces, ',' ∉ piece.toList) →
      ∃ names, readNames (.text (String.intercalate "," pieces)) = .ok (some names) ∧
        readNames (.list (pieces.map .text)) = .ok (some names) ∧ Inline.Gathered Gives pieces names) ∧
    (∀ rank : Int,
      (∃ level : ReportLevel, level.rank = rank ∧ ReportLevel.read (.whole rank) = .ok (some level) ∧
        ReportLevel.read (.text (toString rank)) = .ok (some level)) ∨
      (∀ level : ReportLevel, (level.rank : Int) ≠ rank) ∧ ReportLevel.read (.whole rank) = .error .invalidLevel ∧
        ReportLevel.read (.text (toString rank)) = .error .invalidLevel) ∧
    ∀ value level, ReportLevel.read value = .ok (some level) → ReportLevel.read (.level level) = .ok (some level) := by
  refine ⟨fun value names reads => ?_, fun pieces apart => ?_, fun rank => ?_, fun _ _ _ => rfl⟩
  · have trimmed := read_names_trimmed value names reads
    refine ⟨fun name member => trim_names_names names name (by rwa [trimmed]), ?_⟩
    exact (read_names_texts names).trans (by rw [trimmed])
  · refine ⟨trimNames pieces, ?_, read_names_texts pieces, trim_names_gathered pieces⟩
    rw [readNames, split_names_joined pieces apart]
  · rw [ReportLevel.read_written]
    rcases ReportLevel.read_whole_cases rank with ⟨level, held, reads⟩ | ⟨absent, reads⟩
    · exact .inl ⟨level, held, reads, reads⟩
    · exact .inr ⟨absent, reads, reads⟩

/-- A list with white space around its names and an empty place, and a rank that is named by its digits. -/
theorem read_normal_form_spaced :
    (∀ piece ∈ ["a ", "", " b c"], ',' ∉ piece.toList) ∧
      readNames (.text "a ,, b c") = .ok (some ["a", "b c"]) ∧ IsName "b c" ∧
      readNames (.list [.text "a", .text "b c"]) = .ok (some ["a", "b c"]) ∧
      ReportLevel.read (.text "3") = .ok (some .error) ∧ ReportLevel.read (.level .error) = .ok (some .error) := by
  obtain ⟨normal, joined, levels, identity⟩ := read_normal_form
  have apart : ∀ piece ∈ ["a ", "", " b c"], ',' ∉ piece.toList := by decide
  have listed : readNames (.text "a ,, b c") = .ok (some ["a", "b c"]) :=
    congrArg (fun names => Except.ok (some names)) (by decide +kernel : splitNames "a ,, b c" = ["a", "b c"])
  obtain ⟨names, again⟩ := normal _ _ listed
  have level : ReportLevel.read (.text "3") = .ok (some .error) := by
    rcases levels 3 with ⟨level, held, -, digits⟩ | ⟨absent, -⟩
    · have same : level = .error := by
        revert held
        cases level <;> decide
      rw [← same]
      exact digits
    · exact absurd rfl (absent .error)
  exact ⟨apart, listed, names "b c" (by decide), again, level, identity _ _ level⟩

end Settings

end MarkupLint
