import MarkupLint.Check
import MarkupLint.Proofs.Masking

set_option autoImplicit false

namespace MarkupLint

open Text (CountsLines EndsLine StartsBelow)

namespace ProjectText

def AddedBelow (source full : String) : Prop := ∃ back, StartsBelow back ∧ full.toList = source.toList ++ back

theorem added_below_refl (source : String) : AddedBelow source source := ⟨[], .inl rfl, by simp⟩

theorem added_below_trans (source full more : String) (added : AddedBelow source full) (again : AddedBelow full more) :
    AddedBelow source more := by
  obtain ⟨back, below, split⟩ := added
  obtain ⟨further, furtherBelow, splitAgain⟩ := again
  refine ⟨back ++ further, Text.starts_below_append back further below furtherBelow, ?_⟩
  rw [splitAgain, split, List.append_assoc]

theorem added_below_feeds (source more : String) : AddedBelow source (source ++ "\n\n" ++ more) :=
  ⟨'\n' :: '\n' :: more.toList, .inr ⟨_, rfl⟩, by simp⟩

theorem define_added_below (source : String) (definition : String × String) :
    AddedBelow source (define source definition) := by
  rw [define]
  split
  · exact added_below_refl source
  · simpa only [String.append_assoc] using
      added_below_feeds source (definitionStart definition.1 ++ (" " ++ (definition.2 ++ "\n")))

theorem define_all_added_below (source : String) (definitions : List (String × String)) :
    AddedBelow source (definitions.foldl define source) := by
  induction definitions generalizing source with
  | nil => exact added_below_refl source
  | cons definition rest ih =>
      exact added_below_trans source _ _ (define_added_below source definition) (ih (define source definition))

theorem augment_added_below (project : ProjectText) (source : String) :
    AddedBelow (if project.prolog = "" then source else project.prolog ++ "\n\n" ++ source) (project.augment source) := by
  simp only [augment, String.isEmpty_iff]
  generalize (if project.prolog = "" then source else project.prolog ++ "\n\n" ++ source) = opened
  refine added_below_trans opened _ _ (define_all_added_below opened project.substitutions) ?_
  split
  · exact added_below_refl _
  · exact added_below_feeds _ project.epilog

end ProjectText

namespace Check

-- What stands in front of a document in the text that is read, and the document itself: the byte order mark
-- is dropped at the start of the whole text only.
def lead (project : ProjectText) : String := if project.prolog = "" then "" else readText (project.prolog ++ "\n\n")

def own (project : ProjectText) (source : String) : String := if project.prolog = "" then readText source else source

theorem to_list_read_text (source : String) : (readText source).toList = Text.dropByteOrderMark source.toList :=
  String.toList_ofList

theorem to_list_lead (project : ProjectText) (opened : project.prolog ≠ "") :
    (lead project).toList = Text.dropByteOrderMark project.prolog.toList ++ ['\n', '\n'] := by
  rw [lead, if_neg opened, to_list_read_text, String.toList_append,
    Text.drop_byte_order_mark_append project.prolog.toList "\n\n".toList (.inr ⟨['\n'], rfl⟩)]
  rfl

theorem ends_line_lead (project : ProjectText) : EndsLine (lead project).toList := by
  by_cases opened : project.prolog = ""
  · simp [lead, opened, EndsLine]
  · refine .inr ⟨Text.dropByteOrderMark project.prolog.toList ++ ['\n'], ?_⟩
    rw [to_list_lead project opened, List.append_assoc]
    rfl

theorem read_text_split (names : List String) (project : ProjectText) (source : String) :
    ∃ back, StartsBelow back ∧ (readText (fullText names project source)).toList
      = names.foldl Masking.maskName ((lead project).toList ++ ((own project source).toList ++ back)) := by
  obtain ⟨back, below, split⟩ := project.augment_added_below source
  refine ⟨back, below, ?_⟩
  have unmasked : Text.dropByteOrderMark (project.augment source).toList
      = (lead project).toList ++ ((own project source).toList ++ back) := by
    by_cases opened : project.prolog = ""
    · rw [split, if_pos opened, Text.drop_byte_order_mark_append _ back below, lead, if_pos opened, own, if_pos opened,
        to_list_read_text]
      rfl
    · rw [split, if_neg opened, to_list_lead project opened, own, if_neg opened, String.toList_append,
        String.toList_append, List.append_assoc, List.append_assoc, List.append_assoc]
      exact Text.drop_byte_order_mark_append project.prolog.toList ('\n' :: '\n' :: (source.toList ++ back))
        (.inr ⟨_, rfl⟩)
  rw [to_list_read_text, fullText, Masking.maskAll, String.toList_ofList, Masking.mask_names_mark, unmasked]

section Shift

variable (lines : List Char → List (List Char)) (counts : CountsLines lines)

def shift (project : ProjectText) : Nat := (lines (lead project).toList).length

include counts

theorem shift_none (project : ProjectText) (closed : project.prolog = "") : shift lines project = 0 := by
  simp [shift, lead, closed, counts.nil]

theorem shift_two (project : ProjectText) (opened : project.prolog ≠ "") : 2 ≤ shift lines project := by
  have split : lines (lead project).toList
      = lines (Text.dropByteOrderMark project.prolog.toList ++ ['\n']) ++ lines ['\n'] := by
    rw [to_list_lead project opened]
    exact counts.append _ ['\n']
  have above := List.length_pos_of_ne_nil
    (counts.filled (Text.dropByteOrderMark project.prolog.toList ++ ['\n']) (by simp))
  have last := List.length_pos_of_ne_nil (counts.filled ['\n'] (by simp))
  rw [shift, split, List.length_append]
  omega

theorem shift_masked (names : List String) (project : ProjectText) :
    shift lines project = (lines (Masking.maskAll names (lead project)).toList).length := by
  have look := congrArg List.length (Masking.mask_names_lines lines counts names (lead project).toList)
  rw [List.length_map, List.length_map] at look
  rw [shift, ← look, Masking.maskAll, String.toList_ofList]

theorem own_lines_look (names : List String) (project : ProjectText) (source : String) :
    (lines (own project source).toList).map (·.map Masking.withoutBars)
      <+: ((lines (readText (fullText names project source)).toList).drop (shift lines project)).map
        (·.map Masking.withoutBars) := by
  obtain ⟨back, below, split⟩ := read_text_split names project source
  obtain ⟨others, placed⟩ :=
    Text.lines_between lines counts _ (own project source).toList back (ends_line_lead project) below
  rw [List.map_drop, split, Masking.mask_names_lines lines counts, placed, ← List.map_drop, shift, List.drop_left,
    List.map_append]
  exact List.prefix_append _ _

variable (names : List String) (plain : ∀ name ∈ names, '\n' ∉ name.toList)
include plain

theorem read_lines_split (project : ProjectText) (source : String) :
    ∃ others, lines (readText (fullText names project source)).toList
      = lines (Masking.maskAll names (lead project)).toList
        ++ (lines (Masking.maskAll names (own project source)).toList ++ others) := by
  obtain ⟨back, below, split⟩ := read_text_split names project source
  have ends := ends_line_lead project
  rw [split, Masking.mask_names_between names plain _ _ _ ends below, Masking.maskAll, Masking.maskAll,
    String.toList_ofList, String.toList_ofList]
  exact Text.lines_between lines counts _ _ _ (Masking.mask_names_ends_line names plain _ ends)
    (Masking.mask_names_starts_below names plain back below)

theorem own_lines_shifted (project : ProjectText) (source : String) :
    lines (Masking.maskAll names (own project source)).toList
      <+: (lines (readText (fullText names project source)).toList).drop (shift lines project) := by
  obtain ⟨others, placed⟩ := read_lines_split lines counts names plain project source
  rw [placed, shift_masked lines counts names, List.drop_left]
  exact List.prefix_append _ _

theorem head_of_prolog (project : ProjectText) (opened : project.prolog ≠ "") (source : String) :
    (lines (readText (fullText names project source)).toList).head?
      = (lines (Masking.maskAll names (lead project)).toList).head? := by
  obtain ⟨others, placed⟩ := read_lines_split lines counts names plain project source
  have long := shift_two lines counts project opened
  rw [shift_masked lines counts names] at long
  rw [placed, List.head?_append_of_ne_nil _ (List.ne_nil_of_length_pos (by omega))]

theorem lines_in_place_iff (project : ProjectText) :
    (∀ source, lines (Masking.maskAll names (readText source)).toList
      <+: lines (readText (fullText names project source)).toList) ↔ project.prolog = "" := by
  constructor
  · intro inPlace
    by_contra opened
    have first : ∀ letter, Text.isBlank letter = false → letter ≠ '|' → letter ≠ '\uFEFF' →
        (lines (Masking.maskAll names (lead project)).toList).head? = some [letter] := by
      intro letter filled noBar noMark
      have alone : (Masking.maskAll names (readText (String.ofList [letter]))).toList = [letter] := by
        rw [Masking.maskAll, String.toList_ofList, to_list_read_text, String.toList_ofList,
          Text.drop_byte_order_mark_absent _ (by simpa using noMark), Masking.mask_names_cons names letter noBar,
          Masking.mask_names_nil]
      obtain ⟨others, found⟩ := inPlace (String.ofList [letter])
      rw [← head_of_prolog lines counts names plain project opened (String.ofList [letter]), ← found, alone,
        counts.single letter filled]
      rfl
    -- It cannot be both of two letters.
    have one := first 'a' (by decide) (by decide) (by decide)
    have two := first 'b' (by decide) (by decide) (by decide)
    simp [one] at two
  · intro closed source
    have moved := own_lines_shifted lines counts names plain project source
    rwa [shift_none lines counts project closed, List.drop_zero, own, if_pos closed] at moved

end Shift

theorem document_lines_numbered (origin : String) (text : List Char) (index : Nat) :
    (Markup.documentLines origin text)[index]?
      = (Markup.readableLines 8 text)[index]?.map fun line => .written ⟨some origin, some (index + 1)⟩ line := by
  rw [Markup.documentLines, Markup.placeLines, List.getElem?_map, List.getElem?_zipIdx, Option.map_map]
  simp [Function.comp_def, Nat.add_comm]

/-- The lines of a document stand in the text that is read below those of the prolog, however lines are counted, and
they are the masked lines of the document where no name has a line feed in it. So every line is read at its own number
only without a prolog; with one, the numbers are off by two or more. -/
theorem read_text_lines (names : List String) (project : ProjectText) :
    (∀ lines, lines = Text.splitLines ∨ lines = Markup.readableLines 8 →
      (project.prolog ≠ "" → 2 ≤ shift lines project) ∧
      (∀ source, (lines (own project source).toList).map (·.map Masking.withoutBars)
        <+: ((lines (readText (fullText names project source)).toList).drop (shift lines project)).map
          (·.map Masking.withoutBars)) ∧
      ((∀ name ∈ names, '\n' ∉ name.toList) →
        (∀ source, lines (Masking.maskAll names (own project source)).toList
          <+: (lines (readText (fullText names project source)).toList).drop (shift lines project)) ∧
        ((∀ source, lines (Masking.maskAll names (readText source)).toList
          <+: lines (readText (fullText names project source)).toList) ↔ project.prolog = ""))) ∧
    ((∀ name ∈ names, '\n' ∉ name.toList) → ∀ source origin index line,
      (Markup.readableLines 8 (Masking.maskAll names (own project source)).toList)[index]? = some line →
        (Markup.documentLines origin (readText (fullText names project source)).toList)[
            shift (Markup.readableLines 8) project + index]?
          = some (.written ⟨some origin, some (shift (Markup.readableLines 8) project + index + 1)⟩ line)) := by
  constructor
  · intro lines counted
    have counts : CountsLines lines := by
      rcases counted with rfl | rfl
      · exact Text.split_lines_counts
      · exact Text.readable_lines_counts 8
    refine ⟨shift_two lines counts project, own_lines_look lines counts names project, fun plain => ?_⟩
    exact ⟨own_lines_shifted lines counts names plain project, lines_in_place_iff lines counts names plain project⟩
  · intro plain source origin index line found
    obtain ⟨others, placed⟩ := own_lines_shifted _ (Text.readable_lines_counts 8) names plain project source
    obtain ⟨inside, -⟩ := List.getElem?_eq_some_iff.mp found
    have there : (Markup.readableLines 8 (readText (fullText names project source)).toList)[
        shift (Markup.readableLines 8) project + index]? = some line := by
      rw [← List.getElem?_drop, ← placed, List.getElem?_append_left inside, found]
    rw [document_lines_numbered, there]
    simp

/-- With a prolog of one line, the first line of a document is the third one that is read. -/
theorem read_text_lines_below_prolog :
    let project : ProjectText := { prolog := ".. |a| replace:: b" }
    let handed := readText (fullText ["n"] project "See |n|.")
    (∀ name ∈ ["n"], '\n' ∉ name.toList) ∧
      (Markup.documentLines "d" handed.toList)[2]? = some (.written ⟨some "d", some 3⟩ "See xnx.".toList) ∧
      ¬ ∀ source, Text.splitLines (Masking.maskAll ["n"] (readText source)).toList
        <+: Text.splitLines (readText (fullText ["n"] project source)).toList := by
  intro project handed
  have plain : ∀ name ∈ ["n"], '\n' ∉ name.toList := by decide
  obtain ⟨placed, numbered⟩ := read_text_lines ["n"] project
  obtain ⟨-, -, exactly⟩ := placed Text.splitLines (.inl rfl)
  have moved : shift (Markup.readableLines 8) project = 2 := by decide +kernel
  have third := numbered plain "See |n|." "d" 0 "See xnx.".toList (by decide +kernel)
  rw [moved] at third
  refine ⟨plain, third, fun inPlace => ?_⟩
  exact absurd ((exactly plain).2.mp inPlace) (by decide)

end Check

end MarkupLint
