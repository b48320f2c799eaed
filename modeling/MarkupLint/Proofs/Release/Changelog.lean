import MarkupLint.Proofs.Text.Lines
import MarkupLint.Proofs.Text.Pieces
import MarkupLint.Release.Changelog
import Mathlib.Data.List.Induction

set_option autoImplicit false

namespace MarkupLint.Changelog

def linesOf (text : String) : List String :=
  (Text.splitOnChar '\n' (Text.unifyLineEnds text.toList)).map String.ofList

def joined (lines : List String) : String := String.intercalate "\n" lines

def Single (text : String) : Prop := '\n' ∉ text.toList ∧ '\r' ∉ text.toList

theorem update_eq_joined (entry : Entry) (text : String) :
    update entry text = joined (updateLines entry (linesOf text)) := rfl

theorem lines_of_ne_nil (text : String) : linesOf text ≠ [] := by
  simpa [linesOf] using Text.split_on_char_ne_nil '\n' _

theorem lines_of_single (text line : String) (member : line ∈ linesOf text) : Single line := by
  obtain ⟨piece, held, rfl⟩ := List.mem_map.mp member
  rw [Single, String.toList_ofList]
  refine ⟨Text.split_on_char_absent '\n' _ piece held, fun carriage => ?_⟩
  exact Text.unify_line_ends_absent text.toList (Text.split_on_char_mem '\n' _ piece held '\r' carriage)

theorem to_list_joined (lines : List String) : (joined lines).toList = ['\n'].intercalate (lines.map String.toList) :=
  String.toList_intercalate

theorem joined_lines_of (text : String) (absent : '\r' ∉ text.toList) : joined (linesOf text) = text := by
  rw [← String.toList_inj, to_list_joined, linesOf, (Text.unify_line_ends_eq_self_iff _).mpr absent,
    Text.split_on_char_eq]
  simp [Function.comp_def]

theorem joined_absent (lines : List String) (single : ∀ line ∈ lines, Single line) : '\r' ∉ (joined lines).toList := by
  induction lines with
  | nil => simp [joined]
  | cons line rest ih =>
      rw [List.forall_mem_cons] at single
      by_cases alone : rest = []
      · simpa [alone, joined] using single.1.2
      · have behind := ih single.2
        rw [joined, String.intercalate_cons_of_ne_nil alone, ← joined]
        simp [single.1.2, behind]

theorem lines_of_joined (lines : List String) (filled : lines ≠ []) (single : ∀ line ∈ lines, Single line) :
    linesOf (joined lines) = lines := by
  rw [linesOf, (Text.unify_line_ends_eq_self_iff _).mpr (joined_absent lines single), joined,
    Text.split_on_char_joined '\n' "\n" rfl lines filled fun line held => (single line held).1]
  simp [Function.comp_def]

theorem heading_index_snoc (lines : List String) (line : String) :
    headingIndex (lines ++ [line]) = if isHeading line then lines.length else headingIndex lines := by
  rw [headingIndex, headingIndex, List.zipIdx_append, List.filter_append]
  by_cases held : isHeading line = true
  · simp [held]
  · simp [held]

structure HeadingCut (lines before : List String) (first : String) (below : List String) : Prop where
  split : lines = before ++ first :: below
  held : isHeading first = true
  last : ∀ line ∈ below, isHeading line = false

theorem heading_index_cut (lines before : List String) (first : String) (below : List String)
    (cut : HeadingCut lines before first below) : headingIndex lines = before.length := by
  obtain ⟨rfl, held, last⟩ := cut
  induction below using List.reverseRecOn with
  | nil => rw [heading_index_snoc, if_pos held]
  | append_singleton below final ih =>
      have finalNot : isHeading final = false := last final (by simp)
      rw [← List.cons_append, ← List.append_assoc, heading_index_snoc, finalNot]
      exact ih fun line member => last line (List.mem_append_left _ member)

theorem heading_index_none (lines : List String) (none : ∀ line ∈ lines, isHeading line = false) :
    headingIndex lines = 0 := by
  induction lines using List.reverseRecOn with
  | nil => rfl
  | append_singleton lines final ih =>
      rw [heading_index_snoc, none final (by simp)]
      exact ih fun line member => none line (List.mem_append_left _ member)

theorem heading_cut_unique (lines before others : List String) (first other : String) (below rest : List String)
    (cut : HeadingCut lines before first below) (again : HeadingCut lines others other rest) :
    before = others ∧ first = other ∧ below = rest := by
  have place := heading_index_cut lines before first below cut
  rw [heading_index_cut lines others other rest again] at place
  obtain ⟨front, back⟩ := List.append_inj (cut.split.symm.trans again.split) place.symm
  exact ⟨front, List.cons.inj back⟩

def leftBelow (below : List String) : List String := if 2 ≤ below.length then below.drop 2 else below

theorem update_lines_below (entry : Entry) (lines before : List String) (first : String) (below : List String)
    (cut : HeadingCut lines before first below) (inner : before ≠ []) :
    updateLines entry lines = before ++ entry.lines ++ leftBelow below := by
  have place : headingIndex lines ≠ 0 := by
    rw [heading_index_cut lines before first below cut]
    simpa using inner
  rw [updateLines, if_neg place, heading_index_cut lines before first below cut, cut.split]
  simp [leftBelow]

theorem update_lines_top (entry : Entry) (first : String) (below : List String)
    (top : headingIndex (first :: below) = 0) : updateLines entry (first :: below) = first :: leftBelow below := by
  simp [updateLines, top, leftBelow]

def Entry.unreleased (entry : Entry) : List String := [heading, "", diffLink (entry.version ++ "...main")]

def Entry.released (entry : Entry) : List String :=
  ["", "## [" ++ entry.version ++ " (" ++ entry.day ++ ")](" ++ homeAddress ++ "/releases/" ++ entry.version ++ ")",
    "", diffLink (entry.last ++ "..." ++ entry.version)]

theorem entry_lines_eq (entry : Entry) : entry.lines = entry.unreleased ++ entry.released := rfl

structure Entry.Plain (entry : Entry) : Prop where
  version : Single entry.version
  last : Single entry.last
  day : Single entry.day

@[simp]
theorem single_append_iff (first second : String) : Single (first ++ second) ↔ Single first ∧ Single second := by
  simp only [Single, String.toList_append, List.mem_append, not_or]
  exact and_and_and_comm

theorem entry_lines_single (entry : Entry) (plain : entry.Plain) : ∀ line ∈ entry.lines, Single line := by
  have literals : Single "" ∧ Single heading ∧ Single "[diff " ∧ Single "](" ∧ Single homeAddress ∧ Single "/compare/" ∧
      Single ")" ∧ Single "...main" ∧ Single "..." ∧ Single "## [" ∧ Single " (" ∧ Single ")](" ∧ Single "/releases/" := by
    simp [Single, heading, homeAddress]
  simp only [Entry.lines, diffLink, List.forall_mem_cons, single_append_iff, literals, plain.version, plain.last, plain.day,
    and_self, List.not_mem_nil, false_implies, implies_true]

theorem entry_lines_headings (entry : Entry) :
    isHeading heading = true ∧ ∀ line ∈ entry.lines.tail, isHeading line = false := by
  simp [Entry.lines, isHeading, heading, diffLink, Text.startsWith, Text.dropStart?]

structure Cut (text : String) (before : List String) (first gap link : String) (after : List String) : Prop where
  split : linesOf text = before ++ first :: gap :: link :: after
  inner : before ≠ []
  held : isHeading first = true
  above : ∀ line ∈ before, isHeading line = false
  below : ∀ line ∈ gap :: link :: after, isHeading line = false

def WellFormed (text : String) : Prop := ∃ before first gap link after, Cut text before first gap link after

theorem cut_single (text : String) (before : List String) (first gap link : String) (after : List String)
    (cut : Cut text before first gap link after) (line : String) (member : line ∈ before ++ after) : Single line := by
  apply lines_of_single text
  rw [cut.split]
  rcases List.mem_append.mp member with above | below
  · exact List.mem_append_left _ above
  · exact List.mem_append_right _ (by simp [below])

section Step

variable (entry : Entry) (text : String) (before : List String) (first gap link : String) (after : List String)
  (cut : Cut text before first gap link after)
include cut

theorem update_text : update entry text = joined (before ++ entry.lines ++ after) := by
  rw [update_eq_joined, update_lines_below entry _ before first _ ⟨cut.split, cut.held, cut.below⟩ cut.inner]
  rfl

theorem update_cut (plain : entry.Plain) :
    Cut (update entry text) before heading "" (diffLink (entry.version ++ "...main")) (entry.released ++ after) := by
  obtain ⟨isHeading, others⟩ := entry_lines_headings entry
  have single : ∀ line ∈ before ++ entry.lines ++ after, Single line := by
    intro line member
    rcases List.mem_append.mp member with front | below
    · rcases List.mem_append.mp front with above | own
      · exact cut_single text before first gap link after cut line (List.mem_append_left _ above)
      · exact entry_lines_single entry plain line own
    · exact cut_single text before first gap link after cut line (List.mem_append_right _ below)
  refine ⟨?_, cut.inner, isHeading, cut.above, ?_⟩
  · rw [update_text entry text before first gap link after cut, lines_of_joined _ (by simp [cut.inner]) single]
    simp [entry_lines_eq, Entry.unreleased]
  · intro line member
    change line ∈ entry.lines.tail ++ after at member
    rcases List.mem_append.mp member with own | behind
    · exact others line own
    · exact cut.below line (by simp [behind])

end Step

def releases (text : String) (entries : List Entry) : String :=
  entries.foldl (fun text entry => update entry text) text

theorem releases_snoc (text : String) (entries : List Entry) (entry : Entry) :
    releases text (entries ++ [entry]) = update entry (releases text entries) := by
  simp [releases]

def topLines (old : List String) (entries : List Entry) : List String :=
  (entries.getLast?.map Entry.unreleased).getD old

section Run

variable (text : String) (before : List String) (first gap link : String) (after : List String)
  (cut : Cut text before first gap link after)
include cut

theorem releases_cut (entries : List Entry) (plain : ∀ entry ∈ entries, entry.Plain) :
    ∃ top blank main, [top, blank, main] = topLines [first, gap, link] entries ∧
      Cut (releases text entries) before top blank main (entries.reverse.flatMap Entry.released ++ after) := by
  -- The newest release comes last, so the lines of all others are among those below the heading when it is made.
  induction entries using List.reverseRecOn with
  | nil => exact ⟨first, gap, link, rfl, cut⟩
  | append_singleton entries entry ih =>
      obtain ⟨top, blank, main, -, earlier⟩ := ih fun other member => plain other (List.mem_append_left _ member)
      have newest := update_cut entry _ before top blank main _ earlier (plain entry (by simp))
      refine ⟨heading, "", diffLink (entry.version ++ "...main"), by simp [topLines, Entry.unreleased], ?_⟩
      rw [releases_snoc]
      simpa using newest

theorem releases_text (entries : List Entry) (plain : ∀ entry ∈ entries, entry.Plain) (made : entries ≠ []) :
    releases text entries = joined
      (before ++ topLines [first, gap, link] entries ++ entries.reverse.flatMap Entry.released ++ after) := by
  cases entries using List.reverseRecOn with
  | nil => exact absurd rfl made
  | append_singleton entries entry =>
      obtain ⟨top, blank, main, -, earlier⟩ := releases_cut text before first gap link after cut entries
        fun other member => plain other (List.mem_append_left _ member)
      rw [releases_snoc, update_text entry _ before top blank main _ earlier]
      simp [topLines, entry_lines_eq]

end Run

/-- Any number of releases leave a changelog well formed: the lines above the heading and those behind the two lines
below it are kept in order, the three lines between them give way to the heading with a link from the newest version,
and the releases follow it, the newest first, each with a link from the release given as the one before. -/
theorem releases_keep (text : String) (formed : WellFormed text) :
    ∃ before first gap link after, Cut text before first gap link after ∧
      ∀ entries : List Entry, (∀ entry ∈ entries, entry.Plain) →
        let lines :=
          before ++ topLines [first, gap, link] entries ++ entries.reverse.flatMap Entry.released ++ after
        WellFormed (releases text entries) ∧ linesOf (releases text entries) = lines ∧
          (entries ≠ [] → releases text entries = joined lines) := by
  obtain ⟨before, first, gap, link, after, cut⟩ := formed
  refine ⟨before, first, gap, link, after, cut, fun entries plain => ?_⟩
  obtain ⟨top, blank, main, newest, left⟩ := releases_cut text before first gap link after cut entries plain
  refine ⟨⟨_, _, _, _, _, left⟩, ?_, releases_text text before first gap link after cut entries plain⟩
  rw [left.split, ← newest]
  simp

/-- Two releases of a changelog whose lines end in two ways. -/
theorem releases_keep_twice :
    let text := "# Changes\r\n\n## Unreleased\n\n[diff v1...main](x)\n\n- new"
    let entries : List Entry := [⟨"v2", "v1", "2024-06-01"⟩, ⟨"v3", "v2", "2024-06-02"⟩]
    WellFormed text ∧ (∀ entry ∈ entries, entry.Plain) ∧ WellFormed (releases text entries) ∧
      linesOf (releases text entries) = ["# Changes", "", "## Unreleased", "",
        "[diff v3...main](https://github.com/rstcheck/rstcheck-core/compare/v3...main)", "",
        "## [v3 (2024-06-02)](https://github.com/rstcheck/rstcheck-core/releases/v3)", "",
        "[diff v2...v3](https://github.com/rstcheck/rstcheck-core/compare/v2...v3)", "",
        "## [v2 (2024-06-01)](https://github.com/rstcheck/rstcheck-core/releases/v2)", "",
        "[diff v1...v2](https://github.com/rstcheck/rstcheck-core/compare/v1...v2)", "", "- new"] := by
  intro text entries
  have own : Cut text ["# Changes", ""] "## Unreleased" "" "[diff v1...main](x)" ["", "- new"] :=
    ⟨by decide +kernel, by decide, by decide, by decide, by decide⟩
  have formed : WellFormed text := ⟨_, _, _, _, _, own⟩
  have plain : ∀ entry ∈ entries, entry.Plain := by
    simp only [entries, List.forall_mem_cons]
    refine ⟨⟨?_, ?_, ?_⟩, ⟨?_, ?_, ?_⟩, by simp⟩ <;> simp [Single]
  obtain ⟨before, first, gap, link, after, cut, kept⟩ := releases_keep text formed
  obtain ⟨rfl, rfl, below⟩ := heading_cut_unique _ _ _ _ _ _ _ ⟨cut.split, cut.held, cut.below⟩
    ⟨own.split, own.held, own.below⟩
  obtain ⟨rfl, rfl, rfl⟩ : gap = "" ∧ link = "[diff v1...main](x)" ∧ after = ["", "- new"] := by simpa using below
  exact ⟨formed, plain, (kept entries plain).1, (kept entries plain).2.1.trans (by decide +kernel)⟩

def linkStart : String := "[diff "

def MayGo (gone : List String) : Prop :=
  ∃ gap link : String, Text.allBlank gap.toList = true ∧ linkStart.toList <+: link.toList ∧ gone <+: [gap, link]

-- A release that has lost nothing: the lines are as they were, or those of the release stand in the place of the last
-- heading and of what may go below it.
def Kept (entry : Entry) (lines updated : List String) : Prop :=
  updated = lines ∨ ∃ before first gone after, HeadingCut lines before first (gone ++ after) ∧ MayGo gone ∧
    updated = before ++ entry.lines ++ after

theorem may_go_nil : MayGo [] := ⟨"", linkStart, by decide, List.prefix_rfl, List.nil_prefix⟩

theorem may_go_two_iff (gap link : String) :
    MayGo [gap, link] ↔ Text.allBlank gap.toList = true ∧ linkStart.toList <+: link.toList := by
  constructor
  · rintro ⟨blank, start, isBlank, starts, within⟩
    obtain ⟨rfl, rfl⟩ : gap = blank ∧ link = start := by simpa using within
    exact ⟨isBlank, starts⟩
  · rintro ⟨isBlank, starts⟩
    exact ⟨gap, link, isBlank, starts, List.prefix_rfl⟩

theorem kept_length (entry : Entry) (lines updated : List String) (kept : Kept entry lines updated) :
    updated = lines ∨ lines.length + 4 ≤ updated.length := by
  rcases kept with same | ⟨before, first, gone, after, cut, ⟨gap, link, -, -, within⟩, rfl⟩
  · exact .inl same
  · have few : gone.length ≤ 2 := within.length_le
    have lines : entry.lines.length = 7 := rfl
    refine .inr ?_
    rw [cut.split]
    simp only [List.length_append, List.length_cons, lines]
    omega

theorem left_below_length (below : List String) (long : 2 ≤ below.length) :
    (leftBelow below).length + 2 = below.length := by
  rw [leftBelow, if_pos long, List.length_drop]
  omega

theorem kept_top_iff (entry : Entry) (first : String) (below : List String)
    (top : headingIndex (first :: below) = 0) :
    Kept entry (first :: below) (updateLines entry (first :: below)) ↔ below.length < 2 := by
  rw [update_lines_top entry first below top]
  constructor
  · intro kept
    by_contra long
    have fewer := left_below_length below (Nat.le_of_not_lt long)
    rcases kept_length entry _ _ kept with same | more
    · have lengths := congrArg List.length same
      simp only [List.length_cons] at lengths
      omega
    · simp only [List.length_cons] at more
      omega
  · intro short
    exact .inl (by rw [leftBelow, if_neg (Nat.not_le_of_lt short)])

theorem kept_below_iff (entry : Entry) (lines before : List String) (first : String) (below : List String)
    (cut : HeadingCut lines before first below) (inner : before ≠ []) :
    Kept entry lines (updateLines entry lines) ↔ below.length < 2 ∨ ∃ gap link after, below = gap :: link :: after ∧
      Text.allBlank gap.toList = true ∧ linkStart.toList <+: link.toList := by
  rw [update_lines_below entry lines before first below cut inner]
  constructor
  · intro kept
    refine or_iff_not_imp_left.mpr fun long => ?_
    have fewer := left_below_length below (Nat.le_of_not_lt long)
    rcases kept with same | ⟨others, other, gone, after, again, may, updated⟩
    · have lengths := congrArg List.length same
      have own : entry.lines.length = 7 := rfl
      rw [cut.split] at lengths
      simp only [List.length_append, List.length_cons, own] at lengths
      omega
    · obtain ⟨rfl, -, rfl⟩ := heading_cut_unique lines before others first other below _ cut again
      have left : leftBelow (gone ++ after) = after := List.append_cancel_left updated
      rw [left, List.length_append] at fewer
      obtain ⟨gap, link, rfl⟩ := List.length_eq_two.mp (show gone.length = 2 by omega)
      exact ⟨gap, link, after, rfl, (may_go_two_iff gap link).mp may⟩
  · rintro (short | ⟨gap, link, after, rfl, blank, starts⟩)
    · refine .inr ⟨before, first, [], below, cut, may_go_nil, ?_⟩
      rw [leftBelow, if_neg (Nat.not_le_of_lt short)]
    · exact .inr ⟨before, first, [gap, link], after, cut, (may_go_two_iff gap link).mpr ⟨blank, starts⟩, rfl⟩

theorem update_eq_self_iff (entry : Entry) (text : String) (none : ∀ line ∈ linesOf text, isHeading line = false) :
    update entry text = text ↔ (linesOf text).length ≤ 2 ∧ '\r' ∉ text.toList := by
  obtain ⟨first, below, split⟩ := List.exists_cons_of_ne_nil (lines_of_ne_nil text)
  have lines : updateLines entry (linesOf text) = first :: leftBelow below := by
    rw [split]
    exact update_lines_top entry first below (heading_index_none _ (split ▸ none))
  have left : ∀ line ∈ first :: leftBelow below, Single line := by
    intro line member
    apply lines_of_single text
    rw [split]
    refine (List.cons_subset_cons first ?_) member
    rw [leftBelow]
    split
    · exact List.drop_subset 2 below
    · exact List.Subset.refl below
  rw [update_eq_joined, lines]
  constructor
  · intro same
    have absent := joined_absent _ left
    have kept := lines_of_joined _ (List.cons_ne_nil _ _) left
    rw [same] at absent kept
    refine ⟨?_, absent⟩
    by_contra long
    have fewer := left_below_length below (by simp [split] at long; omega)
    rw [split] at kept
    have lengths := congrArg List.length kept
    simp only [List.length_cons] at lengths
    omega
  · rintro ⟨short, absent⟩
    have whole : leftBelow below = below := if_neg (by simp [split] at short; omega)
    rw [whole, ← split]
    exact joined_lines_of text absent

/-- A release loses no line of a changelog exactly if fewer than two lines stand below the last heading, or it is
below the first line and directly followed by a blank line and a link. Without a heading it loses none exactly if
there are two lines at most; only then, and with line feeds as ends of lines, the text is left as it was. -/
theorem update_keeps_iff (entry : Entry) (text : String) :
    let lines := linesOf text
    let updated := updateLines entry lines
    update entry text = joined updated ∧
    ((∀ line ∈ lines, isHeading line = false) →
      (Kept entry lines updated ↔ lines.length ≤ 2) ∧
      (update entry text = text ↔ lines.length ≤ 2 ∧ '\r' ∉ text.toList)) ∧
    ∀ before first below, HeadingCut lines before first below →
      (Kept entry lines updated ↔ below.length < 2 ∨ before ≠ [] ∧ ∃ gap link after, below = gap :: link :: after ∧
        Text.allBlank gap.toList = true ∧ linkStart.toList <+: link.toList) := by
  intro lines updated
  refine ⟨rfl, fun none => ⟨?_, update_eq_self_iff entry text none⟩, fun before first below cut => ?_⟩
  · obtain ⟨first, below, split⟩ := List.exists_cons_of_ne_nil (lines_of_ne_nil text)
    have top := kept_top_iff entry first below (split ▸ heading_index_none _ none)
    rw [← split] at top
    refine top.trans ?_
    rw [show lines = first :: below from split, List.length_cons]
    omega
  · cases before with
    | nil =>
        have whole : lines = first :: below := cut.split
        have top := kept_top_iff entry first below (whole ▸ heading_index_cut lines [] first below cut)
        rw [← whole] at top
        simpa using top
    | cons line before => simpa using kept_below_iff entry lines (line :: before) first below cut (List.cons_ne_nil _ _)

/-- Without a heading the second and the third line are lost, and the changes right below a heading are lost with it.
-/
theorem update_keeps_untitled :
    let entry : Entry := ⟨"v2", "v1", "2024-06-01"⟩
    let untitled := "# Changes\n\n- one\n- two"
    let crowded := "# Changes\n## Unreleased\n- one\n- two"
    ¬ Kept entry (linesOf untitled) (updateLines entry (linesOf untitled)) ∧ update entry untitled = "# Changes\n- two" ∧
      ¬ Kept entry (linesOf crowded) (updateLines entry (linesOf crowded)) := by
  intro entry untitled crowded
  obtain ⟨-, without, -⟩ := update_keeps_iff entry untitled
  obtain ⟨-, -, below⟩ := update_keeps_iff entry crowded
  have cut : HeadingCut (linesOf crowded) ["# Changes"] "## Unreleased" ["- one", "- two"] :=
    ⟨by decide +kernel, by decide, by decide⟩
  refine ⟨fun kept => ?_, by decide +kernel, fun kept => ?_⟩
  · have short := (without (by decide +kernel)).1.mp kept
    exact absurd short (by decide +kernel)
  · rcases (below _ _ _ cut).mp kept with short | ⟨-, gap, link, after, split, blank, -⟩
    · exact absurd short (by decide)
    · cases split
      exact absurd blank (by decide)

end MarkupLint.Changelog
