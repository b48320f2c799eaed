import MarkupLint.Proofs.Check.LineNumbers

set_option autoImplicit false

namespace MarkupLint.Text

-- The number of the line that a character stands on. A line break stands on the line that it ends.
def lineOf (text : List Char) (index : Nat) : Nat := (splitLines (text.take (index + 1))).length

theorem length_on_first_line (c : Char) (lines : List (List Char)) (filled : lines ≠ []) :
    (onFirstLine c lines).length = lines.length := by
  obtain ⟨line, rest, rfl⟩ := List.exists_cons_of_ne_nil filled
  rfl

theorem split_lines_through (before : List Char) (c : Char) (after : List Char) (plain : isLineBreak c = false) :
    ∃ above row more others, splitLines (before ++ [c]) = above ++ [row ++ [c]] ∧
      splitLines (before ++ c :: after) = above ++ (row ++ c :: more) :: others := by
  have noFeed : c ≠ '\n' := by
    rintro rfl
    simp [isLineBreak] at plain
  fun_induction splitLines before with
  | case1 =>
      rw [List.nil_append, List.nil_append, split_lines_plain c [] plain, split_lines_plain c after plain]
      cases splitLines after with
      | nil => exact ⟨[], [], [], [], rfl, rfl⟩
      | cons more others => exact ⟨[], [], more, others, rfl, rfl⟩
  | case2 rest ih =>
      obtain ⟨above, row, more, others, short, whole⟩ := ih
      refine ⟨[] :: above, row, more, others, ?_, ?_⟩
      · rw [List.cons_append, List.cons_append, splitLines, short, List.cons_append]
      · rw [List.cons_append, List.cons_append, splitLines, whole, List.cons_append]
  | case3 d rest single lineBreak ih =>
      obtain ⟨above, row, more, others, short, whole⟩ := ih
      have alone : ∀ behind, d = '\r' → (rest ++ c :: behind).head? ≠ some '\n' := by
        intro behind carriage
        cases rest with
        | nil => simpa using noFeed
        | cons e later =>
            intro feed
            exact single later carriage (congrArg (· :: later) (Option.some.inj feed))
      refine ⟨[] :: above, row, more, others, ?_, ?_⟩
      · rw [List.cons_append, split_lines_cons d _ (alone []), if_pos lineBreak, short, List.cons_append]
      · rw [List.cons_append, split_lines_cons d _ (alone after), if_pos lineBreak, whole, List.cons_append]
  | case4 d rest single inner ih =>
      obtain ⟨above, row, more, others, short, whole⟩ := ih
      have noBreak : isLineBreak d = false := Bool.eq_false_iff.mpr inner
      rw [List.cons_append, List.cons_append, split_lines_plain d _ noBreak, split_lines_plain d _ noBreak, short, whole]
      cases above with
      | nil => exact ⟨[], d :: row, more, others, rfl, rfl⟩
      | cons first above => exact ⟨(d :: first) :: above, row, more, others, rfl, rfl⟩

theorem line_of_shown (text : List Char) (index : Nat) (c : Char) (held : text[index]? = some c)
    (plain : isLineBreak c = false) :
    ∃ line, (splitLines text)[lineOf text index - 1]? = some line ∧ c ∈ line := by
  obtain ⟨inside, same⟩ := List.getElem?_eq_some_iff.mp held
  have split : text = text.take index ++ c :: text.drop (index + 1) := by
    rw [← same, List.getElem_cons_drop, List.take_append_drop]
  obtain ⟨above, row, more, others, short, whole⟩ :=
    split_lines_through (text.take index) c (text.drop (index + 1)) plain
  have number : lineOf text index - 1 = above.length := by
    rw [lineOf, ← List.take_append_getElem inside, same, short]
    simp
  refine ⟨row ++ c :: more, ?_, by simp⟩
  rw [number, split, whole, List.getElem?_append_right (Nat.le_refl _), Nat.sub_self]
  rfl

theorem line_of_pos (text : List Char) (index : Nat) (inside : index < text.length) : 1 ≤ lineOf text index := by
  have filled : text.take (index + 1) ≠ [] := List.ne_nil_of_length_pos (by rw [List.length_take]; omega)
  exact List.length_pos_of_ne_nil (split_lines_ne_nil _ filled)

theorem mem_trim_right (text : List Char) (c : Char) (member : c ∈ text) (filled : isBlank c = false) :
    c ∈ trimRight text := by
  have parts : c ∈ text.reverse.takeWhile isBlank ++ text.reverse.dropWhile isBlank := by
    rw [List.takeWhile_append_dropWhile]
    exact List.mem_reverse.mpr member
  rcases List.mem_append.mp parts with blank | kept
  · simp [List.mem_takeWhile_imp blank] at filled
  · exact List.mem_reverse.mpr kept

theorem drop_byte_order_mark_cases (text : List Char) :
    dropByteOrderMark text = text ∧ text ≠ ['\uFEFF'] ∨ text = '\uFEFF' :: dropByteOrderMark text := by
  fun_cases dropByteOrderMark text with
  | case1 rest => exact .inr rfl
  | case2 _ unmarked => exact .inl ⟨rfl, fun alone => unmarked [] alone⟩

theorem length_split_lines_mark (rest : List Char) (filled : rest ≠ []) :
    (splitLines ('\uFEFF' :: rest)).length = (splitLines rest).length := by
  rw [split_lines_plain '\uFEFF' rest (by decide), length_on_first_line _ _ (split_lines_ne_nil rest filled)]

-- A mark in front of a text stands on its first line, so it makes a line of its own only where nothing follows.
theorem length_split_lines_marked (text : List Char) :
    (splitLines text).length
      = (splitLines (dropByteOrderMark text)).length + if text = ['\uFEFF'] then 1 else 0 := by
  rcases drop_byte_order_mark_cases text with ⟨same, other⟩ | marked
  · rw [same, if_neg other, Nat.add_zero]
  · generalize dropByteOrderMark text = rest at marked
    subst marked
    by_cases alone : rest = []
    · subst alone
      rfl
    · rw [length_split_lines_mark rest alone, if_neg (by simpa using alone), Nat.add_zero]

theorem line_of_marked (text : List Char) (index : Nat) (inside : index < (dropByteOrderMark text).length) :
    lineOf text (text.length - (dropByteOrderMark text).length + index) = lineOf (dropByteOrderMark text) index := by
  rcases drop_byte_order_mark_cases text with ⟨same, -⟩ | marked
  · rw [same, Nat.sub_self, Nat.zero_add]
  · generalize dropByteOrderMark text = rest at marked inside
    subst marked
    have place : ('\uFEFF' :: rest).length - rest.length + index + 1 = index + 1 + 1 := by
      rw [List.length_cons]
      omega
    have filled : rest.take (index + 1) ≠ [] := List.ne_nil_of_length_pos (by rw [List.length_take]; omega)
    rw [lineOf, place, List.take_succ_cons, length_split_lines_mark _ filled, lineOf]

theorem get_marked (text : List Char) (index : Nat) :
    text[text.length - (dropByteOrderMark text).length + index]? = (dropByteOrderMark text)[index]? := by
  rcases drop_byte_order_mark_cases text with ⟨same, -⟩ | marked
  · rw [same, Nat.sub_self, Nat.zero_add]
  · generalize dropByteOrderMark text = rest at marked
    subst marked
    have place : ('\uFEFF' :: rest).length - rest.length + index = index + 1 := by
      rw [List.length_cons]
      omega
    rw [place, List.getElem?_cons_succ]

end MarkupLint.Text

namespace MarkupLint.Markup

open Text (splitLines isLineBreak lineOf)

def isSoftBreak (c : Char) : Bool := c.toNat = 0x0b || c.toNat = 0x0c

theorem soft_is_line_break (c : Char) (soft : isSoftBreak c = true) : isLineBreak c = true := by
  simp only [isSoftBreak, isLineBreak, Bool.or_eq_true, Bool.and_eq_true, decide_eq_true_eq] at *
  omega

theorem soften_breaks_soft (c : Char) (rest : List Char) (soft : isSoftBreak c = true) :
    softenBreaks (c :: rest) = ' ' :: softenBreaks rest := by
  rw [softenBreaks, List.map_cons]
  exact congrArg (· :: _) (if_pos soft)

theorem soften_breaks_hard (c : Char) (rest : List Char) (hard : isSoftBreak c = false) :
    softenBreaks (c :: rest) = c :: softenBreaks rest := by
  rw [softenBreaks, List.map_cons]
  exact congrArg (· :: _) (if_neg (Bool.eq_false_iff.mp hard))

theorem soften_breaks_ne_nil (text : List Char) (filled : text ≠ []) : softenBreaks text ≠ [] := by
  simpa [softenBreaks] using filled

theorem soften_breaks_feed_first (text : List Char) (feed : (softenBreaks text).head? = some '\n') :
    text.head? = some '\n' := by
  cases text with
  | nil => cases feed
  | cons c rest =>
      by_cases soft : isSoftBreak c = true
      · rw [soften_breaks_soft c rest soft] at feed
        simp at feed
      · rwa [soften_breaks_hard c rest (Bool.eq_false_iff.mpr soft)] at feed

theorem count_drop_last_cons (c : Char) (rest : List Char) (filled : rest ≠ []) :
    (c :: rest).dropLast.countP isSoftBreak
      = rest.dropLast.countP isSoftBreak + if isSoftBreak c = true then 1 else 0 := by
  rw [List.dropLast_cons_of_ne_nil filled, List.countP_cons]

-- Each soft break ends a line more, but not at the very end: there a line ends anyway.
theorem length_split_lines_softened (text : List Char) :
    (splitLines text).length
      = (splitLines (softenBreaks text)).length + text.dropLast.countP isSoftBreak := by
  fun_induction splitLines text with
  | case1 => rfl
  | case2 rest ih =>
      rw [soften_breaks_hard '\r' _ (by decide), soften_breaks_hard '\n' _ (by decide), splitLines, List.length_cons,
        List.length_cons, ih]
      by_cases ends : rest = []
      · subst ends
        rfl
      · rw [count_drop_last_cons '\r' _ (by simp), count_drop_last_cons '\n' rest ends, if_neg (by decide),
          if_neg (by decide)]
        omega
  | case3 c rest single lineBreak ih =>
      by_cases soft : isSoftBreak c = true
      · rw [soften_breaks_soft c rest soft, Text.split_lines_plain ' ' _ (by decide), List.length_cons, ih]
        by_cases ends : rest = []
        · subst ends
          rfl
        · rw [Text.length_on_first_line _ _ (Text.split_lines_ne_nil _ (soften_breaks_ne_nil rest ends)),
            count_drop_last_cons c rest ends, if_pos soft]
          omega
      · have alone : c = '\r' → (softenBreaks rest).head? ≠ some '\n' := by
          intro carriage feed
          obtain ⟨later, rfl⟩ := List.head?_eq_some_iff.mp (soften_breaks_feed_first rest feed)
          exact single later carriage rfl
        rw [soften_breaks_hard c rest (Bool.eq_false_iff.mpr soft), Text.split_lines_cons c _ alone, if_pos lineBreak,
          List.length_cons, List.length_cons, ih]
        by_cases ends : rest = []
        · subst ends
          rfl
        · rw [count_drop_last_cons c rest ends, if_neg soft]
          omega
  | case4 c rest single plain ih =>
      have noBreak : isLineBreak c = false := Bool.eq_false_iff.mpr plain
      have hard : isSoftBreak c = false := Bool.eq_false_iff.mpr fun soft => plain (soft_is_line_break c soft)
      rw [soften_breaks_hard c rest hard, Text.split_lines_plain c _ noBreak]
      by_cases ends : rest = []
      · subst ends
        rfl
      · rw [Text.length_on_first_line _ _ (Text.split_lines_ne_nil _ ends),
          Text.length_on_first_line _ _ (Text.split_lines_ne_nil _ (soften_breaks_ne_nil rest ends)), ih,
          count_drop_last_cons c rest ends, if_neg (by simp [hard])]
        rfl

theorem line_of_softened (text : List Char) (index : Nat) (inside : index < text.length) :
    lineOf text index = lineOf (softenBreaks text) index + (text.take index).countP isSoftBreak := by
  have before : (text.take (index + 1)).dropLast = text.take index := by
    rw [List.dropLast_eq_take, List.length_take, List.take_take]
    congr 1
    omega
  have softened : softenBreaks (text.take (index + 1)) = (softenBreaks text).take (index + 1) := by
    rw [softenBreaks, softenBreaks, List.map_take]
  rw [lineOf, length_split_lines_softened, before, softened, lineOf]

theorem length_document_lines (origin : String) (text : List Char) :
    (documentLines origin text).length = (splitLines (softenBreaks text)).length := by
  simp [documentLines, placeLines, readableLines]

theorem mem_expand_tabs (width column : Nat) (text : List Char) (c : Char) (member : c ∈ text) (noTab : c ≠ '\t') :
    c ∈ expandTabs width column text := by
  induction text generalizing column with
  | nil => cases member
  | cons d rest ih =>
      rw [expandTabs]
      rcases List.mem_cons.mp member with rfl | later
      · rw [if_neg noTab]
        exact List.mem_cons_self
      · split
        · split
          · exact ih column later
          · exact List.mem_append_right _ (ih _ later)
        · exact List.mem_cons_of_mem d (ih _ later)

theorem document_line_shown (origin : String) (text : List Char) (index : Nat) (c : Char) (held : text[index]? = some c)
    (filled : Text.isBlank c = false) :
    ∃ line, (documentLines origin text)[lineOf (softenBreaks text) index - 1]? = some line ∧
      line.place = ⟨some origin, some (lineOf (softenBreaks text) index : Int)⟩ ∧ c ∈ line.text := by
  have noTab : c ≠ '\t' := fun tab => by simp [tab, Text.isBlank] at filled
  have softened : (softenBreaks text)[index]? = some c := by
    simp [softenBreaks, held, hard_of_not_blank c filled]
  obtain ⟨inside, -⟩ := List.getElem?_eq_some_iff.mp softened
  obtain ⟨line, found, member⟩ :=
    Text.line_of_shown (softenBreaks text) index c softened (Text.plain_of_not_blank c filled)
  have first := Text.line_of_pos (softenBreaks text) index inside
  have number : ((lineOf (softenBreaks text) index - 1 : Nat) : Int) + 1 = lineOf (softenBreaks text) index := by omega
  have shown : (readableLines 8 text)[lineOf (softenBreaks text) index - 1]?
      = some (Text.trimRight (expandTabs 8 0 line)) := by
    rw [readableLines, List.getElem?_map, found]
    rfl
  refine ⟨.written ⟨some origin, some (lineOf (softenBreaks text) index : Int)⟩ (Text.trimRight (expandTabs 8 0 line)),
    ?_, rfl, Text.mem_trim_right _ c (mem_expand_tabs 8 0 line c member noTab) filled⟩
  rw [Check.document_lines_numbered, shown, number]
  rfl

end MarkupLint.Markup

namespace MarkupLint.Check

open Markup (isSoftBreak softenBreaks)

/-- A text as it is held by a check, in which comments are looked for and blocks are placed, and as it is handed on to
be read. A character is read on a line with a lower number than its own if there are soft breaks before it, lower by
one for each. So all numbers agree exactly if no soft break stands before the last character; and the number of lines
differs too for a byte order mark alone, which is held as a line and read as none. -/
theorem line_numbers_agree_iff (origin source : String) :
    let held := source.toList
    let handed := (readText source).toList
    let own := Text.splitLines held
    let read := Markup.documentLines origin handed
    let ownNumber := fun index => Text.lineOf held (held.length - handed.length + index)
    let readNumber := fun index => Text.lineOf (softenBreaks handed) index
    (∀ index c, handed[index]? = some c → Text.isBlank c = false →
      (∃ line, own[ownNumber index - 1]? = some line ∧ c ∈ line) ∧
      ∃ line, read[readNumber index - 1]? = some line ∧ line.place = ⟨some origin, some (readNumber index : Int)⟩ ∧
        c ∈ line.text) ∧
    (∀ index < handed.length, ownNumber index = readNumber index + (handed.take index).countP isSoftBreak) ∧
    own.length = read.length + handed.dropLast.countP isSoftBreak + (if source = "\uFEFF" then 1 else 0) ∧
    ((own.length = read.length ∧ ∀ index < handed.length, ownNumber index = readNumber index) ↔
      (∀ c ∈ handed.dropLast, isSoftBreak c = false) ∧ source ≠ "\uFEFF") := by
  intro held handed own read ownNumber readNumber
  have dropped : handed = Text.dropByteOrderMark held := to_list_read_text source
  have numbers : ∀ index < handed.length,
      ownNumber index = readNumber index + (handed.take index).countP isSoftBreak := by
    intro index inside
    have marked := Text.line_of_marked held index (dropped ▸ inside)
    rw [← dropped] at marked
    exact marked.trans (Markup.line_of_softened handed index inside)
  have lengths : own.length = read.length + handed.dropLast.countP isSoftBreak + (if source = "\uFEFF" then 1 else 0) := by
    have alone : (if held = ['\uFEFF'] then 1 else 0) = if source = "\uFEFF" then 1 else 0 :=
      if_congr (by rw [← String.toList_inj]; rfl) rfl rfl
    rw [show own.length = _ from Text.length_split_lines_marked held, ← dropped,
      Markup.length_split_lines_softened handed, ← Markup.length_document_lines origin, alone]
  refine ⟨?_, numbers, lengths, ?_⟩
  · intro index c found filled
    have marked := Text.get_marked held index
    rw [← dropped, found] at marked
    exact ⟨Text.line_of_shown held _ c marked (Text.plain_of_not_blank c filled),
      Markup.document_line_shown origin handed index c found filled⟩
  · constructor
    · rintro ⟨same, -⟩
      rw [same] at lengths
      have none : handed.dropLast.countP isSoftBreak = 0 := by omega
      refine ⟨fun c member => Bool.eq_false_iff.mpr (List.countP_eq_zero.mp none c member), fun alone => ?_⟩
      rw [if_pos alone] at lengths
      omega
    · rintro ⟨hard, filled⟩
      have none : handed.dropLast.countP isSoftBreak = 0 :=
        List.countP_eq_zero.mpr fun c member => Bool.eq_false_iff.mp (hard c member)
      refine ⟨by rw [lengths, none, if_neg filled, Nat.add_zero], fun index inside => ?_⟩
      have before : handed.take index <+: handed.dropLast := by
        rw [List.dropLast_eq_take]
        exact List.take_prefix_take_left (by omega)
      have noneBefore := Nat.le_zero.mp (none ▸ before.sublist.countP_le)
      rw [numbers index inside, noneBefore, Nat.add_zero]

/-- Behind a form feed a comment is read on the second line and looked for on the third. -/
theorem line_numbers_agree_form_feed :
    let source := "a\x0c\n.. rstcheck: ignore-next-code-block\n"
    Inline.skippingLines source = [3] ∧
    (Markup.documentLines "d" (readText source).toList)[1]?
      = some (.written ⟨some "d", some 2⟩ ".. rstcheck: ignore-next-code-block".toList) ∧
    (Text.splitLines source.toList).length = (Markup.documentLines "d" (readText source).toList).length + 1 ∧
    ¬ ∀ index < (readText source).toList.length, Text.lineOf source.toList index
      = Text.lineOf (softenBreaks (readText source).toList) index := by
  intro source
  obtain ⟨-, numbers, lengths, -⟩ := line_numbers_agree_iff "d" source
  have whole : source.toList.length - (readText source).toList.length = 0 := by decide +kernel
  have single : (readText source).toList.dropLast.countP isSoftBreak = 1 := by decide +kernel
  rw [single, if_neg (by decide)] at lengths
  refine ⟨by decide +kernel, by decide +kernel, lengths, fun agree => ?_⟩
  have third := numbers 3 (by decide +kernel)
  have before : ((readText source).toList.take 3).countP isSoftBreak = 1 := by decide +kernel
  simp only [whole, Nat.zero_add] at third
  rw [agree 3 (by decide +kernel), before] at third
  omega

end MarkupLint.Check
