import MarkupLint.Proofs.Code.Selection
import MarkupLint.Proofs.Text.Blank
import MarkupLint.Proofs.Text.Pieces
import Mathlib.Data.List.Forall2

set_option autoImplicit false

namespace MarkupLint.Inline

theorem marker_ends : marker = ".. rstcheck:".toList ++ [' '] := by decide +kernel

theorem marker_ne_nil : marker ≠ [] := by decide +kernel

theorem of_key_iff (key : String) (kind : IgnoreKind) : IgnoreKind.ofKey? key = some kind ↔ kind.key = key := by
  constructor
  · intro found
    simpa using List.find?_some found
  · rintro rfl
    cases kind <;> rfl

-- A line sets a key to a value: the key stands between the first marker and the last equals sign of the line, and
-- the value behind that sign.
def Sets (line key value : List Char) : Prop :=
  ∃ before beforeSign behindSign, Text.FirstCut marker line before (beforeSign ++ '=' :: behindSign) ∧
    '=' ∉ behindSign ∧ Text.Stripped beforeSign key ∧ Text.Stripped behindSign value

theorem setting_text_iff (line key value : List Char) : settingText? line = some (key, value) ↔ Sets line key value := by
  simp only [settingText?, Option.bind_eq_bind, Option.bind_eq_some_iff, Prod.exists, Text.cut_some_iff,
    Text.cut_last_some_iff, Option.pure_def, Option.some.injEq, Prod.mk.injEq, Text.trim_eq_iff]
  constructor
  · rintro ⟨before, after, cut, beforeSign, behindSign, ⟨rfl, absent⟩, keyEq, valueEq⟩
    exact ⟨before, beforeSign, behindSign, cut, absent, keyEq, valueEq⟩
  · rintro ⟨before, beforeSign, behindSign, cut, absent, keyEq, valueEq⟩
    exact ⟨before, _, cut, beforeSign, behindSign, ⟨rfl, absent⟩, keyEq, valueEq⟩

def setting? (line : List Char) : Option Setting := do
  let (key, value) ← settingText? line
  let kind ← IgnoreKind.ofKey? (String.ofList key)
  pure ⟨kind, String.ofList value⟩

theorem setting_some_iff (line : List Char) (setting : Setting) :
    setting? line = some setting ↔ Sets line setting.kind.key.toList setting.value.toList := by
  rw [← setting_text_iff]
  constructor
  · intro read
    obtain ⟨⟨key, value⟩, text, read⟩ := Option.bind_eq_some_iff.mp read
    obtain ⟨kind, known, read⟩ := Option.bind_eq_some_iff.mp read
    cases read
    rw [of_key_iff] at known
    rw [text, known, String.toList_ofList, String.toList_ofList]
  · intro text
    simp [setting?, text, (of_key_iff _ _).mpr rfl]

theorem settings_eq (source : String) : settings source = (Text.splitLines source.toList).filterMap setting? := by
  have lines : Text.splitLines source.toList = (numberedLines source).map Prod.fst := by
    rw [numberedLines, List.zipIdx_map_fst]
  rw [lines, List.filterMap_map]
  rfl

section Gathered

variable {α β : Type}

inductive Gathered (gives : α → β → Prop) : List α → List β → Prop
  | nil : Gathered gives [] []
  | found (item : α) (result : β) (items : List α) (results : List β) (here : gives item result)
      (rest : Gathered gives items results) : Gathered gives (item :: items) (result :: results)
  | passed (item : α) (items : List α) (results : List β) (nothing : ∀ result, ¬ gives item result)
      (rest : Gathered gives items results) : Gathered gives (item :: items) results

theorem gathered_iff (read : α → Option β) (gives : α → β → Prop)
    (reads : ∀ item result, read item = some result ↔ gives item result) (items : List α) (results : List β) :
    Gathered gives items results ↔ items.filterMap read = results := by
  constructor
  · intro gathered
    induction gathered with
    | nil => rfl
    | found item result items results here _ ih =>
        rw [List.filterMap_cons_some ((reads item result).mpr here), ih]
    | passed item items results nothing _ ih =>
        have unread : read item = none :=
          Option.eq_none_iff_forall_ne_some.mpr fun result found => nothing result ((reads item result).mp found)
        rw [List.filterMap_cons_none unread, ih]
  · rintro rfl
    induction items with
    | nil => exact .nil
    | cons item items ih =>
        cases here : read item with
        | some result =>
            rw [List.filterMap_cons_some here]
            exact .found item result items _ ((reads item result).mp here) ih
        | none =>
            rw [List.filterMap_cons_none here]
            refine .passed item items _ (fun result gives => ?_) ih
            rw [(reads item result).mpr gives] at here
            cases here

theorem Gathered.given {gives : α → β → Prop} {items : List α} {results : List β}
    (gathered : Gathered gives items results) (result : β) (member : result ∈ results) :
    ∃ item ∈ items, gives item result := by
  induction gathered with
  | nil => cases member
  | found item first items results here _ ih =>
      rcases List.mem_cons.mp member with rfl | later
      · exact ⟨item, List.mem_cons_self, here⟩
      · obtain ⟨other, inside, given⟩ := ih later
        exact ⟨other, List.mem_cons_of_mem _ inside, given⟩
  | passed item items results _ _ ih =>
      obtain ⟨other, inside, given⟩ := ih member
      exact ⟨other, List.mem_cons_of_mem _ inside, given⟩

end Gathered

def Lists (value : String) (names : List String) : Prop :=
  ∃ pieces, Text.DividedBy ',' value.toList pieces ∧
    List.Forall₂ (fun piece (name : String) => Text.Stripped piece name.toList) pieces names

def namesIn (value : String) : List String :=
  (Text.splitOnChar ',' value.toList).map fun piece => String.ofList (Text.trim piece)

theorem lists_names_in (value : String) : Lists value (namesIn value) := by
  refine ⟨Text.splitOnChar ',' value.toList, (Text.split_on_char_iff ',' _ _).mp rfl, ?_⟩
  rw [namesIn, List.forall₂_map_right_iff, List.forall₂_same]
  intro piece _
  rw [String.toList_ofList]
  exact Text.stripped_trim piece

theorem names_eq (kind : IgnoreKind) (source : String) :
    names kind source = ((((settings source).filter (·.kind = kind)).map (·.value)).map namesIn).flatten := by
  rw [← List.flatMap_def, List.flatMap_map]
  rfl

-- The blank that ends a marker is no part of a word, so a line ends in one word at most.
theorem flow_word_unique (word other : List Char) (plain : word.all isFlowChar = true)
    (ends : marker ++ other <:+ marker ++ word) : other = word := by
  have short : other.length ≤ word.length := by simpa using ends.length_le
  have within : other <:+ word :=
    List.suffix_of_suffix_length_le ((List.suffix_append marker other).trans ends) (List.suffix_append marker word) short
  by_contra different
  have shorter : other.length < word.length :=
    Nat.lt_of_le_of_ne short fun same => different (within.eq_of_length same)
  have blank : ' ' :: other <:+ marker ++ other := by
    rw [marker_ends, List.append_assoc]
    exact List.suffix_append _ _
  have inside : ' ' :: other <:+ word :=
    List.suffix_of_suffix_length_le (blank.trans ends) (List.suffix_append marker word) shorter
  exact absurd (List.all_eq_true.mp plain ' ' (inside.subset List.mem_cons_self)) (by decide)

theorem flow_word_some_iff (line word : List Char) :
    flowWord? line = some word ↔ marker ++ word <:+ line ∧ word.all isFlowChar = true := by
  induction line with
  | nil => simp [flowWord?, marker_ne_nil]
  | cons c rest ih =>
      have ends : marker ++ word <:+ c :: rest ↔ c :: rest = marker ++ word ∨ marker ++ word <:+ rest := by
        rw [List.suffix_cons_iff, eq_comm]
      rw [flowWord?, ends]
      cases here : Text.dropStart? marker (c :: rest) with
      | none =>
          have notHere : c :: rest ≠ marker ++ word := fun same => by
            simp [(Text.drop_start_some_iff _ _ _).mpr same] at here
          simp only [ih, notHere, false_or]
      | some own =>
          have same := (Text.drop_start_some_iff _ _ _).mp here
          by_cases plain : own.all isFlowChar = true
          · simp only [plain, if_true, Option.some.injEq]
            constructor
            · rintro rfl
              exact ⟨.inl same, plain⟩
            · rintro ⟨whole | later, -⟩
              · exact List.append_cancel_left (same.symm.trans whole)
              · exact (flow_word_unique own word plain (same ▸ later.trans (List.suffix_cons c rest))).symm
          · have notHere : ¬ (c :: rest = marker ++ word ∧ word.all isFlowChar = true) := by
              rintro ⟨whole, held⟩
              exact plain (List.append_cancel_left (same.symm.trans whole) ▸ held)
            simp only [plain, Bool.false_eq_true, if_false, ih, or_and_right, notHere, false_or]

def skipComment : List Char := ".. rstcheck: ignore-next-code-block".toList

def TellsToSkip (source : String) (number : Nat) : Prop :=
  ∃ (index : Nat) (line : List Char), (Text.splitLines source.toList)[index]? = some line ∧
    skipComment <:+ line ∧ number = index + 1

theorem flow_word_skip_iff (line : List Char) :
    flowWord? line = some "ignore-next-code-block".toList ↔ skipComment <:+ line := by
  have spelled : marker ++ "ignore-next-code-block".toList = skipComment := by decide +kernel
  have plain : "ignore-next-code-block".toList.all isFlowChar = true := by decide +kernel
  rw [flow_word_some_iff, spelled, and_iff_left plain]

theorem skips_next_iff (source : String) (number : Nat) : Code.SkipsNext source number ↔ TellsToSkip source number := by
  simp only [Code.SkipsNext, TellsToSkip, flow_word_skip_iff]
  refine exists_congr fun index => exists_congr fun line => and_congr_right fun _ => and_congr_right fun _ => ?_
  omega

theorem skipping_lines_increase (source : String) : (skippingLines source).Pairwise (· < ·) := by
  have numbers : (numberedLines source).Pairwise fun first second => first.2 < second.2 := by
    rw [← List.pairwise_map, numberedLines, List.zipIdx_map_snd]
    exact List.pairwise_lt_range' _
  have comments : (flowComments source).Pairwise fun first second => first.line < second.line := by
    rw [flowComments, List.pairwise_filterMap]
    refine numbers.imp fun less first readFirst second readSecond => ?_
    obtain ⟨_, _, readFirst⟩ := Option.bind_eq_some_iff.mp readFirst
    obtain ⟨_, _, readFirst⟩ := Option.bind_eq_some_iff.mp readFirst
    obtain ⟨_, _, readSecond⟩ := Option.bind_eq_some_iff.mp readSecond
    obtain ⟨_, _, readSecond⟩ := Option.bind_eq_some_iff.mp readSecond
    cases readFirst
    cases readSecond
    exact less
  rw [skippingLines, List.pairwise_map]
  exact comments.filter _

/-- The settings of a source are those of its lines that set one of the known keys, one for each, in order. The names
of a kind are those in the values of its settings, in order; and the lines that skip a block are exactly those with
the comment at their end. -/
theorem comments_read (source : String) :
    (∀ found, Gathered (fun line (setting : Setting) => Sets line setting.kind.key.toList setting.value.toList)
        (Text.splitLines source.toList) found ↔ found = settings source) ∧
    (∀ kind, ∃ groups, List.Forall₂ Lists (((settings source).filter (·.kind = kind)).map (·.value)) groups ∧
        names kind source = groups.flatten) ∧
    (skippingLines source).Pairwise (· < ·) ∧
    ∀ number, number ∈ skippingLines source ↔ TellsToSkip source number := by
  refine ⟨fun found => ?_, fun kind => ?_, skipping_lines_increase source, fun number => ?_⟩
  · rw [gathered_iff setting? _ setting_some_iff, ← settings_eq, eq_comm]
  · refine ⟨_, ?_, names_eq kind source⟩
    rw [List.forall₂_map_right_iff, List.forall₂_same]
    exact fun value _ => lists_names_in value
  · rw [Code.mem_skipping_lines_iff, skips_next_iff]

end MarkupLint.Inline
