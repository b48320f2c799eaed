import MarkupLint.Proofs.Code.Beginning
import MarkupLint.Proofs.Inline

set_option autoImplicit false

namespace MarkupLint.Code

open Markup (Attributes)

def StartsDirective (line : List Char) : Prop :=
  ∃ inner, Text.Stripped line inner ∧
    (".. code::".toList <+: inner ∨ ".. code-block::".toList <+: inner ∨ ".. sourcecode::".toList <+: inner)

theorem is_code_directive_iff (line : List Char) : isCodeDirective line = true ↔ StartsDirective line := by
  have starts : isCodeDirective line = true ↔ ".. code::".toList <+: Text.trim line ∨
      ".. code-block::".toList <+: Text.trim line ∨ ".. sourcecode::".toList <+: Text.trim line := by
    simp [isCodeDirective, directiveStarts]
  rw [starts]
  constructor
  · exact fun held => ⟨Text.trim line, Text.stripped_trim line, held⟩
  · rintro ⟨inner, stripped, held⟩
    rwa [(Text.trim_eq_iff line inner).mpr stripped]

theorem blank_no_directive (line : List Char) (blank : hasText line = false) : ¬ StartsDirective line := by
  have nothing : Text.trim line = [] := (Text.trim_eq_nil_iff line).mpr (by simpa [hasText] using blank)
  rintro ⟨inner, stripped, held⟩
  rw [← (Text.trim_eq_iff line inner).mpr stripped, nothing] at held
  simp only [List.prefix_nil] at held
  exact absurd held (by decide +kernel)

theorem last_cut_from (holds : List Char → Bool) (before : List (List Char)) (line : List Char)
    (after : List (List Char)) (held : holds line = true) :
    ∃ front text back, LastCut holds (before ++ line :: after) front text back ∧ before.length ≤ front.length ∧
      (front.length = before.length ↔ ∀ later ∈ after, holds later = false) := by
  cases found : lastLine? holds (before ++ line :: after) with
  | none =>
      have missing := (last_line_none_iff holds _).mp found line (by simp)
      simp [held] at missing
  | some number =>
      obtain ⟨front, text, back, cut, -⟩ := last_cut_of_line holds _ number found
      refine ⟨front, text, back, cut, ?_⟩
      rcases List.append_eq_append_iff.mp cut.split with ⟨between, rfl, behind⟩ | ⟨between, rfl, behind⟩
      · refine ⟨by simp, ?_⟩
        cases between with
        | nil =>
            obtain ⟨rfl, rfl⟩ := List.cons.inj behind
            simpa using cut.last
        | cons first between =>
            obtain ⟨rfl, rfl⟩ := List.cons.inj behind
            refine iff_of_false (by simp) fun none => ?_
            exact absurd cut.held (by simp [none text (by simp)])
      · cases between with
        | nil =>
            obtain ⟨rfl, rfl⟩ := List.cons.inj behind
            simpa using cut.last
        | cons first between =>
            obtain ⟨rfl, rfl⟩ := List.cons.inj behind
            simp [cut.last line (by simp)] at held

-- A directive, the lines of its block below it, and only blank lines from there down to the line that is given for the
-- block. That line may be the one behind the end of the text.
structure BlockBelow (lines above : List (List Char)) (directive : List Char) (block below : List (List Char))
    (number : Nat) : Prop where
  split : lines = above ++ directive :: (block ++ below)
  starts : StartsDirective directive
  filled : ∃ code final, block = code ++ [final] ∧ hasText final = true
  reached : above.length + 1 + block.length ≤ number
  inside : number ≤ lines.length + 1
  blank : ∀ line ∈ below.take (number - (above.length + 1 + block.length)), hasText line = false

def NearestDirective (lines : List (List Char)) (number found : Nat) : Prop :=
  ∃ before line after, lines.take (number - 1) = before ++ line :: after ∧ StartsDirective line ∧
    (∀ later ∈ after, ¬ StartsDirective later) ∧ found = before.length + 1

section BlockBelow

variable (lines above : List (List Char)) (directive : List Char) (block below : List (List Char)) (number : Nat)
  (stands : BlockBelow lines above directive block below number)
include stands

theorem lines_above_number :
    lines.take (number - 1) = above ++ directive :: (block.take (number - above.length - 2) ++
      below.take (number - 1 - (above.length + 1 + block.length))) := by
  obtain ⟨code, final, own, -⟩ := stands.filled
  have long : 1 ≤ block.length := by simp [own]
  have reached := stands.reached
  obtain ⟨count, rfl⟩ : ∃ count, number = above.length + 2 + count := ⟨number - above.length - 2, by omega⟩
  have outer : above.length + 2 + count - 1 = above.length + (count + 1) := by omega
  have inner : above.length + 2 + count - above.length - 2 = count := by omega
  have rest : above.length + (count + 1) - (above.length + 1 + block.length) = count - block.length := by omega
  rw [outer, inner, rest, stands.split, List.take_length_add_append, List.take_succ_cons, List.take_append]

theorem nearest_directive :
    ∃ found, NearestDirective lines number found ∧ above.length + 1 ≤ found ∧
      (found = above.length + 1 ↔ ∀ line ∈ block.take (number - above.length - 2), ¬ StartsDirective line) := by
  obtain ⟨front, text, back, cut, behind, own⟩ := last_cut_from isCodeDirective above directive
    (block.take (number - above.length - 2) ++ below.take (number - 1 - (above.length + 1 + block.length)))
    ((is_code_directive_iff directive).mpr stands.starts)
  rw [← lines_above_number lines above directive block below number stands] at cut
  have notDirective : ∀ line, isCodeDirective line = false ↔ ¬ StartsDirective line := fun line => by
    rw [← is_code_directive_iff, Bool.not_eq_true]
  refine ⟨front.length + 1, ⟨front, text, back, cut.split, (is_code_directive_iff text).mp cut.held, ?_, rfl⟩,
    Nat.succ_le_succ behind, ?_⟩
  · exact fun later member => (notDirective later).mp (cut.last later member)
  · -- The blank lines below the code start no directive, so they do not count.
    have blank : ∀ line ∈ below.take (number - 1 - (above.length + 1 + block.length)), ¬ StartsDirective line := by
      intro line member
      refine blank_no_directive line (stands.blank line ?_)
      exact (List.take_subset_take_left below (by omega)) member
    rw [Nat.succ_inj, own, List.forall_mem_append]
    simp only [notDirective]
    exact and_iff_left blank

theorem code_ends :
    ∃ before final after, LastCut hasText (lines.take number) before final after ∧
      before.length + 1 = above.length + 1 + block.length := by
  obtain ⟨code, final, own, text⟩ := stands.filled
  have reached := stands.reached
  have shown : lines.take number = (above ++ directive :: code) ++
      final :: below.take (number - (above.length + 1 + block.length)) := by
    have whole : lines = (above ++ directive :: block) ++ below := by
      rw [stands.split, List.append_assoc, List.cons_append]
    have length : (above ++ directive :: block).length = above.length + 1 + block.length := by
      simp only [List.length_append, List.length_cons]
      omega
    rw [whole, List.take_append, List.take_of_length_le (by omega), length, own]
    simp
  refine ⟨_, final, _, ⟨shown, text, stands.blank⟩, ?_⟩
  simp only [own, List.length_append, List.length_cons, List.length_nil]
  omega

end BlockBelow

section Source

variable (source : String) (number found : Nat)
  (inside : number ≤ (Text.splitLines source.toList).length + 1)
include inside

theorem number_inside (own : Int) (same : some (number : Int) = some own) :
    own ≤ (Text.splitLines source.toList).length + 1 := by
  cases same
  omega

variable (nearest : NearestDirective (Text.splitLines source.toList) number found)
include nearest

theorem directive_line_nearest :
    directiveLine false source (some number) = .ok (some found) ∧
      ∀ directive : Int, some (found : Int) = some directive ↔
        ∃ own, some (number : Int) = some own ∧ DirectiveAt false source own directive := by
  obtain ⟨before, line, after, split, starts, last, rfl⟩ := nearest
  obtain ⟨directive, looked, stands⟩ := directive_line_ok false source (some number) (number_inside source number inside)
  have cut : LastCut isCodeDirective ((Text.splitLines source.toList).take ((number : Int).toNat - 1)) before line after := by
    refine ⟨by simpa using split, (is_code_directive_iff line).mpr starts, fun later member => ?_⟩
    rw [← Bool.not_eq_true, is_code_directive_iff]
    exact last later member
  have own : directive = some ((before.length + 1 : Nat) : Int) :=
    (stands _).mpr ⟨number, rfl, .above rfl before line after cut⟩
  subst own
  exact ⟨looked, stands⟩

theorem skipped_iff (raw : String) (attributes : Attributes) (ignored : List String) (language : Language) (byClass : Bool)
    (named : InLanguage attributes language.name byClass) (kept : language.name ∉ ignored) (sessions : "doctest" ∉ ignored) :
    ∃ notices deeper, literalNotices ⟨false, source, ignored, Inline.skippingLines source⟩ raw (some number) attributes
        = .ok (notices, deeper) ∧ (Check.blocksOf notices = [] ↔ Inline.TellsToSkip source (found - 1)) := by
  have positive : 1 ≤ found := by
    obtain ⟨before, _, _, _, _, _, rfl⟩ := nearest
    omega
  obtain ⟨-, stands⟩ := directive_line_nearest source number found inside nearest
  obtain ⟨notices, deeper, run, block, blocks, checked⟩ :=
    @literal_gives false source ignored raw attributes (some number) (number_inside source number inside)
  refine ⟨notices, deeper, run, ?_⟩
  have skips : SkipsNext source ((found : Int) - 1) ↔ Inline.TellsToSkip source (found - 1) := by
    rw [← Inline.skips_next_iff, Int.natCast_sub positive]
    rfl
  have possible := @checked_named_iff false source ignored raw attributes (some number) (some found) language.name byClass
    ((language_name_iff attributes language.name byClass).mpr named) stands
  rw [← skips, blocks, Option.toList_eq_nil_iff]
  constructor
  · intro none
    by_contra free
    -- A block that is not skipped is checked, as a session or in its own language.
    have standing : language.name ∉ ignored ∧ ∃ own, some (found : Int) = some own ∧ ¬ SkipsNext source (own - 1) :=
      ⟨kept, found, rfl, free⟩
    by_cases shows : ShowsSession language.name raw
    · have held := (checked _).mpr ((possible _).mpr ⟨standing, .inl ⟨shows, sessions, rfl⟩⟩)
      simp [none] at held
    · have held := (checked _).mpr ((possible _).mpr ⟨standing, .inr ⟨shows, language, rfl, rfl⟩⟩)
      simp [none] at held
  · intro skipped
    refine Option.eq_none_iff_forall_ne_some.mpr fun other held => ?_
    obtain ⟨⟨-, own, same, free⟩, -⟩ := (possible other).mp ((checked other).mp held)
    cases same
    exact free skipped

end Source

theorem code_begins (source : String) (above : List (List Char)) (directive : List Char) (block below : List (List Char))
    (number : Nat) (stands : BlockBelow (Text.splitLines source.toList) above directive block below number)
    (raw : String) (attributes : Nat) (byClass : Bool) :
    beginning false source raw (some number) attributes byClass =
      .ok ((above.length + 1 + block.length : Nat) - (Text.splitLines raw.toList).length + 1) := by
  obtain ⟨before, final, after, cut, ends⟩ := code_ends _ above directive block below number stands
  have reached := stands.reached
  have inside := stands.inside
  have upwards : beginning false source raw (some number) attributes byClass =
      beginningAbove source number (Text.splitLines raw.toList).length := rfl
  rw [upwards, beginning_above_eq source number _ (by omega), if_neg (by omega), last_line_of_cut _ _ _ _ _ cut, ends]
  rfl

/-- The directive of a block is looked for among the lines above the one that is given, the nearest first. It is the
block's own exactly if none of the lines of the block that are looked at starts a directive, and then it stands above
the code. The block is skipped exactly if a comment stands above the directive that is found. -/
theorem directive_line_iff (source : String) (above : List (List Char)) (directive : List Char)
    (block below : List (List Char)) (number : Nat)
    (stands : BlockBelow (Text.splitLines source.toList) above directive block below number) :
    ∃ found : Nat, directiveLine false source (some number) = .ok (some found) ∧
      NearestDirective (Text.splitLines source.toList) number found ∧ above.length + 1 ≤ found ∧
      (found = above.length + 1 ↔ ∀ line ∈ block.take (number - above.length - 2), ¬ StartsDirective line) ∧
      (∀ raw attributes byClass, (Text.splitLines raw.toList).length ≤ block.length →
        ∃ first, beginning false source raw (some number) attributes byClass = .ok first ∧
          above.length + 1 < first ∧ first + (Text.splitLines raw.toList).length = above.length + 2 + block.length) ∧
      ∀ raw attributes ignored (language : Language) byClass, InLanguage attributes language.name byClass →
        language.name ∉ ignored → "doctest" ∉ ignored →
        ∃ notices deeper,
          literalNotices ⟨false, source, ignored, Inline.skippingLines source⟩ raw (some number) attributes
            = .ok (notices, deeper) ∧ (Check.blocksOf notices = [] ↔ Inline.TellsToSkip source (found - 1)) := by
  obtain ⟨found, nearest, atOrBelow, own⟩ := nearest_directive _ above directive block below number stands
  obtain ⟨looked, -⟩ := directive_line_nearest source number found stands.inside nearest
  refine ⟨found, looked, nearest, atOrBelow, own, fun raw attributes byClass short => ?_, ?_⟩
  · refine ⟨_, code_begins source above directive block below number stands raw attributes byClass, ?_, ?_⟩
    · omega
    · omega
  · intro raw attributes ignored language byClass named kept sessions
    exact skipped_iff source number found stands.inside nearest raw attributes ignored language byClass named kept sessions

def nestedRaw : String := ".. rstcheck: ignore-next-code-block\n.. code:: python\n\n   x"

def nestedSource : String :=
  ".. code:: rst\n\n   .. rstcheck: ignore-next-code-block\n   .. code:: python\n\n      x\n\n"

theorem nested_below : BlockBelow (Text.splitLines nestedSource.toList) [] ".. code:: rst".toList
    [[], "   .. rstcheck: ignore-next-code-block".toList, "   .. code:: python".toList, [], "      x".toList] [[]] 7 where
  split := by decide +kernel
  starts := (is_code_directive_iff _).mp (by decide +kernel)
  filled := ⟨_, _, (List.dropLast_append_getLast (List.cons_ne_nil _ _)).symm, by decide +kernel⟩
  reached := by decide
  inside := by decide +kernel
  blank := by decide +kernel

/-- The directive of the inner block is taken for that of the outer one, which is skipped in its place. -/
theorem directive_line_nested :
    directiveLine false nestedSource (some 7) = .ok (some 4) ∧
      ∃ notices deeper, literalNotices ⟨false, nestedSource, [], Inline.skippingLines nestedSource⟩ nestedRaw (some 7)
        [("language", .text "rst")] = .ok (notices, deeper) ∧ Check.blocksOf notices = [] := by
  obtain ⟨found, looked, -, -, -, -, skips⟩ := directive_line_iff nestedSource [] _ _ _ 7 nested_below
  have inner : (directiveLine false nestedSource (some 7)).toOption = some (some 4) := by decide +kernel
  have fourth : found = 4 := by
    rw [show ((7 : Nat) : Int) = 7 from rfl] at looked
    rw [looked] at inner
    exact Int.ofNat.inj (Option.some.inj (Option.some.inj inner))
  subst fourth
  refine ⟨looked, ?_⟩
  obtain ⟨notices, deeper, run, skipped⟩ := skips nestedRaw [("language", .text "rst")] [] .rst false
    (.named "rst" (by decide +kernel)) (by simp) (by simp)
  refine ⟨notices, deeper, run, skipped.mpr ⟨2, "   .. rstcheck: ignore-next-code-block".toList, ?_, ?_, rfl⟩⟩
  · decide +kernel
  · exact ⟨"   ".toList, by decide +kernel⟩

end MarkupLint.Code
