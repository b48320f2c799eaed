import MarkupLint.Proofs.Release.Version
import MarkupLint.Release.Preparation

set_option autoImplicit false

namespace MarkupLint.Release

def listing (tags : List String) : String := String.join (tags.map (· ++ "\n"))

theorem last_tag_some (tags : List String) (filled : tags ≠ []) :
    ∃ last ∈ tags, lastTag? tags = some last ∧ ∀ tag ∈ tags, ¬ last < tag := by
  induction tags with
  | nil => exact absurd rfl filled
  | cons tag rest ih =>
      by_cases single : rest = []
      · subst single
        exact ⟨tag, List.mem_cons_self, rfl, List.forall_mem_singleton.mpr (String.lt_irrefl tag)⟩
      · obtain ⟨last, member, found, greatest⟩ := ih single
        rw [lastTag?, found]
        by_cases less : last < tag
        · refine ⟨tag, List.mem_cons_self, congrArg some (if_pos less), ?_⟩
          refine List.forall_mem_cons.mpr ⟨String.lt_irrefl tag, fun other among behind => ?_⟩
          exact greatest other among (String.lt_trans less behind)
        · exact ⟨last, List.mem_cons_of_mem tag member, congrArg some (if_neg less),
            List.forall_mem_cons.mpr ⟨less, greatest⟩⟩

theorem split_listing (tags : List String) (single : ∀ tag ∈ tags, '\n' ∉ tag.toList) :
    (Text.splitOnChar '\n' (listing tags).toList).map String.ofList = tags ++ [""] := by
  induction tags with
  | nil => rfl
  | cons tag rest ih =>
      rw [List.forall_mem_cons] at single
      have first : (listing (tag :: rest)).toList = tag.toList ++ '\n' :: (listing rest).toList := by
        simp [listing, String.join_cons]
      rw [first, Text.split_on_char_cut '\n' _ _ single.1, List.map_cons, ih single.2, String.ofList_toList, List.cons_append]

theorem version_tags_listing (tags : List String) (single : ∀ tag ∈ tags, '\n' ∉ tag.toList)
    (marked : ∀ tag ∈ tags, Text.startsWith ['v'] tag.toList = true) : versionTags (listing tags) = tags := by
  rw [versionTags, split_listing tags single, List.filter_append, List.filter_eq_self.mpr marked]
  exact List.append_nil tags

theorem written_tag (version : Version) (written : version.Written) :
    '\n' ∉ (toString version).toList ∧ Text.startsWith ['v'] (toString version).toList = true := by
  have row (digits : List Char) (isRow : Text.IsRow digits) : '\n' ∉ digits := fun member =>
    (Text.digit_plain _ (isRow.row _ member)).2.2.2.2.2 rfl
  rw [Version.to_list_to_string]
  refine ⟨?_, by simp [Text.startsWith, Text.dropStart?]⟩
  simp [row _ written.major, row _ written.minor, row _ written.patch]

section Tags

variable (arguments : List String) (name : String) (kind : ReleaseKind) (repository : Repository) (tags : List Version)
  (told : Arguments.read arguments = .ok { kind := name, isFirst := false })
  (known : ReleaseKind.ofName? name = some kind) (listed : repository.tags = listing (tags.map toString))
  (filled : tags ≠ []) (written : ∀ tag ∈ tags, tag.Written)

include told known listed filled written

theorem prepare_current : ∃ current ∈ tags, (∀ tag ∈ tags, ¬ toString current < toString tag) ∧
    match Version.next (current.part kind) with
    | .ok digits =>
        (prepare arguments repository).error = none ∧ (prepare arguments repository).commands =
          [listTags, commit (toString (current.withPart digits kind)), tag (toString (current.withPart digits kind))]
    | .error cause => (prepare arguments repository).error = some (.version cause) := by
  have found : versionTags repository.tags = tags.map toString := by
    rw [listed]
    refine version_tags_listing _ ?_ ?_
    · exact List.forall_mem_map.mpr fun tag member => (written_tag tag (written tag member)).1
    · exact List.forall_mem_map.mpr fun tag member => (written_tag tag (written tag member)).2
  obtain ⟨last, member, chosen, greatest⟩ := last_tag_some (tags.map toString) (by simpa using filled)
  obtain ⟨current, among, rfl⟩ := List.mem_map.mp member
  refine ⟨current, among, fun tag other => greatest _ (List.mem_map_of_mem other), ?_⟩
  have raised := Version.bump_text_eq _ name current kind (current.spells_to_string (written current among)) known
  cases counts : Version.next (current.part kind) with
  | ok digits =>
      simp only [prepare, told, versions, found, chosen, raised, counts]
      exact ⟨rfl, rfl⟩
  | error cause =>
      simp only [prepare, told, versions, found, chosen, raised, counts]
      rfl

/-- A release is made from the last tag in the order of characters. It is above all tags exactly if none is above that
one, down to the part that is raised; so it is as long as each part has the same width in all tags. -/
theorem prepare_exceeds_iff : ∃ current ∈ tags, (∀ other ∈ tags, toString other ≤ toString current) ∧
    ((prepare arguments repository).error = none ↔ (current.part kind).length ≤ Text.maxDigits ∧
      Text.digitsValue (current.part kind) + 1 < 10 ^ Text.maxDigits) ∧
    ((prepare arguments repository).error = none → ∃ next : Version, next.Written ∧
      (prepare arguments repository).commands = [listTags, commit (toString next), tag (toString next)] ∧
      current.numbers < next.numbers ∧
      ((∀ other ∈ tags, other.numbers < next.numbers) ↔ ∀ other ∈ tags, other.kept kind ≤ current.kept kind) ∧
      ((∀ other ∈ tags, other.Ascii ∧ other.SameWidths current) → ∀ other ∈ tags, other.numbers < next.numbers)) := by
  obtain ⟨current, member, greatest, outcome⟩ :=
    prepare_current arguments name kind repository tags told known listed filled written
  have row := current.part_row kind (written current member)
  refine ⟨current, member, fun other among => String.not_lt.mp (greatest other among), ?_⟩
  rw [← Version.next_ok_iff _ row]
  cases counts : Version.next (current.part kind) with
  | error cause =>
      rw [counts] at outcome
      simp [outcome]
  | ok digits =>
      rw [counts] at outcome
      obtain ⟨isRow, value⟩ := Version.next_raised _ digits row counts
      have above (other : Version) : other.numbers < (current.withPart digits kind).numbers ↔
          other.kept kind ≤ current.kept kind := current.lt_with_part_iff other kind digits value
      refine ⟨by simp [outcome.1], fun _ => ⟨current.withPart digits kind, ?_, outcome.2, ?_, ?_, ?_⟩⟩
      · exact current.with_part_written kind digits (written current member) isRow
      · exact (above current).mpr le_rfl
      · exact forall₂_congr fun other _ => above other
      · intro plain other among
        have same := plain other among
        have less : ¬ current.numbers < other.numbers := by
          have widths : current.SameWidths other := ⟨same.2.major.symm, same.2.minor.symm, same.2.patch.symm⟩
          rw [← current.to_string_lt_iff other (plain current member).1 same.1 widths]
          exact greatest other among
        exact (above other).mpr (other.kept_le current kind (not_lt.mp less))

end Tags

def widerTags : List Version := [⟨['1'], ['0'], ['0']⟩, ⟨['1'], ['1', '0'], ['0']⟩, ⟨['1'], ['9'], ['0']⟩]

/-- The tag behind all others in the order of characters is not the newest one, and a release takes a version again.
-/
theorem prepare_exceeds_iff_wider :
    let repository : Repository := ⟨"v1.0.0\nv1.10.0\nv1.9.0\n", "", "", ""⟩
    Arguments.read ["minor"] = .ok { kind := "minor", isFirst := false } ∧
    repository.tags = listing (widerTags.map toString) ∧ (∀ tag ∈ widerTags, tag.Written) ∧
    (prepare ["minor"] repository).commands = [listTags, commit "v1.10.0", tag "v1.10.0"] ∧
    "v1.10.0" ∈ widerTags.map toString ∧
    ∃ current ∈ widerTags, ¬ ∀ other ∈ widerTags, other.kept .minor ≤ current.kept .minor := by
  intro repository
  have told : Arguments.read ["minor"] = .ok { kind := "minor", isFirst := false } := by decide +kernel
  have listed : repository.tags = listing (widerTags.map toString) := by decide +kernel
  have written : ∀ tag ∈ widerTags, tag.Written := by decide +kernel
  have commands : (prepare ["minor"] repository).commands = [listTags, commit "v1.10.0", tag "v1.10.0"] := by
    decide +kernel
  obtain ⟨current, member, -, -, released⟩ :=
    prepare_exceeds_iff ["minor"] "minor" .minor repository widerTags told (by decide) listed (by decide) written
  obtain ⟨next, nextWritten, ran, -, exceeds, -⟩ := released (by decide +kernel)
  refine ⟨told, listed, written, commands, by decide +kernel, current, member, ?_⟩
  rw [← exceeds]
  have spelled : toString next = "v1.10.0" := by
    have last := congrArg (fun commands => commands.getLast?.bind List.getLast?) (ran.symm.trans commands)
    exact Option.some.inj last
  have same : next = ⟨['1'], ['1', '0'], ['0']⟩ := by
    have read := next.read_to_string nextWritten
    rw [spelled] at read
    exact Option.some.inj (read.symm.trans (by decide +kernel))
  intro above
  exact lt_irrefl _ (same ▸ above ⟨['1'], ['1', '0'], ['0']⟩ (by simp [widerTags]))

end MarkupLint.Release
