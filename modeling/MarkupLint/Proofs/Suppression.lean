import MarkupLint.Suppression
import MarkupLint.Proofs.Finding
import MarkupLint.Proofs.Report

set_option autoImplicit false

namespace MarkupLint.Suppression

def emptyText (name : String) : List Char :=
  "Substitution definition \"".toList ++ name.toList ++ "\" empty or invalid".toList

def undefinedText (name : String) : List Char :=
  "Undefined substitution referenced: \"".toList ++ name.toList ++ ['"']

def Mentions (text : List Char) (line : String) : Prop := text <:+: line.toList

def mark : List Char := "replace::".toList

def MarkedValue (line value : List Char) : Prop :=
  ∃ before after, Text.FirstCut mark line before after ∧
    ((¬ mark <:+: after ∧ value = after) ∨ ∃ rest, Text.FirstCut mark after value rest)

def DefinesRole (line : String) : Prop :=
  Mentions ".. |".toList line ∧ ∃ value, MarkedValue line.toList value ∧ ':' ∈ value

-- A message calls the definition of the name empty, and the line two below it defines a role.
def HasRole (lines : List String) (name : String) : Prop :=
  ∃ (place : Nat) (message below : String), lines[place]? = some message ∧ Mentions (emptyText name) message ∧
    lines[place + 2]? = some below ∧ DefinesRole below

def kept (ignored : Option MessagePattern) (lines : List String) : List String :=
  lines.filter fun line => !line.isEmpty && !isDropped (roleNames lines) line
    && !((ignored.map (·.foundIn line)).getD false)

theorem read_messages_eq (origin : Origin) (ignored : Option MessagePattern) (text : String) :
    readMessages origin ignored text = Report.collect (readLine origin) (kept ignored (Text.lines text)) := rfl

theorem mem_kept_iff (ignored : Option MessagePattern) (lines : List String) (line : String) :
    line ∈ kept ignored lines ↔ line ∈ lines ∧ line ≠ "" ∧ isDropped (roleNames lines) line = false ∧
      ∀ pattern, ignored = some pattern → pattern.foundIn line = false := by
  cases ignored <;> simp [kept, and_assoc]

theorem read_line_eq (origin : Origin) (line : String) :
    readLine origin line = Finding.passing (Finding.ofLine origin none false line) := rfl

theorem quoted_after_infix (start ending text name : List Char)
    (found : quotedAfter? start ending text = some name) : start ++ name ++ ending <:+: text := by
  induction text with
  | nil => simp [quotedAfter?] at found
  | cons c rest ih =>
      rw [quotedAfter?] at found
      split at found
      · -- The name stands here: it ends at the next quote, and the ending follows.
        rename_i here hereEq
        obtain ⟨after, dropped, quoted⟩ := Option.bind_eq_some_iff.mp hereEq
        simp only [Option.ite_none_right_eq_some, Option.some.injEq, Bool.and_eq_true] at quoted
        obtain ⟨⟨-, ended⟩, rfl⟩ := quoted
        obtain ⟨tail, afterEq⟩ := (Text.starts_with_iff _ _).mp ended
        cases found
        have rejoined := List.prefix_iff_eq_append.mp (List.takeWhile_prefix (l := after) (· ≠ '"'))
        rw [← afterEq] at rejoined
        refine ⟨[], tail, ?_⟩
        rw [(Text.drop_start_some_iff _ _ _).mp dropped, List.nil_append, List.append_assoc, List.append_assoc,
          rejoined]
      · exact (ih found).trans (List.infix_cons (List.infix_refl rest))

theorem empty_name_mentioned (line name : String) (found : emptyName? line = some name) :
    Mentions (emptyText name) line := by
  rw [emptyName?, Option.map_eq_some_iff] at found
  obtain ⟨chars, quoted, rfl⟩ := found
  have whole := quoted_after_infix _ _ _ _ quoted
  rwa [← String.toList_ofList (l := chars)] at whole

theorem undefined_name_mentioned (line name : String) (found : undefinedName? line = some name) :
    Mentions (undefinedText name) line := by
  rw [undefinedName?, Option.map_eq_some_iff] at found
  obtain ⟨chars, quoted, rfl⟩ := found
  have whole := quoted_after_infix _ _ _ _ quoted
  rwa [← String.toList_ofList (l := chars)] at whole

theorem defines_role_eq (line : String) :
    definesRole line = (Text.hasPiece line ".. |" &&
      match Text.cut? mark line.toList with
      | none => false
      | some (_, after) =>
          (match Text.cut? mark after with
            | some (value, _) => value
            | none => after).contains ':') := rfl

theorem defines_role_sound (line : String) (defines : definesRole line = true) : DefinesRole line := by
  rw [defines_role_eq, Bool.and_eq_true] at defines
  obtain ⟨opens, holds⟩ := defines
  refine ⟨(Text.has_piece_iff _ _).mp opens, ?_⟩
  cases cut : Text.cut? mark line.toList with
  | none => simp [cut] at holds
  | some parts =>
      have first := Text.cut_some_first mark line.toList parts.1 parts.2 cut
      cases again : Text.cut? mark parts.2 with
      | none =>
          have single := (Text.cut_none_iff mark parts.2).mp again
          refine ⟨parts.2, ⟨parts.1, parts.2, first, .inl ⟨single, rfl⟩⟩, ?_⟩
          simpa [cut, again] using holds
      | some pieces =>
          have second := Text.cut_some_first mark parts.2 pieces.1 pieces.2 again
          refine ⟨pieces.1, ⟨parts.1, parts.2, first, .inr ⟨pieces.2, second⟩⟩, ?_⟩
          simpa [cut, again] using holds

theorem role_names_sound (lines : List String) (name : String) (member : name ∈ roleNames lines) :
    HasRole lines name := by
  obtain ⟨message, present, found⟩ := List.mem_filterMap.mp member
  split at found
  · cases found
  · obtain ⟨called, named, found⟩ := Option.bind_eq_some_iff.mp found
    obtain ⟨below, placed, found⟩ := Option.bind_eq_some_iff.mp found
    rw [Option.ite_none_right_eq_some, Option.some.injEq] at found
    obtain ⟨defines, rfl⟩ := found
    -- The look-ahead is counted from the first line with the same text, not from the message itself.
    exact ⟨lines.idxOf message, message, below, List.getElem?_idxOf present, empty_name_mentioned _ _ named, placed,
      defines_role_sound below defines⟩

theorem is_dropped_sound (lines : List String) (line : String)
    (dropped : isDropped (roleNames lines) line = true) :
    ∃ name, (Mentions (emptyText name) line ∨ Mentions (undefinedText name) line) ∧ HasRole lines name := by
  have contained : ∀ found : Option String, (found.map (roleNames lines).contains).getD false = true →
      ∃ name, found = some name ∧ HasRole lines name := by
    intro found
    cases found with
    | none => simp
    | some name => exact fun member => ⟨name, rfl, role_names_sound lines name (by simpa using member)⟩
  rw [isDropped, Bool.or_eq_true, Bool.and_eq_true, Bool.and_eq_true] at dropped
  rcases dropped with ⟨-, empty⟩ | ⟨-, undefined⟩
  · obtain ⟨name, named, role⟩ := contained _ empty
    exact ⟨name, .inl (empty_name_mentioned line name named), role⟩
  · obtain ⟨name, named, role⟩ := contained _ undefined
    exact ⟨name, .inr (undefined_name_mentioned line name named), role⟩

theorem read_messages_findings (origin : Origin) (ignored : Option MessagePattern) (text : String) :
    (readMessages origin ignored text).findings =
      ((kept ignored (Text.lines text)).takeWhile fun line =>
          Finding.ofLine origin none false line ≠ .error .missingPart).filterMap
        fun line => (Finding.ofLine origin none false line).toOption := by
  simp [read_messages_eq, Report.collect_findings, read_line_eq]

theorem read_messages_failure_none_iff (origin : Origin) (ignored : Option MessagePattern) (text : String) :
    (readMessages origin ignored text).failure = none ↔
      ∀ line ∈ kept ignored (Text.lines text), Finding.ofLine origin none false line ≠ .error .missingPart := by
  rw [read_messages_eq, Report.collect_failure_none_iff]
  simp only [read_line_eq, ← not_exists, Finding.passing_error_iff, ne_eq]

theorem read_messages_whole (origin : Origin) (ignored : Option MessagePattern) (text : String)
    (finding : Finding) (whole : (readMessages origin ignored text).failure = none) :
    finding ∈ (readMessages origin ignored text).findings ↔
      ∃ line ∈ kept ignored (Text.lines text), Finding.ofLine origin none false line = .ok finding := by
  rw [read_messages_failure_none_iff] at whole
  have unbroken : ∀ line ∈ kept ignored (Text.lines text),
      decide (Finding.ofLine origin none false line ≠ .error .missingPart) = true :=
    fun line present => decide_eq_true (whole line present)
  rw [read_messages_findings, List.takeWhile_eq_self_iff.mpr unbroken, List.mem_filterMap]
  refine exists_congr fun line => and_congr_right fun _ => ?_
  cases Finding.ofLine origin none false line <;> simp [Except.toOption]

/-- The findings are those of the lines that are not empty, dropped or ignored, up to a line that is cut short. A line is
dropped only if it is about a name whose definition holds a role; and if nothing fails, every other line that can be
read is among the findings. -/
theorem read_messages_sound (origin : Origin) (ignored : Option MessagePattern) (text : String) :
    let lines := Text.lines text
    let report := readMessages origin ignored text
    report.findings =
        ((lines.filter fun line => !line.isEmpty && !isDropped (roleNames lines) line
            && !((ignored.map (·.foundIn line)).getD false)).takeWhile fun line =>
          Finding.ofLine origin none false line ≠ .error .missingPart).filterMap
        (fun line => (Finding.ofLine origin none false line).toOption) ∧
      (∀ line ∈ lines, isDropped (roleNames lines) line = true →
        ∃ name, (Mentions (emptyText name) line ∨ Mentions (undefinedText name) line) ∧ HasRole lines name) ∧
      (report.failure = none → ∀ line ∈ lines, ∀ finding, Finding.ofLine origin none false line = .ok finding →
        (∀ pattern, ignored = some pattern → pattern.foundIn line = false) →
        (∀ name, Mentions (emptyText name) line ∨ Mentions (undefinedText name) line → ¬ HasRole lines name) →
        finding ∈ report.findings) := by
  intro lines report
  refine ⟨read_messages_findings origin ignored text, fun line _ => is_dropped_sound lines line, ?_⟩
  intro whole line present finding reads visible roleless
  have filled : line ≠ "" := by
    rintro rfl
    rw [Finding.of_line_empty] at reads
    cases reads
  -- A line without a role is not dropped, so it is kept and read.
  have stays : isDropped (roleNames lines) line = false := by
    rw [← Bool.not_eq_true]
    intro dropped
    obtain ⟨name, mentioned, role⟩ := is_dropped_sound lines line dropped
    exact roleless name mentioned role
  have among := (mem_kept_iff ignored lines line).mpr ⟨present, filled, stays, visible⟩
  exact (read_messages_whole origin ignored text finding whole).mpr ⟨line, among, reads⟩

-- A message about a role, the definition it is about, and a message of another kind.
def roleMessages : String :=
  "Substitution definition \"x\" empty or invalid\n\n.. |x|replace:::\na:2:m"

/-- A message about a definition with a role is dropped, and the finding below it is kept. -/
theorem read_messages_sound_role :
    (∃ name, (Mentions (emptyText name) "Substitution definition \"x\" empty or invalid" ∨
        Mentions (undefinedText name) "Substitution definition \"x\" empty or invalid") ∧
      HasRole (Text.lines roleMessages) name) ∧
    ⟨"a", 2, "m"⟩ ∈ (readMessages (.text "a") none roleMessages).findings := by
  obtain ⟨-, sound, complete⟩ := read_messages_sound (.text "a") none roleMessages
  refine ⟨sound _ (by decide +kernel) (by decide +kernel), ?_⟩
  refine complete (by decide +kernel) "a:2:m" (by decide +kernel) _ (by decide +kernel) (fun _ none => by cases none) ?_
  intro name mentioned
  rcases mentioned with empty | undefined
  · have capital : 'S' ∈ emptyText name := by
      unfold emptyText
      exact List.mem_append_left _ (List.mem_append_left _ (by decide +kernel))
    exact absurd (empty.subset capital) (by decide +kernel)
  · have capital : 'U' ∈ undefinedText name := by
      unfold undefinedText
      exact List.mem_append_left _ (List.mem_append_left _ (by decide +kernel))
    exact absurd (undefined.subset capital) (by decide +kernel)

end MarkupLint.Suppression
