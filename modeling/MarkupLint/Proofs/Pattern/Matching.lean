import MarkupLint.Pattern.Basic
import Mathlib.Data.List.Basic

set_option autoImplicit false

namespace MarkupLint.Pattern

def Repeats (body : List Char → List Char → List Char → Prop) : Nat → List Char → List Char → List Char → Prop
  | 0, _, inside, _ => inside = []
  | count + 1, before, inside, behind =>
      ∃ first rest, inside = first ++ rest ∧ body before first (rest ++ behind) ∧
        Repeats body count (before ++ first) rest behind

structure Allows (least : Nat) (extra : Option Nat) (count : Nat) : Prop where
  enough : least ≤ count
  bounded : ∀ more, extra = some more → count ≤ least + more

def Matches : Pattern → List Char → List Char → List Char → Prop
  | .empty, _, inside, _ => inside = []
  | .one set, _, inside, _ => ∃ c, inside = [c] ∧ set.contains c = true
  | .textStart, before, inside, _ => inside = [] ∧ before = []
  | .textEnd, _, inside, behind => inside = [] ∧ (behind = [] ∨ behind = ['\n'])
  | .lastEnd, _, inside, behind => inside = [] ∧ behind = []
  | .wordEdge wanted, before, inside, behind =>
      inside = [] ∧ (before ≠ [] ∨ behind ≠ []) ∧
        ((before.getLast?.any Text.isWordChar ≠ behind.head?.any Text.isWordChar) ↔ wanted = true)
  | .both first second, before, inside, behind =>
      ∃ left right, inside = left ++ right ∧ Matches first before left (right ++ behind) ∧
        Matches second (before ++ left) right behind
  | .either left right, before, inside, behind => Matches left before inside behind ∨ Matches right before inside behind
  | .times body least extra, before, inside, behind =>
      ∃ count, Allows least extra count ∧ Repeats (Matches body) count before inside behind

section Repetition

variable (body : List Char → List Char → List Char → Prop) (count : Nat) (before behind : List Char)

@[simp]
theorem repeats_nil : Repeats body count before [] behind ↔ count = 0 ∨ body before [] behind := by
  induction count with
  | zero => simp [Repeats]
  | succ count ih =>
      rw [or_iff_right (Nat.succ_ne_zero count), Repeats]
      constructor
      · rintro ⟨first, rest, split, once, -⟩
        obtain ⟨rfl, rfl⟩ := List.nil_eq_append_iff.mp split
        exact once
      · intro once
        exact ⟨[], [], rfl, once, by rw [List.append_nil]; exact ih.mpr (.inr once)⟩

-- The passes up to the first one that goes over a character match nothing, all at the same place.
theorem repeats_cons (c : Char) (inside : List Char) :
    Repeats body count before (c :: inside) behind ↔
      ∃ idle later, count = idle + 1 + later ∧ (idle = 0 ∨ body before [] (c :: inside ++ behind)) ∧
        ∃ first rest, inside = first ++ rest ∧ body before (c :: first) (rest ++ behind) ∧
          Repeats body later (before ++ [c] ++ first) rest behind := by
  constructor
  · intro passes
    induction count with
    | zero => cases passes
    | succ count ih =>
        obtain ⟨first, rest, split, once, others⟩ := passes
        cases first with
        | nil =>
            rw [List.nil_append] at split
            subst split
            rw [List.append_nil] at others
            obtain ⟨idle, later, counted, -, consumed⟩ := ih others
            exact ⟨idle + 1, later, by omega, .inr once, consumed⟩
        | cons d first =>
            obtain ⟨rfl, rfl⟩ := List.cons.inj split
            exact ⟨0, count, by omega, .inl rfl, first, rest, rfl, once, by simpa using others⟩
  · rintro ⟨idle, later, rfl, idles, first, rest, rfl, once, others⟩
    induction idle with
    | zero =>
        rw [Nat.zero_add, Nat.add_comm]
        exact ⟨c :: first, rest, rfl, once, by simpa using others⟩
    | succ idle ih =>
        have empty : body before [] (c :: (first ++ rest) ++ behind) := by simpa using idles
        have counted : idle + 1 + 1 + later = (idle + 1 + later) + 1 := by omega
        rw [counted]
        exact ⟨[], c :: (first ++ rest), rfl, empty, by rw [List.append_nil]; exact ih (.inr empty)⟩

end Repetition

-- After the pass over a character as many passes may follow as the whole repetition leaves, and where the body matches
-- nothing, the passes before it were as many as it takes.
theorem passes_left_iff (skipped : Bool) (least : Nat) (extra : Option Nat) (later : Nat) :
    (∃ idle, Allows least extra (idle + 1 + later) ∧ (idle = 0 ∨ skipped = true)) ↔
      ∃ due more, passesLeft skipped least extra = some (due, more) ∧ Allows due more later := by
  constructor
  · rintro ⟨idle, ⟨enough, bounded⟩, idles⟩
    match least, extra with
    | 0, none => exact ⟨0, none, rfl, ⟨Nat.zero_le _, nofun⟩⟩
    | 0, some 0 =>
        have := bounded 0 rfl
        omega
    | 0, some (extra + 1) =>
        have := bounded (extra + 1) rfl
        exact ⟨0, some extra, rfl, ⟨Nat.zero_le _, fun more same => by cases same; omega⟩⟩
    | least + 1, extra =>
        refine ⟨_, _, rfl, ?_, fun more same => ?_⟩
        · cases skipped with
          | true => exact Nat.zero_le _
          | false =>
              have : idle = 0 := by simpa using idles
              change least ≤ later
              omega
        · cases skipped with
          | true =>
              obtain ⟨own, rfl, rfl⟩ := Option.map_eq_some_iff.mp same
              have := bounded own rfl
              change later ≤ 0 + (least + own)
              omega
          | false =>
              have := bounded more same
              change later ≤ least + more
              omega
  · rintro ⟨due, more, found, enough, bounded⟩
    match least, extra with
    | 0, none => exact ⟨0, ⟨Nat.zero_le _, nofun⟩, .inl rfl⟩
    | 0, some 0 => cases found
    | 0, some (extra + 1) =>
        cases found
        have := bounded extra rfl
        exact ⟨0, ⟨Nat.zero_le _, fun more same => by cases same; omega⟩, .inl rfl⟩
    | least + 1, extra =>
        cases skipped with
        | true =>
            cases found
            refine ⟨least - later, ⟨by omega, fun more same => ?_⟩, .inr rfl⟩
            subst same
            have := bounded (least + more) rfl
            omega
        | false =>
            cases found
            refine ⟨0, ⟨by omega, fun more same => ?_⟩, .inl rfl⟩
            have := bounded more same
            omega

theorem skips_iff (pattern : Pattern) (before behind : List Char) :
    skips ⟨before.getLast?, behind⟩ pattern = true ↔ Matches pattern before [] behind := by
  induction pattern with
  | empty => simp [skips, Matches]
  | one set => simp [skips, Matches]
  | textStart => simp [skips, Matches, Place.atStart]
  | textEnd => simp [skips, Matches, Place.atEnd]
  | lastEnd => simp [skips, Matches, Place.atLastEnd]
  | wordEdge wanted =>
      simp only [skips, Matches, Place.atStart, Place.atLastEnd, Place.atWordEdge]
      cases wanted <;> simp
  | both first second firstIH secondIH =>
      simp only [skips, Bool.and_eq_true, firstIH, secondIH, Matches, List.nil_eq_append_iff]
      constructor
      · rintro ⟨one, two⟩
        exact ⟨[], [], ⟨rfl, rfl⟩, one, by rwa [List.append_nil]⟩
      · rintro ⟨left, right, ⟨rfl, rfl⟩, one, two⟩
        exact ⟨one, by rwa [List.append_nil] at two⟩
  | either left right leftIH rightIH => simp only [skips, Bool.or_eq_true, leftIH, rightIH, Matches]
  | times body least extra ih =>
      simp only [skips, Bool.or_eq_true, decide_eq_true_eq, ih, Matches, repeats_nil]
      constructor
      · rintro (rfl | once)
        · exact ⟨0, ⟨Nat.le_refl 0, fun _ _ => Nat.zero_le _⟩, .inl rfl⟩
        · exact ⟨least, ⟨Nat.le_refl least, fun _ _ => Nat.le_add_right _ _⟩, .inr once⟩
      · rintro ⟨count, allowed, rfl | once⟩
        · exact .inl (Nat.le_zero.mp allowed.enough)
        · exact .inr once

theorem matches_and_then (first second : Pattern) (before inside behind : List Char) :
    Matches (first.andThen second) before inside behind ↔ Matches (.both first second) before inside behind := by
  cases first with
  | empty => simp [andThen, Matches]
  | one | textStart | textEnd | lastEnd | wordEdge | both | either | times => exact Iff.rfl

theorem mem_after_both (place : Place) (c : Char) (first second left : Pattern) :
    left ∈ after place c (.both first second) ↔
      (∃ own ∈ after place c first, left = own.andThen second) ∨ skips place first = true ∧ left ∈ after place c second := by
  by_cases skipped : skips place first = true
  · simp [after, skipped, eq_comm]
  · simp [after, skipped, eq_comm]

theorem mem_after_times (place : Place) (c : Char) (body left : Pattern) (least : Nat) (extra : Option Nat) :
    left ∈ after place c (.times body least extra) ↔
      ∃ due more, passesLeft (skips place body) least extra = some (due, more) ∧
        ∃ own ∈ after place c body, left = own.andThen (.times body due more) := by
  rw [after]
  cases found : passesLeft (skips place body) least extra with
  | none => simp
  | some passes =>
      obtain ⟨due, more⟩ := passes
      simp [eq_comm]

theorem after_iff (pattern : Pattern) (before : List Char) (c : Char) (inside behind : List Char) :
    Matches pattern before (c :: inside) behind ↔
      ∃ left ∈ after ⟨before.getLast?, c :: (inside ++ behind)⟩ c pattern, Matches left (before ++ [c]) inside behind := by
  induction pattern generalizing inside behind with
  | empty => simp [Matches, after]
  | one set =>
      by_cases held : set.contains c = true
      · simp [Matches, after, held]
      · simp [Matches, after, held]
  | textStart | textEnd | lastEnd | wordEdge => simp [Matches, after]
  | both first second firstIH secondIH =>
      simp only [mem_after_both]
      constructor
      · rintro ⟨left, right, split, one, two⟩
        rcases List.cons_eq_append_iff.mp split with ⟨rfl, rfl⟩ | ⟨rest, rfl, rfl⟩
        · rw [List.append_nil] at two
          obtain ⟨own, member, matched⟩ := (secondIH inside behind).mp two
          exact ⟨own, .inr ⟨(skips_iff first before _).mpr one, member⟩, matched⟩
        · obtain ⟨own, member, matched⟩ := (firstIH rest (right ++ behind)).mp one
          rw [← List.append_assoc] at member
          refine ⟨_, .inl ⟨own, member, rfl⟩, (matches_and_then own second _ _ _).mpr ?_⟩
          exact ⟨rest, right, rfl, matched, by rwa [List.append_assoc]⟩
      · rintro ⟨_, ⟨own, member, rfl⟩ | ⟨skipped, member⟩, matched⟩
        · obtain ⟨rest, right, rfl, one, two⟩ := (matches_and_then own second _ _ _).mp matched
          rw [List.append_assoc] at member
          refine ⟨c :: rest, right, rfl, (firstIH rest (right ++ behind)).mpr ⟨own, member, one⟩, ?_⟩
          rwa [List.append_assoc] at two
        · refine ⟨[], c :: inside, rfl, (skips_iff first before _).mp skipped, ?_⟩
          rw [List.append_nil]
          exact (secondIH inside behind).mpr ⟨_, member, matched⟩
  | either left right leftIH rightIH =>
      simp only [Matches, after, leftIH, rightIH, List.mem_append, or_and_right, exists_or]
  | times body least extra ih =>
      simp only [mem_after_times]
      have idle := skips_iff body before (c :: (inside ++ behind))
      constructor
      · rintro ⟨count, allowed, passes⟩
        obtain ⟨idles, later, rfl, skipped, first, rest, rfl, once, others⟩ := (repeats_cons _ _ _ _ _ _).mp passes
        obtain ⟨due, more, found, allowedLater⟩ :=
          (passes_left_iff _ least extra later).mp ⟨idles, allowed, skipped.imp_right idle.mpr⟩
        obtain ⟨own, member, matched⟩ := (ih first (rest ++ behind)).mp once
        rw [← List.append_assoc] at member
        refine ⟨_, ⟨due, more, found, own, member, rfl⟩, (matches_and_then own _ _ _ _).mpr ?_⟩
        exact ⟨first, rest, rfl, matched, later, allowedLater, others⟩
      · rintro ⟨_, ⟨due, more, found, own, member, rfl⟩, matched⟩
        obtain ⟨first, rest, rfl, one, later, allowedLater, others⟩ := (matches_and_then own _ _ _ _).mp matched
        obtain ⟨idles, allowed, skipped⟩ := (passes_left_iff _ least extra later).mpr ⟨due, more, found, allowedLater⟩
        rw [List.append_assoc] at member
        have once := (ih first (rest ++ behind)).mpr ⟨own, member, one⟩
        refine ⟨idles + 1 + later, allowed, (repeats_cons _ _ _ _ _ _).mpr ?_⟩
        exact ⟨idles, later, rfl, skipped.imp_right idle.mp, first, rest, rfl, once, others⟩

@[simp]
theorem contains_range (negated : Bool) (first last c : Char) :
    CharClass.contains ⟨negated, [.range first last]⟩ c = ((decide (first ≤ c) && decide (c ≤ last)) != negated) := by
  simp [CharClass.contains, ClassItem.holds]

@[simp]
theorem char_within_iff (c d : Char) : (decide (c ≤ d) && decide (d ≤ c)) = decide (d = c) := by
  rw [← Bool.decide_and, decide_eq_decide]
  exact ⟨fun within => Char.le_antisymm within.2 within.1, fun same => same ▸ ⟨Char.le_refl d, Char.le_refl d⟩⟩

@[simp]
theorem matches_char (c : Char) (before inside behind : List Char) :
    Matches (.char c) before inside behind ↔ inside = [c] := by
  simp [char, Matches]

theorem matches_chars (text : List Char) (pattern : Pattern) (before inside behind : List Char) :
    Matches (text.foldr (fun c rest => .both (.char c) rest) pattern) before inside behind ↔
      ∃ rest, inside = text ++ rest ∧ Matches pattern (before ++ text) rest behind := by
  induction text generalizing before inside with
  | nil => simp
  | cons c text ih =>
      simp only [List.foldr_cons, Matches, matches_char, ih]
      constructor
      · rintro ⟨_, _, rfl, rfl, rest, rfl, matched⟩
        exact ⟨rest, rfl, by simpa using matched⟩
      · rintro ⟨rest, rfl, matched⟩
        exact ⟨[c], text ++ rest, rfl, rfl, rest, rfl, by simpa using matched⟩

theorem repeats_one (set : CharClass) (count : Nat) (before inside behind : List Char) :
    Repeats (Matches (.one set)) count before inside behind ↔
      inside.length = count ∧ ∀ c ∈ inside, set.contains c = true := by
  induction count generalizing before inside with
  | zero => simp +contextual [Repeats]
  | succ count ih =>
      simp only [Repeats, ih]
      constructor
      · rintro ⟨_, rest, rfl, ⟨c, rfl, held⟩, rfl, others⟩
        exact ⟨by simp, List.forall_mem_cons.mpr ⟨held, others⟩⟩
      · rintro ⟨counted, all⟩
        cases inside with
        | nil => cases counted
        | cons c rest =>
            rw [List.forall_mem_cons] at all
            exact ⟨[c], rest, rfl, ⟨c, rfl, all.1⟩, Nat.succ.inj counted, all.2⟩

theorem matches_row (set : CharClass) (least : Nat) (before inside behind : List Char) :
    Matches (.times (.one set) least none) before inside behind ↔
      least ≤ inside.length ∧ ∀ c ∈ inside, set.contains c = true := by
  constructor
  · rintro ⟨count, allowed, passes⟩
    obtain ⟨rfl, all⟩ := (repeats_one set count before inside behind).mp passes
    exact ⟨allowed.enough, all⟩
  · rintro ⟨enough, all⟩
    exact ⟨inside.length, ⟨enough, nofun⟩, (repeats_one set _ before inside behind).mpr ⟨rfl, all⟩⟩

def Succeeds (pattern : Pattern) (before text : List Char) : Prop :=
  ∃ inside behind, text = inside ++ behind ∧ Matches pattern before inside behind

@[simp]
theorem succeeds_nil (pattern : Pattern) (before : List Char) :
    Succeeds pattern before [] ↔ skips ⟨before.getLast?, []⟩ pattern = true := by
  rw [skips_iff]
  constructor
  · rintro ⟨inside, behind, split, matched⟩
    obtain ⟨rfl, rfl⟩ := List.nil_eq_append_iff.mp split
    exact matched
  · exact fun matched => ⟨[], [], rfl, matched⟩

theorem succeeds_cons (pattern : Pattern) (before : List Char) (c : Char) (rest : List Char) :
    Succeeds pattern before (c :: rest) ↔ skips ⟨before.getLast?, c :: rest⟩ pattern = true ∨
      ∃ left ∈ after ⟨before.getLast?, c :: rest⟩ c pattern, Succeeds left (before ++ [c]) rest := by
  rw [skips_iff]
  constructor
  · rintro ⟨inside, behind, split, matched⟩
    rcases List.cons_eq_append_iff.mp split with ⟨rfl, rfl⟩ | ⟨inside, rfl, rfl⟩
    · exact .inl matched
    · obtain ⟨left, member, later⟩ := (after_iff pattern before c inside behind).mp matched
      exact .inr ⟨left, member, inside, behind, rfl, later⟩
  · rintro (matched | ⟨left, member, inside, behind, rfl, later⟩)
    · exact ⟨[], c :: rest, rfl, matched⟩
    · exact ⟨c :: inside, behind, rfl, (after_iff pattern before c inside behind).mpr ⟨left, member, later⟩⟩

theorem succeeds_further_cons (pattern : Pattern) (before : List Char) (c : Char) (rest : List Char) :
    (∃ passed behind, c :: rest = passed ++ behind ∧ Succeeds pattern (before ++ passed) behind) ↔
      Succeeds pattern before (c :: rest) ∨
        ∃ passed behind, rest = passed ++ behind ∧ Succeeds pattern (before ++ [c] ++ passed) behind := by
  constructor
  · rintro ⟨passed, behind, split, succeeds⟩
    rcases List.cons_eq_append_iff.mp split with ⟨rfl, rfl⟩ | ⟨passed, rfl, rfl⟩
    · exact .inl (by rwa [List.append_nil] at succeeds)
    · exact .inr ⟨passed, behind, rfl, by rwa [List.append_assoc]⟩
  · rintro (succeeds | ⟨passed, behind, rfl, succeeds⟩)
    · exact ⟨[], c :: rest, rfl, by rwa [List.append_nil]⟩
    · exact ⟨c :: passed, behind, rfl, by rwa [List.append_assoc] at succeeds⟩

-- An attempt that was begun before goes on from here, or a new one begins here or further on.
theorem found_from_iff (pattern : Pattern) (pending : List Pattern) (before text : List Char) :
    foundFrom pattern before.getLast? pending text = true ↔
      (∃ left ∈ pending, Succeeds left before text) ∨
      ∃ passed rest, text = passed ++ rest ∧ Succeeds pattern (before ++ passed) rest := by
  induction text generalizing pending before with
  | nil =>
      simp only [List.nil_eq_append_iff, exists_and_left, exists_eq_left, and_assoc, List.append_nil, succeeds_nil,
        foundFrom, List.any_cons, Bool.or_eq_true, List.any_eq_true]
      exact or_comm
  | cons c rest ih =>
      let place : Place := ⟨before.getLast?, c :: rest⟩
      have later := ih ((pattern :: pending).flatMap (after place c)).eraseDups (before ++ [c])
      rw [List.getLast?_concat] at later
      have here : (∃ left ∈ pattern :: pending, Succeeds left before (c :: rest)) ↔
          (∃ left ∈ pattern :: pending, skips place left = true) ∨
            ∃ left ∈ ((pattern :: pending).flatMap (after place c)).eraseDups, Succeeds left (before ++ [c]) rest := by
        simp only [succeeds_cons, List.mem_eraseDups, List.mem_flatMap, and_or_left, exists_or]
        refine or_congr_right ⟨?_, ?_⟩
        · rintro ⟨left, member, next, follows, succeeds⟩
          exact ⟨next, ⟨left, member, follows⟩, succeeds⟩
        · rintro ⟨next, ⟨left, member, follows⟩, succeeds⟩
          exact ⟨left, member, next, follows, succeeds⟩
      rw [foundFrom, Bool.or_eq_true, later, List.any_eq_true, ← or_assoc, ← here, succeeds_further_cons, ← or_assoc,
        List.exists_mem_cons_iff, or_comm (a := Succeeds pattern before (c :: rest))]

theorem found_in_iff (pattern : Pattern) (text : String) :
    pattern.foundIn text = true ↔
      ∃ before inside behind, text.toList = before ++ inside ++ behind ∧ Matches pattern before inside behind := by
  have searched := found_from_iff pattern [] [] text.toList
  simp only [List.not_mem_nil, false_and, exists_false, false_or, List.nil_append] at searched
  rw [foundIn]
  refine searched.trans ⟨?_, ?_⟩
  · rintro ⟨before, rest, split, inside, behind, rfl, matched⟩
    exact ⟨before, inside, behind, by rw [split, List.append_assoc], matched⟩
  · rintro ⟨before, inside, behind, split, matched⟩
    exact ⟨before, inside ++ behind, by rw [split, List.append_assoc], inside, behind, rfl, matched⟩

end MarkupLint.Pattern
