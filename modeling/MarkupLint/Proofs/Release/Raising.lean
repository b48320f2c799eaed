import MarkupLint.Proofs.Release.Version

set_option autoImplicit false

namespace MarkupLint

theorem ReleaseKind.of_name_iff (name : String) (kind : ReleaseKind) :
    ReleaseKind.ofName? name = some kind ↔ name ∈ kind.names := by
  constructor
  · intro found
    simpa using List.find?_some found
  · intro member
    cases kind with
    | patch =>
        obtain rfl | rfl := List.mem_pair.mp member
        · decide
        · decide
    | minor =>
        obtain rfl | rfl := List.mem_pair.mp member
        · decide
        · decide
    | major =>
        obtain rfl | rfl := List.mem_pair.mp member
        · decide
        · decide

namespace Version

open Text (digitsValue maxDigits)

structure Raisable (digits : List Char) : Prop where
  readable : digits.length ≤ maxDigits
  writable : digitsValue digits + 1 < 10 ^ maxDigits

def raised (version : Version) (kind : ReleaseKind) : Version :=
  version.withPart (Nat.toDigits 10 (digitsValue (version.part kind) + 1)) kind

def raisedNumbers (version : Version) : ReleaseKind → ℕ ×ₗ ℕ ×ₗ ℕ
  | .patch => toLex (digitsValue version.major, toLex (digitsValue version.minor, digitsValue version.patch + 1))
  | .minor => toLex (digitsValue version.major, toLex (digitsValue version.minor + 1, 0))
  | .major => toLex (digitsValue version.major + 1, toLex (0, 0))

theorem spells_unique (text : String) (version other : Version) (spelled : Spells text version)
    (again : Spells text other) : version = other :=
  Option.some.inj (((read_iff text version).mpr spelled).symm.trans ((read_iff text other).mpr again))

theorem next_raisable (digits : List Char) (written : Text.IsRow digits) (room : Raisable digits) :
    next digits = .ok (Nat.toDigits 10 (digitsValue digits + 1)) := by
  have fits : (Nat.toDigits 10 (digitsValue digits + 1)).length ≤ maxDigits :=
    (Nat.length_toDigits_le_iff (by decide) (by decide)).mpr room.writable
  rw [next_eq digits written, if_neg (Nat.not_lt.mpr room.readable), if_neg (Nat.not_lt.mpr fits)]

theorem bump_text_ok_iff (text name result : String) :
    bumpText text name = .ok result ↔ ∃ kind version, name ∈ ReleaseKind.names kind ∧ Spells text version ∧
      Raisable (version.part kind) ∧ result = toString (version.raised kind) := by
  constructor
  · intro made
    cases known : ReleaseKind.ofName? name with
    | none => simp [bumpText, known] at made
    | some kind =>
        cases read : read? text with
        | none => simp [bumpText, known, read] at made
        | some version =>
            have spelled := (read_iff text version).mp read
            have row := version.part_row kind spelled.written
            rw [bump_text_eq text name version kind spelled known] at made
            cases counts : next (version.part kind) with
            | error cause =>
                rw [counts] at made
                cases made
            | ok digits =>
                have room := (next_ok_iff _ row).mp ⟨digits, counts⟩
                have raisable : Raisable (version.part kind) := ⟨room.1, room.2⟩
                rw [next_raisable _ row raisable] at made
                exact ⟨kind, version, (ReleaseKind.of_name_iff name kind).mp known, spelled, raisable,
                  (Except.ok.inj made).symm⟩
  · rintro ⟨kind, version, named, spelled, raisable, rfl⟩
    have known := (ReleaseKind.of_name_iff name kind).mpr named
    rw [bump_text_eq text name version kind spelled known,
      next_raisable _ (version.part_row kind spelled.written) raisable]
    rfl

theorem bump_text_accepts_iff (text name : String) (kind : ReleaseKind) (version : Version) (named : name ∈ kind.names)
    (spelled : Spells text version) : (∃ result, bumpText text name = .ok result) ↔ Raisable (version.part kind) := by
  constructor
  · rintro ⟨result, made⟩
    obtain ⟨other, same, also, again, raisable, -⟩ := (bump_text_ok_iff text name result).mp made
    have known := (ReleaseKind.of_name_iff name other).mpr also
    rw [(ReleaseKind.of_name_iff name kind).mpr named, Option.some.injEq] at known
    rwa [known, spells_unique text version same spelled again]
  · intro raisable
    exact ⟨_, (bump_text_ok_iff text name _).mpr ⟨kind, version, named, spelled, raisable, rfl⟩⟩

theorem raised_spelled (version : Version) (kind : ReleaseKind) (written : version.Written) :
    Spells (toString (version.raised kind)) (version.raised kind) :=
  spells_to_string _ (version.with_part_written kind _ written (Text.written_row _))

theorem numbers_raised (version : Version) (kind : ReleaseKind) :
    (version.raised kind).numbers = version.raisedNumbers kind := by
  have zero : digitsValue ['0'] = 0 := by decide
  cases kind with
  | patch | minor | major => simp [raised, withPart, part, numbers, raisedNumbers, zero]

theorem numbers_lt_raised (version : Version) (kind : ReleaseKind) : version.numbers < (version.raised kind).numbers :=
  (version.lt_with_part_iff version kind _ (Text.digits_value_written _)).mpr le_rfl

def bumpAll (text : String) : List String → Except VersionError (List String)
  | [] => .ok []
  | name :: names => do
      let raised ← bumpText text name
      return raised :: (← bumpAll raised names)

def Below (text other : String) : Prop :=
  ∃ version later, Spells text version ∧ Spells other later ∧ version.numbers < later.numbers

theorem below_trans (first second third : String) (below : Below first second) (above : Below second third) :
    Below first third := by
  obtain ⟨lower, middle, spelled, between, less⟩ := below
  obtain ⟨same, upper, again, last, more⟩ := above
  rw [spells_unique second same middle again between] at more
  exact ⟨lower, upper, spelled, last, less.trans more⟩

theorem bump_text_below (text name result : String) (made : bumpText text name = .ok result) : Below text result := by
  obtain ⟨kind, version, -, spelled, -, rfl⟩ := (bump_text_ok_iff text name result).mp made
  exact ⟨version, version.raised kind, spelled, version.raised_spelled kind spelled.written, version.numbers_lt_raised kind⟩

theorem bump_all_cons (text name : String) (names texts : List String) :
    bumpAll text (name :: names) = .ok texts ↔
      ∃ result later, bumpText text name = .ok result ∧ bumpAll result names = .ok later ∧ texts = result :: later := by
  rw [bumpAll]
  cases bumpText text name with
  | error cause => simp [bind, Except.bind]
  | ok result =>
      cases made : bumpAll result names with
      | error cause => simp [bind, Except.bind, made]
      | ok later => simp [bind, Except.bind, pure, Except.pure, made, eq_comm]

theorem bump_all_increases (text : String) (names texts : List String) (made : bumpAll text names = .ok texts) :
    (text :: texts).Pairwise Below := by
  induction names generalizing text texts with
  | nil =>
      cases made
      exact List.pairwise_singleton _ _
  | cons name names ih =>
      obtain ⟨result, later, first, others, rfl⟩ := (bump_all_cons text name names texts).mp made
      have increases := ih result later others
      have step := bump_text_below text name result first
      refine List.pairwise_cons.mpr ⟨List.forall_mem_cons.mpr ⟨step, fun last member => ?_⟩, increases⟩
      exact below_trans text result last step ((List.pairwise_cons.mp increases).1 last member)

def Room (version : Version) (count : Nat) : Prop :=
  ∀ kind, (version.part kind).length ≤ maxDigits ∧ digitsValue (version.part kind) + count < 10 ^ maxDigits

theorem part_raised (version : Version) (kind other : ReleaseKind) :
    (version.raised kind).part other = Nat.toDigits 10 (digitsValue (version.part kind) + 1) ∨
      (version.raised kind).part other = ['0'] ∨ (version.raised kind).part other = version.part other := by
  cases kind with
  | patch => cases other <;> simp [raised, withPart, part]
  | minor => cases other <;> simp [raised, withPart, part]
  | major => cases other <;> simp [raised, withPart, part]

theorem room_raised (version : Version) (kind : ReleaseKind) (count : Nat) (room : version.Room (count + 1)) :
    (version.raised kind).Room count := by
  intro other
  have own := room other
  rcases version.part_raised kind other with counted | zero | kept
  · have part := room kind
    rw [counted, Text.digits_value_written, Nat.length_toDigits_le_iff (by decide) (by decide)]
    omega
  · have zeroValue : digitsValue ['0'] = 0 := by decide
    have single : ['0'].length ≤ maxDigits := by decide
    rw [zero, zeroValue]
    omega
  · rw [kept]
    omega

theorem bump_all_room (text : String) (version : Version) (names : List String)
    (known : ∀ name ∈ names, ∃ kind, name ∈ ReleaseKind.names kind) (spelled : Spells text version)
    (room : version.Room names.length) : ∃ texts, texts.length = names.length ∧ bumpAll text names = .ok texts := by
  induction names generalizing text version with
  | nil => exact ⟨[], rfl, rfl⟩
  | cons name names ih =>
      obtain ⟨⟨kind, named⟩, others⟩ := List.forall_mem_cons.mp known
      rw [List.length_cons] at room
      have raisable : Raisable (version.part kind) := ⟨(room kind).1, by have := (room kind).2; omega⟩
      have first := (bump_text_ok_iff text name _).mpr ⟨kind, version, named, spelled, raisable, rfl⟩
      obtain ⟨later, counted, made⟩ :=
        ih _ _ others (version.raised_spelled kind spelled.written) (version.room_raised kind names.length room)
      exact ⟨_ :: later, by simp [counted], (bump_all_cons text name names _).mpr ⟨_, later, first, made, rfl⟩⟩

/-- A release raises one number and sets those below it to zero. It is made exactly if the text begins with a version,
the kind of release is known and the part to be raised leaves room for its next number. What it makes is such a text
again, and releases one after the other only go up. -/
theorem bump_text_raises (text name : String) :
    (∀ kind version, name ∈ ReleaseKind.names kind → Spells text version → Raisable (version.part kind) →
      ∃ result raised, bumpText text name = .ok result ∧ Spells result raised ∧
        raised.numbers = version.raisedNumbers kind ∧ version.numbers < raised.numbers ∧
        ∀ again other, again ∈ ReleaseKind.names other →
          ((∃ later, bumpText result again = .ok later) ↔ Raisable (raised.part other))) ∧
    ((¬ ∃ kind version, name ∈ ReleaseKind.names kind ∧ Spells text version ∧ Raisable (version.part kind)) →
      ∃ cause, bumpText text name = .error cause) ∧
    (∀ names texts, bumpAll text names = .ok texts → (text :: texts).Pairwise Below) ∧
    ∀ names version, (∀ each ∈ names, ∃ kind, each ∈ ReleaseKind.names kind) → Spells text version →
      version.Room names.length → ∃ texts, texts.length = names.length ∧ bumpAll text names = .ok texts := by
  refine ⟨fun kind version named spelled raisable => ?_, fun refused => ?_, bump_all_increases text, fun names version =>
    bump_all_room text version names⟩
  · have made := (bump_text_ok_iff text name _).mpr ⟨kind, version, named, spelled, raisable, rfl⟩
    have again := version.raised_spelled kind spelled.written
    exact ⟨_, _, made, again, version.numbers_raised kind, version.numbers_lt_raised kind, fun later other known =>
      bump_text_accepts_iff _ later other _ known again⟩
  · cases made : bumpText text name with
    | error cause => exact ⟨cause, rfl⟩
    | ok result =>
        obtain ⟨kind, version, named, spelled, raisable, -⟩ := (bump_text_ok_iff text name result).mp made
        exact absurd ⟨kind, version, named, spelled, raisable⟩ refused

/-- A nought in front, a digit of another script and words behind the version. -/
theorem bump_text_raises_suffix :
    let version : Version := ⟨['0', '1'], ['9'], ['٣']⟩
    let names := ["feature", "bugfix", "breaking"]
    Spells "01.9.٣-rc1" version ∧ Raisable version.minor ∧ version.Room 3 ∧
    bumpText "01.9.٣-rc1" "feature" = .ok "v01.10.0" ∧
    (∃ raised, Spells "v01.10.0" raised ∧ raised.numbers = toLex (1, toLex (10, 0)) ∧ version.numbers < raised.numbers) ∧
    bumpAll "01.9.٣-rc1" names = .ok ["v01.10.0", "v01.10.1", "v2.0.0"] ∧
    ["01.9.٣-rc1", "v01.10.0", "v01.10.1", "v2.0.0"].Pairwise Below ∧ (∃ texts, bumpAll "01.9.٣-rc1" names = .ok texts) ∧
    ∃ cause, bumpText "v1.2" "patch" = .error cause := by
  intro version names
  have spelled : Spells "01.9.٣-rc1" version := (read_iff _ _).mp (by decide +kernel)
  have raisable : Raisable version.minor := ⟨by decide, by decide +kernel⟩
  have room : version.Room 3 := by
    intro kind
    cases kind <;> decide +kernel
  have made : bumpText "01.9.٣-rc1" "feature" = .ok "v01.10.0" := by decide +kernel
  have all : bumpAll "01.9.٣-rc1" names = .ok ["v01.10.0", "v01.10.1", "v2.0.0"] := by decide +kernel
  have known : ∀ each ∈ names, ∃ kind, each ∈ ReleaseKind.names kind := by
    refine List.forall_mem_cons.mpr ⟨⟨.minor, by decide⟩, List.forall_mem_cons.mpr ⟨⟨.patch, by decide⟩, ?_⟩⟩
    exact List.forall_mem_singleton.mpr ⟨.major, by decide⟩
  obtain ⟨raises, -, increases, lasts⟩ := bump_text_raises "01.9.٣-rc1" "feature"
  obtain ⟨result, raised, same, again, counted, less, -⟩ := raises .minor version (by decide) spelled raisable
  have first : result = "v01.10.0" := Except.ok.inj (same.symm.trans made)
  obtain ⟨texts, -, ends⟩ := lasts names version known spelled room
  refine ⟨spelled, raisable, room, made, ⟨raised, first ▸ again, counted.trans (by decide), less⟩, all,
    increases names _ all, ⟨texts, ends⟩, ?_⟩
  refine (bump_text_raises "v1.2" "patch").2.1 ?_
  rintro ⟨kind, short, -, begins, -⟩
  have unread : read? "v1.2" = none := by decide +kernel
  rw [(read_iff _ _).mpr begins] at unread
  cases unread

theorem digits_value_nines (count : Nat) : digitsValue (List.replicate count '9') + 1 = 10 ^ count := by
  induction count with
  | zero => rfl
  | succ count ih =>
      have nine : digitsValue ['9'] = 9 := by decide
      rw [List.replicate_succ, Text.digits_value_cons, nine, List.length_replicate, Nat.pow_succ]
      omega

theorem replicate_row (count : Nat) (c : Char) (filled : count ≠ 0) (digit : Text.isDigit c = true) :
    Text.IsRow (List.replicate count c) :=
  ⟨by simpa using filled, fun other member => (List.eq_of_mem_replicate member) ▸ digit⟩

/-- As many nines as a number may have digits are read, but their next number is not written; and one nought more does
no harm in a part that is not raised. -/
theorem bump_text_at_limit :
    let nines : Version := ⟨List.replicate maxDigits '9', ['0'], ['0']⟩
    let noughts : Version := ⟨List.replicate (maxDigits + 1) '0', ['0'], ['0']⟩
    Spells (toString nines) nines ∧ (∀ kind, (nines.part kind).length ≤ maxDigits) ∧
    bumpText (toString nines) "major" = .error .tooLong ∧
    maxDigits < noughts.major.length ∧
    bumpText (toString noughts) "patch" = .ok (toString { noughts with patch := ['1'] }) := by
  intro nines noughts
  have zero : Text.IsRow ['0'] := by decide
  have spelled : Spells (toString nines) nines :=
    spells_to_string nines ⟨replicate_row maxDigits '9' (by decide) (by decide), zero, zero⟩
  have other : Spells (toString noughts) noughts :=
    spells_to_string noughts ⟨replicate_row _ '0' (by decide) (by decide), zero, zero⟩
  have wide : nines.major.length = maxDigits := List.length_replicate
  refine ⟨spelled, ?_, ?_, ?_, ?_⟩
  · intro kind
    cases kind with
    | patch => decide
    | minor => decide
    | major => exact wide.le
  · have long : maxDigits < (Nat.toDigits 10 (digitsValue nines.major + 1)).length := by
      rw [← Nat.not_le, Nat.length_toDigits_le_iff (by decide) (by decide), digits_value_nines]
      exact lt_irrefl _
    rw [bump_text_eq _ "major" nines .major spelled (by decide), part, next_eq _ spelled.written.major,
      if_neg (by rw [wide]; exact lt_irrefl _), if_pos long]
    rfl
  · exact (List.length_replicate (n := maxDigits + 1) (a := '0')) ▸ Nat.lt_succ_self maxDigits
  · have counted : next noughts.patch = .ok ['1'] := by decide +kernel
    rw [bump_text_eq _ "patch" noughts .patch other (by decide), part, counted]
    rfl

end Version

end MarkupLint
