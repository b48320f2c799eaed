import MarkupLint.Format.JsonReader
import MarkupLint.Proofs.Text.Search

set_option autoImplicit false

namespace MarkupLint.Json

def Within {α : Type} (count : Nat) : Except ReadError (α × List Char) → Prop
  | .ok (_, rest) => rest.length ≤ count
  | .error (.fault _ left) => left ≤ count
  | .error _ => True

theorem within_bind {α β : Type} (count : Nat) (first : Except ReadError (α × List Char))
    (then_ : α × List Char → Except ReadError (β × List Char)) (within : Within count first)
    (goes : ∀ value rest, rest.length ≤ count → Within count (then_ (value, rest))) : Within count (first >>= then_) := by
  cases first with
  | ok read => exact goes read.1 read.2 within
  | error cause =>
      cases cause with
      | fault kind left => exact within
      | longNumber digits => trivial
      | tooDeep kind => trivial

theorem skip_space_within (count : Nat) (text : List Char) (within : text.length ≤ count) :
    (skipSpace text).length ≤ count :=
  (List.length_dropWhile_le isSpace text).trans within

theorem skip_past_within (count : Nat) (c : Char) (text rest : List Char) (within : text.length ≤ count)
    (found : skipSpace text = c :: rest) : rest.length ≤ count := by
  have skipped := skip_space_within count text within
  rw [found] at skipped
  exact Nat.le_of_succ_le skipped

theorem four_hex_shorter (text rest : List Char) (code : Nat) (read : fourHex? text = some (code, rest)) :
    rest.length ≤ text.length := by
  fun_cases fourHex? text with
  | case1 a b c d next after hex =>
      rw [fourHex?, if_pos hex] at read
      cases read
      simp only [List.length_cons]
      omega
  | case2 a b c d next after other =>
      rw [fourHex?, if_neg other] at read
      cases read
  | case3 text short => simp [fourHex?.eq_2 text short] at read

theorem unicode_char_shorter (code : Nat) (rest : List Char) : (unicodeChar code rest).2.length ≤ rest.length := by
  fun_cases unicodeChar code rest with
  | case1 pair after low afterLow read =>
      have shorter := four_hex_shorter after afterLow low read
      simp only [List.length_cons]
      omega
  | _ => exact le_rfl

theorem read_string_within (start : List Char) (count fuel : Nat) (done text : List Char) (starts : start.length ≤ count)
    (within : text.length ≤ count) : Within count (readString start fuel done text) := by
  fun_induction readString start fuel done text with
  | case1 => exact starts
  | case2 => exact starts
  | case3 => exact Nat.le_of_succ_le within
  | case4 => exact starts
  | case5 => exact Nat.le_of_succ_le within
  | case6 fuel done after code afterCode read bad plain =>
      have shorter := four_hex_shorter after afterCode code read
      change (afterCode.drop 1).length ≤ count
      simp only [List.length_cons, List.length_drop] at within ⊢
      omega
  | case7 fuel done after code afterCode read good char remaining made plain ih =>
      have shorter := four_hex_shorter after afterCode code read
      have left := unicode_char_shorter code afterCode
      simp only [made, List.length_cons] at left within
      exact ih (by omega)
  | case8 fuel done letter after other char escaped plain ih =>
      exact ih (Nat.le_of_succ_le (Nat.le_of_succ_le within))
  | case9 => exact within
  | case10 => exact within
  | case11 fuel done c rest quote escape shown ih => exact ih (Nat.le_of_succ_le within)

theorem fraction_shorter (text : List Char) : (fraction text).2.length ≤ text.length := by
  fun_cases fraction text with
  | case1 => exact le_rfl
  | case2 rest digits filled =>
      change (rest.drop digits.length).length ≤ _
      simp only [List.length_drop, List.length_cons]
      omega
  | case3 => exact le_rfl

theorem exponent_shorter (text : List Char) : (exponent text).2.length ≤ text.length := by
  fun_cases exponent text with
  | case1 => exact le_rfl
  | case2 => exact le_rfl
  | case3 mark rest marked sign digits filled =>
      change (rest.drop (sign.length + digits.length)).length ≤ _
      simp only [List.length_drop, List.length_cons]
      omega
  | case4 => exact le_rfl

theorem read_number_within (count : Nat) (text : List Char) (within : text.length ≤ count) :
    Within count (readNumber text) := by
  unfold readNumber
  extract_lets sign whole
  split
  · exact within
  · have fractionLeft := fraction_shorter (text.drop (sign.length + whole.length))
    have exponentLeft := exponent_shorter (fraction (text.drop (sign.length + whole.length))).2
    rw [List.length_drop] at fractionLeft
    dsimp only
    split
    · trivial
    · change (exponent _).2.length ≤ count
      omega

theorem read_scalar_within (count : Nat) (text : List Char) (within : text.length ≤ count) :
    Within count (readScalar text) := by
  rw [readScalar]
  split
  · next found word =>
      obtain ⟨⟨spelling, value⟩, -, begins⟩ := List.exists_of_findSome?_eq_some word
      obtain ⟨rest, cut, rfl⟩ := Option.map_eq_some_iff.mp begins
      rw [(Text.drop_start_some_iff _ _ _).mp cut, List.length_append] at within
      exact Nat.le_trans (Nat.le_add_left _ _) within
  · exact read_number_within count text within

mutual

theorem read_value_within (count depth fuel : Nat) (text : List Char) (within : text.length ≤ count) :
    Within count (readValue depth fuel text) := by
  cases fuel with
  | zero => exact within
  | succ fuel =>
      unfold readValue
      split
      · next rest =>
          refine within_bind count _ _ (read_string_within _ count _ [] rest within (Nat.le_of_succ_le within)) ?_
          exact fun content rest left => left
      · next rest =>
          have left : rest.length ≤ count := Nat.le_of_succ_le within
          split
          · trivial
          · split
            · next after closed => exact skip_past_within count _ rest after left closed
            · exact read_elements_within count _ fuel [] _ (skip_space_within count rest left)
      · next rest =>
          have left : rest.length ≤ count := Nat.le_of_succ_le within
          split
          · trivial
          · split
            · next after closed => exact skip_past_within count _ rest after left closed
            · exact read_members_within count _ fuel [] _ (skip_space_within count rest left)
      · exact read_scalar_within count text within

theorem read_elements_within (count depth fuel : Nat) (done : List Json) (text : List Char)
    (within : text.length ≤ count) : Within count (readElements depth fuel done text) := by
  cases fuel with
  | zero => exact within
  | succ fuel =>
      unfold readElements
      refine within_bind count _ _ (read_value_within count depth fuel text within) fun item rest left => ?_
      dsimp only
      split
      · next after closed => exact skip_past_within count _ rest after left closed
      · next after comma =>
          have more := skip_past_within count _ rest after left comma
          exact read_elements_within count depth fuel _ _ (skip_space_within count after more)
      · exact skip_space_within count rest left

theorem read_members_within (count depth fuel : Nat) (done : List (String × Json)) (text : List Char)
    (within : text.length ≤ count) : Within count (readMembers depth fuel done text) := by
  cases fuel with
  | zero => exact within
  | succ fuel =>
      unfold readMembers
      split
      · next rest =>
          refine within_bind count _ _ (read_string_within _ count _ [] rest within (Nat.le_of_succ_le within)) ?_
          intro name rest left
          dsimp only
          split
          · next after colon =>
              have more := skip_space_within count after (skip_past_within count _ rest after left colon)
              refine within_bind count _ _ (read_value_within count depth fuel _ more) fun item behind left => ?_
              dsimp only
              split
              · next after closed => exact skip_past_within count _ behind after left closed
              · next after comma =>
                  have more := skip_past_within count _ behind after left comma
                  exact read_members_within count depth fuel _ _ (skip_space_within count after more)
              · exact skip_space_within count behind left
          · exact skip_space_within count rest left
      · exact within

end

theorem read_fault_within (depth : Nat) (text : List Char) (kind : Fault) (left : Nat)
    (wrong : read depth text = .error (.fault kind left)) :
    left ≤ text.length := by
  unfold read at wrong
  split at wrong
  · cases wrong
    exact le_rfl
  · have within := read_value_within text.length depth (2 * text.length + 2) _ (skip_space_within _ text le_rfl)
    cases made : readValue depth (2 * text.length + 2) (skipSpace text) with
    | error cause =>
        rw [made] at wrong within
        cases wrong
        exact within
    | ok value =>
        rw [made] at wrong within
        dsimp only [bind, Except.bind] at wrong
        split at wrong
        · cases wrong
        · cases wrong
          exact skip_space_within text.length value.2 within

end MarkupLint.Json
