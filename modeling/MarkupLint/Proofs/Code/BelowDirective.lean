import MarkupLint.Proofs.Code.Beginning

set_option autoImplicit false

namespace MarkupLint.Code

structure Listing (lines above : List (List Char)) (directive : List Char) (options : List (List Char)) (blanks : Nat)
    (code : List Char) (rest : List (List Char)) : Prop where
  split : lines = above ++ directive :: (options ++ (List.replicate blanks [] ++ code :: rest))
  filled : ∀ option ∈ options, option ≠ []
  shown : code ≠ []

theorem first_filled_line (blanks : Nat) (code : List Char) (rest : List (List Char)) (shown : code ≠ []) :
    (List.replicate blanks [] ++ code :: rest).findIdx? (fun text : List Char => !text.isEmpty) = some blanks := by
  induction blanks with
  | zero => simp [List.findIdx?_cons, shown]
  | succ blanks ih =>
      rw [List.replicate_succ, List.cons_append, List.findIdx?_cons, ih]
      rfl

section Listing

variable (lines above : List (List Char)) (directive : List Char) (options : List (List Char)) (blanks : Nat)
  (code : List Char) (rest : List (List Char)) (listing : Listing lines above directive options blanks code rest)
include listing

theorem lines_below_directive :
    linesFrom lines ((above.length + 1 : Nat) : Int) = options ++ (List.replicate blanks [] ++ code :: rest) := by
  have behind : (lines.drop (above.length + 1)) = options ++ (List.replicate blanks [] ++ code :: rest) := by
    rw [listing.split, List.drop_append, List.drop_eq_nil_of_le (by omega), Nat.add_sub_cancel_left]
    rfl
  rw [linesFrom, if_pos (by omega), Int.toNat_natCast, behind]

-- An option is not empty, so nothing is counted if there is one.
theorem blanks_below_directive :
    ((linesFrom lines ((above.length + 1 : Nat) : Int)).findIdx? fun text => !text.isEmpty).getD 0
      = if options = [] then blanks else 0 := by
  rw [lines_below_directive lines above directive options blanks code rest listing]
  cases options with
  | nil => rw [List.nil_append, first_filled_line blanks code rest listing.shown, if_pos rfl, Option.getD_some]
  | cons option others =>
      have here : option ≠ [] := listing.filled option List.mem_cons_self
      simp [List.findIdx?_cons, here]

theorem code_line_below :
    lineAt? lines (((above.length + 1 + options.length + blanks + 1 : Nat) : Int) - 1) = some code := by
  have split : lines = (above ++ directive :: (options ++ List.replicate blanks [])) ++ code :: rest := by
    simp [listing.split]
  have place : above.length + 1 + options.length + blanks + 1 - 1
      = (above ++ directive :: (options ++ List.replicate blanks [])).length := by
    simp
    omega
  rw [line_at_number lines _ (by omega), split, place, List.getElem?_append_right (Nat.le_refl _), Nat.sub_self]
  rfl

end Listing

theorem beginning_below_listing (source : String) (above : List (List Char)) (directive : List Char)
    (options : List (List Char)) (blanks : Nat) (code : List Char) (rest : List (List Char))
    (listing : Listing (Text.splitLines source.toList) above directive options blanks code rest) :
    beginningBelow source ((above.length + 1 : Nat) : Int) (4 + options.length)
      = ((above.length + 1 + options.length + blanks + 1 : Nat) : Int) - if options = [] then 0 else blanks := by
  simp only [beginningBelow, blanks_below_directive _ above directive options blanks code rest listing]
  by_cases none : options = []
  · simp only [if_pos none]
    omega
  · simp only [if_neg none]
    omega

end MarkupLint.Code

namespace MarkupLint.Check

section Block

variable (bench : Workbench) (nested : Request → Checking Report) (origin : Origin) (reportRank : Nat)
  (warnUnknown : Bool) (source : String) (block : Code.Block) (session : Session)

/-- A block of a project with four attributes of its own and one for each option. Its code is found to begin where it
does exactly if the directive has no options or no empty line stands below them; else it is taken to begin right below
the options, and the findings in it are reported too high by the number of the empty lines. -/
theorem check_block_below_iff (above : List (List Char)) (directive : List Char) (options : List (List Char))
    (blanks : Nat) (code : List Char) (rest : List (List Char))
    (listing : Code.Listing (Text.splitLines source.toList) above directive options blanks code rest)
    (inProject : bench.project = true) (named : block.byClass = false)
    (stands : block.line = some ((above.length + 1 : Nat) : Int)) (counted : block.attributes = 4 + options.length) :
    let first := above.length + 1 + options.length + blanks + 1
    let begins := Code.beginning bench.project source block.raw block.line block.attributes block.byClass
    let inner := ((checkCode bench nested origin reportRank warnUnknown block.language block.raw).run session).1
    let placed := ((checkBlock bench nested origin reportRank warnUnknown source block).run session).1
    Code.lineAt? (Text.splitLines source.toList) ((first : Int) - 1) = some code ∧
    (begins = .ok (first : Int) ↔ options = [] ∨ blanks = 0) ∧
    (options ≠ [] → begins = .ok ((first : Int) - blanks)) ∧
    placed = ⟨inner.findings.map (movedTo block ((first : Int) - if options = [] then 0 else blanks)), inner.failure⟩ := by
  intro first begins inner placed
  have found : begins = .ok ((first : Int) - if options = [] then 0 else blanks) := by
    have below : begins = .ok (Code.beginningBelow source ((above.length + 1 : Nat) : Int) (4 + options.length)) := by
      simp only [begins, Code.beginning, inProject, named, stands, counted]
      rfl
    rw [below, Code.beginning_below_listing source above directive options blanks code rest listing]
  refine ⟨Code.code_line_below _ above directive options blanks code rest listing, ?_, ?_, ?_⟩
  · rw [found, Except.ok.injEq]
    by_cases none : options = []
    · simp [none]
    · rw [if_neg none]
      simp only [none, false_or]
      omega
  · intro some
    rw [found, if_neg some]
  · refine (check_block_run bench nested origin reportRank warnUnknown source block session (by simp [stands])).trans ?_
    rw [show Code.beginning _ _ _ _ _ _ = _ from found]

end Block

def numberedBlock : Code.Block := ⟨.json, "[1,\n]", some 1, 6, false⟩

def numberedSource : String := ".. code-block:: json\n   :linenos:\n   :name: a\n\n\n   [1,\n   ]\n"

/-- The code begins on the sixth line and is taken to begin on the fourth one, so its second line is reported as the
fifth. -/
theorem check_block_below_options :
    let bench : Workbench :=
      { project := true
        yaml := false
        nesting := 9
        tools := ⟨fun _ => none, fun _ => ⟨"", ["t"]⟩, fun _ => none⟩
        files := default }
    let alone := fun _ => pure .empty
    Code.lineAt? (Text.splitLines numberedSource.toList) 5 = some "   [1,".toList ∧
    Code.beginning true numberedSource numberedBlock.raw numberedBlock.line numberedBlock.attributes
      numberedBlock.byClass = .ok 4 ∧
    ((checkBlock bench alone (.text "a") 1 false numberedSource numberedBlock).run {}).1
      = .ofFindings [⟨"a", 5, "(json) Expecting value: line 2 column 1 (char 4)"⟩] := by
  intro bench alone
  have listing : Code.Listing (Text.splitLines numberedSource.toList) [] ".. code-block:: json".toList
      ["   :linenos:".toList, "   :name: a".toList] 2 "   [1,".toList ["   ]".toList] :=
    ⟨by decide +kernel, by decide +kernel, by decide +kernel⟩
  obtain ⟨shown, -, below, placed⟩ := check_block_below_iff bench alone (.text "a") 1 false numberedSource numberedBlock {}
    _ _ _ _ _ _ listing rfl rfl rfl rfl
  exact ⟨shown, below (by decide), placed.trans (by decide +kernel)⟩

end MarkupLint.Check
