import MarkupLint.ProjectText
import MarkupLint.Proofs.Text.Search

set_option autoImplicit false

namespace MarkupLint.ProjectText

def defines (text name : String) : Bool := Text.hasPiece text (definitionStart name)

def written (definition : String × String) : String :=
  "\n\n" ++ definitionStart definition.1 ++ " " ++ definition.2 ++ "\n"

theorem defines_iff (text name : String) : defines text name = true ↔ (definitionStart name).toList <:+: text.toList :=
  Text.has_piece_iff text (definitionStart name)

theorem defines_within (front text back name : String) (held : defines text name = true) :
    defines (front ++ text ++ back) name = true := by
  rw [defines_iff] at held ⊢
  rw [String.toList_append, String.toList_append]
  exact held.trans (List.infix_append _ _ _)

theorem defines_append (text more name : String) (held : defines text name = true) : defines (text ++ more) name = true := by
  simpa using defines_within "" text more name held

@[simp]
theorem written_defines (definition : String × String) : defines (written definition) definition.1 = true := by
  have own : defines (definitionStart definition.1) definition.1 = true := (defines_iff _ _).mpr (List.infix_refl _)
  simpa only [written, String.append_assoc] using
    defines_within "\n\n" (definitionStart definition.1) (" " ++ (definition.2 ++ "\n")) definition.1 own

theorem define_eq (text : String) (definition : String × String) :
    define text definition = if defines text definition.1 then text else text ++ written definition := by
  simp only [define, defines, written, String.append_assoc]

@[simp]
theorem define_defines (text : String) (definition : String × String) :
    defines (define text definition) definition.1 = true := by
  rw [define_eq]
  by_cases held : defines text definition.1 = true
  · rw [if_pos held, held]
  · rw [if_neg held]
    simpa using defines_within text (written definition) "" definition.1 (written_defines definition)

def addedTo (text : String) : List (String × String) → List (String × String)
  | [] => []
  | definition :: rest =>
      (if defines text definition.1 then [] else [definition]) ++ addedTo (define text definition) rest

theorem define_all_eq (text : String) (definitions : List (String × String)) :
    definitions.foldl define text = text ++ String.join ((addedTo text definitions).map written) := by
  induction definitions generalizing text with
  | nil => simp [addedTo]
  | cons definition rest ih =>
      rw [List.foldl_cons, ih, addedTo]
      by_cases held : defines text definition.1 = true
      · rw [define_eq, if_pos held, if_pos held, List.nil_append]
      · rw [if_neg held, define_eq, if_neg held, List.map_append, String.join_append, ← String.append_assoc]
        simp

theorem define_all_keeps (text : String) (definitions : List (String × String)) (name : String)
    (held : defines text name = true) : defines (definitions.foldl define text) name = true := by
  rw [define_all_eq]
  exact defines_append text _ name held

theorem define_all_defines (text : String) (definitions : List (String × String)) (definition : String × String)
    (member : definition ∈ definitions) : defines (definitions.foldl define text) definition.1 = true := by
  obtain ⟨before, after, rfl⟩ := List.append_of_mem member
  rw [List.foldl_append, List.foldl_cons]
  exact define_all_keeps _ after definition.1 (define_defines _ definition)

-- A definition is added if the text has none where its turn comes.
theorem mem_added_iff (text : String) (definitions : List (String × String)) (definition : String × String) :
    definition ∈ addedTo text definitions ↔ ∃ before after, definitions = before ++ definition :: after ∧
      defines (before.foldl define text) definition.1 = false := by
  induction definitions generalizing text with
  | nil => simp [addedTo]
  | cons first rest ih =>
      rw [addedTo, List.mem_append, ih]
      constructor
      · rintro (own | ⟨before, after, rfl, absent⟩)
        · by_cases held : defines text first.1 = true
          · simp [held] at own
          · rw [if_neg held, List.mem_singleton] at own
            subst own
            exact ⟨[], rest, rfl, by simpa using held⟩
        · exact ⟨first :: before, after, rfl, absent⟩
      · rintro ⟨before, after, split, absent⟩
        cases before with
        | nil =>
            obtain ⟨rfl, rfl⟩ := List.cons.inj split
            exact .inl (by simp [show defines text first.1 = false from absent])
        | cons other before =>
            obtain ⟨rfl, rfl⟩ := List.cons.inj split
            exact .inr ⟨before, after, rfl, absent⟩

def opened (project : ProjectText) (source : String) : String :=
  if project.prolog = "" then source else project.prolog ++ "\n\n" ++ source

def closing (project : ProjectText) : String := if project.epilog = "" then "" else "\n\n" ++ project.epilog

def added (project : ProjectText) (source : String) : List (String × String) :=
  addedTo (project.opened source) project.substitutions

theorem augment_eq_define_all (project : ProjectText) (source : String) :
    project.augment source = project.substitutions.foldl define (project.opened source) ++ project.closing := by
  simp only [augment, String.isEmpty_iff, closing]
  by_cases closed : project.epilog = ""
  · rw [if_pos closed, if_pos closed, String.append_empty]
    rfl
  · rw [if_neg closed, if_neg closed, ← String.append_assoc]
    rfl

theorem defines_opened (project : ProjectText) (source name : String)
    (held : defines project.prolog name = true ∨ defines source name = true) : defines (project.opened source) name = true := by
  rw [opened]
  by_cases closed : project.prolog = ""
  · rw [if_pos closed]
    rcases held with front | own
    · rw [closed, defines_iff, String.toList_empty, List.infix_nil] at front
      simp [definitionStart] at front
    · exact own
  · rw [if_neg closed]
    rcases held with front | own
    · rw [String.append_assoc]
      exact defines_append _ _ name front
    · simpa using defines_within (project.prolog ++ "\n\n") source "" name own

/-- The text is the document below the prolog, the added definitions and the epilog, and defines every substitution of
the project. What is added is defined in neither of the three exactly if no name is left to the epilog alone. -/
theorem augment_defines_once_iff (project : ProjectText) (source : String) :
    project.augment source =
      project.opened source ++ String.join ((project.added source).map written) ++ project.closing ∧
    (∀ definition ∈ project.substitutions, defines (project.augment source) definition.1 = true) ∧
    ((∀ definition ∈ project.added source, ∀ part ∈ [project.prolog, source, project.epilog],
        defines part definition.1 = false) ↔
      ∀ before definition after, project.substitutions = before ++ definition :: after →
        defines project.epilog definition.1 = true →
        defines (before.foldl define (project.opened source)) definition.1 = true) := by
  refine ⟨?_, ?_, ?_⟩
  · rw [augment_eq_define_all, define_all_eq]
    rfl
  · intro definition member
    rw [augment_eq_define_all]
    exact defines_append _ _ _ (define_all_defines _ _ definition member)
  · constructor
    · intro fresh before definition after split behind
      by_contra absent
      have among : definition ∈ project.added source :=
        (mem_added_iff _ _ definition).mpr ⟨before, after, split, by simpa using absent⟩
      simp [fresh definition among project.epilog (by simp)] at behind
    · intro early definition among part member
      obtain ⟨before, after, split, absent⟩ := (mem_added_iff _ _ definition).mp among
      by_contra held
      rw [Bool.not_eq_false] at held
      have known : defines (before.foldl define (project.opened source)) definition.1 = true := by
        simp only [List.mem_cons, List.not_mem_nil, or_false] at member
        rcases member with rfl | rfl | rfl
        · exact define_all_keeps _ before _ (defines_opened project source _ (.inl held))
        · exact define_all_keeps _ before _ (defines_opened project part _ (.inr held))
        · exact early before definition after split held
      simp [known] at absent

-- A project whose epilog defines one of its own substitutions.
def repetitive : ProjectText where
  substitutions := [("x", "b")]
  epilog := ".. |x| replace:: a"

/-- The definition in the epilog stands below the one that is added. -/
theorem augment_defines_once_repeated :
    repetitive.augment "See |x|." = "See |x|.\n\n.. |x| replace:: b\n\n\n.. |x| replace:: a" ∧
    ¬ ∀ definition ∈ repetitive.added "See |x|.", ∀ part ∈ [repetitive.prolog, "See |x|.", repetitive.epilog],
        defines part definition.1 = false := by
  obtain ⟨split, -, exact⟩ := augment_defines_once_iff repetitive "See |x|."
  refine ⟨split.trans (by decide), fun fresh => ?_⟩
  exact absurd (exact.mp fresh [] ("x", "b") [] rfl (by decide)) (by decide)

end MarkupLint.ProjectText
