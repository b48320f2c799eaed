import MarkupLint.Check
import MarkupLint.Proofs.Code.Position
import MarkupLint.Proofs.Text.Search

set_option autoImplicit false

namespace MarkupLint.Code

open Markup (Node Element Attributes)

mutual

def elementsIn : Node → List (Element × Option Int)
  | .text _ => []
  | .element _ kind own children => (kind, own.line) :: elementsAmong children

def elementsAmong : List Node → List (Element × Option Int)
  | [] => []
  | node :: rest => elementsIn node ++ elementsAmong rest

end

def isBlock : Element → Bool
  | .literalBlock _ _ => true
  | .doctestBlock _ _ => true
  | _ => false

mutual

def Flat : Node → Prop
  | .text _ => True
  | .element _ kind _ children =>
      (isBlock kind = true → ∀ inner ∈ elementsAmong children, isBlock inner.1 = false) ∧ FlatAll children

def FlatAll : List Node → Prop
  | [] => True
  | node :: rest => Flat node ∧ FlatAll rest

end

-- The language of a block is the one that it names, or else its last class if it is marked as code.
inductive InLanguage (attributes : Attributes) : String → Bool → Prop
  | named (language : String) (names : attributes.language? = some language) : InLanguage attributes language false
  | classed (language : String) (unnamed : attributes.language? = none) (marked : "code" ∈ attributes.classes)
      (last : attributes.classes.getLast? = some language) : InLanguage attributes language true

def ShowsSession (language raw : String) : Prop :=
  language = "doctest" ∨ language = "python" ∧ ">>> ".toList <+: Text.trimLeft raw.toList

def SkipsNext (source : String) (number : Int) : Prop :=
  ∃ (index : Nat) (line : List Char), (Text.splitLines source.toList)[index]? = some line ∧
    Inline.flowWord? line = some "ignore-next-code-block".toList ∧ number = index + 1

structure Stands (project : Bool) (source : String) (ignored : List String) (attributes : Attributes)
    (line : Option Int) (language : String) (byClass : Bool) : Prop where
  inLanguage : InLanguage attributes language byClass
  kept : language ∉ ignored
  directive : ∃ own found, line = some own ∧ DirectiveAt project source own found ∧ ¬ SkipsNext source (found - 1)

inductive Checked (project : Bool) (source : String) (ignored : List String) :
    Element → Option Int → Block → Prop
  | doctest (raw : String) (attributes : Attributes) (line : Option Int) (kept : "doctest" ∉ ignored) :
      Checked project source ignored (.doctestBlock raw attributes) line
        ⟨.doctest, raw, line, attributes.setCount, false⟩
  | code (raw : String) (attributes : Attributes) (line : Option Int) (language : Language) (byClass : Bool)
      (stands : Stands project source ignored attributes line language.name byClass)
      (plain : ¬ ShowsSession language.name raw) :
      Checked project source ignored (.literalBlock raw attributes) line
        ⟨language, raw, line, attributes.setCount, byClass⟩
  | session (raw : String) (attributes : Attributes) (line : Option Int) (language : String) (byClass : Bool)
      (stands : Stands project source ignored attributes line language byClass)
      (shows : ShowsSession language raw) (kept : "doctest" ∉ ignored) :
      Checked project source ignored (.literalBlock raw attributes) line
        ⟨.doctest, raw, line, attributes.setCount, false⟩

theorem language_name_iff (attributes : Attributes) (language : String) (byClass : Bool) :
    languageName? attributes = some (language, byClass) ↔ InLanguage attributes language byClass := by
  rw [languageName?]
  cases named : attributes.language? with
  | some own =>
      simp only [Option.some.injEq, Prod.mk.injEq]
      constructor
      · rintro ⟨rfl, rfl⟩
        exact .named own named
      · intro inLanguage
        cases inLanguage with
        | named names => exact ⟨Option.some.inj (named.symm.trans names), rfl⟩
        | classed unnamed marked last => simp [named] at unnamed
  | none =>
      by_cases marked : "code" ∈ attributes.classes
      · simp only [List.contains_iff_mem.mpr marked, if_true, Option.map_eq_some_iff, Prod.mk.injEq]
        constructor
        · rintro ⟨own, last, rfl, rfl⟩
          exact .classed own named marked last
        · intro inLanguage
          cases inLanguage with
          | named names => simp [named] at names
          | classed unnamed marked last => exact ⟨_, last, rfl, rfl⟩
      · simp only [List.contains_iff_mem, marked, if_false, reduceCtorEq, false_iff]
        intro inLanguage
        cases inLanguage with
        | named names => simp [named] at names
        | classed unnamed held last => exact marked held

theorem is_session_iff (language raw : String) : isSession language raw = true ↔ ShowsSession language raw := by
  simp [isSession, ShowsSession]

theorem of_name_iff (name : String) (language : Language) :
    Language.ofName? name = some language ↔ language.name = name := by
  constructor
  · intro found
    simpa using List.find?_some found
  · rintro rfl
    cases language <;> rfl

theorem flow_of_word_iff (word : List Char) :
    Inline.Flow.ofWord? (String.ofList word) = some .skipNextCodeBlock ↔ word = "ignore-next-code-block".toList := by
  have same : String.ofList word = "ignore-next-code-block" ↔ word = "ignore-next-code-block".toList := by
    rw [← String.toList_inj, String.toList_ofList]
  simp [Inline.Flow.ofWord?, Inline.Flow.word, same]

theorem mem_skipping_lines_iff (source : String) (number : Nat) :
    number ∈ Inline.skippingLines source ↔ SkipsNext source number := by
  simp only [Inline.skippingLines, List.mem_map, List.mem_filter, decide_eq_true_eq, Inline.flowComments,
    Inline.numberedLines, List.mem_filterMap, SkipsNext]
  constructor
  · rintro ⟨⟨flow, line⟩, ⟨⟨⟨text, own⟩, member, read⟩, -⟩, rfl⟩
    obtain ⟨word, wordRead, read⟩ := Option.bind_eq_some_iff.mp read
    obtain ⟨known, flowRead, read⟩ := Option.bind_eq_some_iff.mp read
    cases read
    obtain ⟨positive, found⟩ := List.mk_mem_zipIdx_iff_le_and_getElem?_sub.mp member
    refine ⟨own - 1, text, found, ?_, ?_⟩
    · rw [wordRead, (flow_of_word_iff word).mp flowRead]
    · change (own : Int) = ((own - 1 : Nat) : Int) + 1
      omega
  · rintro ⟨index, text, found, wordRead, numbered⟩
    refine ⟨⟨.skipNextCodeBlock, number⟩, ⟨⟨(text, number), ?_, ?_⟩, trivial⟩, rfl⟩
    · have place : number - 1 = index := by omega
      exact List.mk_mem_zipIdx_iff_le_and_getElem?_sub.mpr ⟨by omega, place ▸ found⟩
    · simp [wordRead, Inline.Flow.ofWord?, Inline.Flow.word]

theorem passed_over_iff (source : String) (directive : Int) :
    ((Inline.skippingLines source).any fun skipping => (skipping : Int) = directive - 1) = true
      ↔ SkipsNext source (directive - 1) := by
  simp only [List.any_eq_true, decide_eq_true_eq]
  constructor
  · rintro ⟨skipping, member, same⟩
    exact same ▸ (mem_skipping_lines_iff source skipping).mp member
  · rintro ⟨index, text, found, wordRead, numbered⟩
    have line : ((index + 1 : Nat) : Int) = directive - 1 := by omega
    exact ⟨index + 1, (mem_skipping_lines_iff source _).mpr ⟨index, text, found, wordRead, by omega⟩, line⟩

section Element

variable (project : Bool) (source : String) (ignored : List String)

theorem stands_iff (attributes : Attributes) (line directive : Option Int) (language name : String)
    (byClass marked : Bool) (named : languageName? attributes = some (language, byClass))
    (stands : ∀ found, directive = some found ↔ ∃ own, line = some own ∧ DirectiveAt project source own found) :
    Stands project source ignored attributes line name marked ↔ name = language ∧ marked = byClass ∧
      language ∉ ignored ∧ ∃ found, directive = some found ∧ ¬ SkipsNext source (found - 1) := by
  constructor
  · rintro ⟨inLanguage, kept, own, found, placed, below, notSkipped⟩
    have same := (language_name_iff attributes name marked).mpr inLanguage
    rw [named, Option.some.injEq, Prod.mk.injEq] at same
    obtain ⟨rfl, rfl⟩ := same
    exact ⟨rfl, rfl, kept, found, (stands found).mpr ⟨own, placed, below⟩, notSkipped⟩
  · rintro ⟨rfl, rfl, kept, found, placed, notSkipped⟩
    obtain ⟨own, placed, below⟩ := (stands found).mp placed
    exact ⟨(language_name_iff attributes _ _).mp named, kept, own, found, placed, below, notSkipped⟩

theorem checked_literal_iff (raw : String) (attributes : Attributes) (line : Option Int) (block : Block) :
    Checked project source ignored (.literalBlock raw attributes) line block ↔
      ∃ name byClass, Stands project source ignored attributes line name byClass ∧
        ((ShowsSession name raw ∧ "doctest" ∉ ignored ∧ block = ⟨.doctest, raw, line, attributes.setCount, false⟩) ∨
          (¬ ShowsSession name raw ∧ ∃ language : Language, language.name = name ∧
            block = ⟨language, raw, line, attributes.setCount, byClass⟩)) := by
  constructor
  · intro checked
    cases checked with
    | code _ _ _ language byClass stands plain =>
        exact ⟨language.name, byClass, stands, .inr ⟨plain, language, rfl, rfl⟩⟩
    | session _ _ _ language byClass stands shows kept => exact ⟨language, byClass, stands, .inl ⟨shows, kept, rfl⟩⟩
  · rintro ⟨name, byClass, stands, ⟨shows, kept, rfl⟩ | ⟨plain, language, rfl, rfl⟩⟩
    · exact .session raw attributes line name byClass stands shows kept
    · exact .code raw attributes line language byClass stands plain

def Gives (kind : Element) (line : Option Int) (notices : List Notice) : Prop :=
  ∃ found : Option Block, Check.blocksOf notices = found.toList ∧
    ∀ block, found = some block ↔ Checked project source ignored kind line block

variable {project source ignored}

theorem gives_nothing (kind : Element) (line : Option Int) (notices : List Notice)
    (silent : Check.blocksOf notices = []) (none : ∀ block, ¬ Checked project source ignored kind line block) :
    Gives project source ignored kind line notices :=
  ⟨.none, silent, fun block => by simp [none block]⟩

theorem gives_block (kind : Element) (line : Option Int) (block : Block)
    (only : ∀ other, Checked project source ignored kind line other ↔ other = block) :
    Gives project source ignored kind line [.block block] :=
  ⟨some block, rfl, fun other => by rw [only other, Option.some.injEq, eq_comm]⟩

theorem doctest_gives (skippingLines : List Nat) (raw : String) (attributes : Attributes) (line : Option Int) :
    Gives project source ignored (.doctestBlock raw attributes) line
      (doctestNotices ⟨project, source, ignored, skippingLines⟩ raw line attributes) := by
  by_cases isIgnored : "doctest" ∈ ignored
  · have none : doctestNotices ⟨project, source, ignored, skippingLines⟩ raw line attributes = [] :=
      if_pos (List.contains_iff_mem.mpr isIgnored)
    rw [none]
    refine gives_nothing _ _ [] rfl fun block checked => ?_
    cases checked with
    | doctest _ _ _ kept => exact kept isIgnored
  · have one : doctestNotices ⟨project, source, ignored, skippingLines⟩ raw line attributes
        = [.block ⟨.doctest, raw, line, attributes.setCount, false⟩] :=
      if_neg fun held => isIgnored (List.contains_iff_mem.mp held)
    rw [one]
    refine gives_block _ _ _ fun other => ⟨fun checked => ?_, ?_⟩
    · cases checked with
      | doctest => rfl
    · rintro rfl
      exact .doctest raw attributes line isIgnored

theorem session_gives (skippingLines : List Nat) (raw : String) (attributes : Attributes) (line : Option Int)
    (only : ∀ block, Checked project source ignored (.literalBlock raw attributes) line block ↔
      "doctest" ∉ ignored ∧ block = ⟨.doctest, raw, line, attributes.setCount, false⟩) :
    Gives project source ignored (.literalBlock raw attributes) line
      (doctestNotices ⟨project, source, ignored, skippingLines⟩ raw line attributes) := by
  obtain ⟨found, blocks, checked⟩ := @doctest_gives project source ignored skippingLines raw attributes line
  refine ⟨found, blocks, fun block => (checked block).trans ((only block).trans ?_).symm⟩
  constructor
  · rintro ⟨kept, rfl⟩
    exact .doctest raw attributes line kept
  · intro session
    cases session with
    | doctest _ _ _ kept => exact ⟨kept, rfl⟩

theorem checked_named_iff (raw : String) (attributes : Attributes) (line directive : Option Int) (language : String)
    (byClass : Bool) (named : languageName? attributes = some (language, byClass))
    (stands : ∀ found, directive = some found ↔ ∃ own, line = some own ∧ DirectiveAt project source own found)
    (block : Block) :
    Checked project source ignored (.literalBlock raw attributes) line block ↔
      (language ∉ ignored ∧ ∃ found, directive = some found ∧ ¬ SkipsNext source (found - 1)) ∧
        ((ShowsSession language raw ∧ "doctest" ∉ ignored ∧
            block = ⟨.doctest, raw, line, attributes.setCount, false⟩) ∨
          (¬ ShowsSession language raw ∧ ∃ known : Language, known.name = language ∧
            block = ⟨known, raw, line, attributes.setCount, byClass⟩)) := by
  rw [checked_literal_iff]
  constructor
  · rintro ⟨name, marked, standing, way⟩
    obtain ⟨rfl, rfl, free⟩ := (stands_iff _ _ _ _ _ directive _ _ _ _ named stands).mp standing
    exact ⟨free, way⟩
  · rintro ⟨free, way⟩
    exact ⟨language, byClass, (stands_iff _ _ _ _ _ directive _ _ _ _ named stands).mpr ⟨rfl, rfl, free⟩, way⟩

theorem literal_gives (raw : String) (attributes : Attributes) (line : Option Int)
    (inside : ∀ own, line = some own → own ≤ (Text.splitLines source.toList).length + 1) :
    ∃ notices deeper, literalNotices ⟨project, source, ignored, Inline.skippingLines source⟩ raw line attributes
      = .ok (notices, deeper) ∧ Gives project source ignored (.literalBlock raw attributes) line notices := by
  obtain ⟨directive, lookedFor, stands⟩ := directive_line_ok project source line inside
  cases named : languageName? attributes with
  | none =>
      refine ⟨[], true, by rw [literalNotices, named]; rfl, gives_nothing _ _ [] rfl fun block checked => ?_⟩
      obtain ⟨name, byClass, standing, -⟩ :=
        (checked_literal_iff project source ignored raw attributes line block).mp checked
      simp [(language_name_iff attributes name byClass).mpr standing.inLanguage] at named
  | some pair =>
      obtain ⟨language, byClass⟩ := pair
      have checked :=
        @checked_named_iff project source ignored raw attributes line directive language byClass named stands
      have opened (next : Option Int → Except Failure (List Notice × Bool)) :
          (Except.ok directive >>= next) = next directive := rfl
      rw [literalNotices, named]
      simp only [lookedFor, opened]
      cases directive with
      | none =>
          refine ⟨[.noDirective line], true, rfl, gives_nothing _ _ _ rfl fun block held => ?_⟩
          obtain ⟨⟨-, found, placed, -⟩, -⟩ := (checked block).mp held
          cases placed
      | some found =>
          by_cases skipped : SkipsNext source (found - 1)
          · simp only [(passed_over_iff source found).mpr skipped, if_true]
            refine ⟨[], true, rfl, gives_nothing _ _ [] rfl fun block held => ?_⟩
            obtain ⟨⟨-, other, placed, notSkipped⟩, -⟩ := (checked block).mp held
            cases placed
            exact notSkipped skipped
          by_cases isIgnored : language ∈ ignored
          · simp only [mt (passed_over_iff source found).mp skipped, List.contains_iff_mem.mpr isIgnored, if_true]
            exact ⟨[], true, rfl, gives_nothing _ _ [] rfl fun block held => ((checked block).mp held).1.1 isIgnored⟩
          -- The block is not passed over: how it is checked depends on what it shows.
          have free : language ∉ ignored ∧ ∃ other, some found = some other ∧ ¬ SkipsNext source (other - 1) :=
            ⟨isIgnored, found, rfl, skipped⟩
          simp only [mt (passed_over_iff source found).mp skipped, mt List.contains_iff_mem.mp isIgnored]
          by_cases shows : ShowsSession language raw
          · simp only [(is_session_iff language raw).mpr shows, if_true]
            exact ⟨_, false, rfl, session_gives _ raw attributes line fun block => by
              simp [checked, isIgnored, skipped, shows]⟩
          simp only [mt (is_session_iff language raw).mp shows]
          cases known : Language.ofName? language with
          | none =>
              refine ⟨[], false, rfl, gives_nothing _ _ [] rfl fun block held => ?_⟩
              obtain ⟨-, ⟨held, -⟩ | ⟨-, own, same, -⟩⟩ := (checked block).mp held
              · exact shows held
              · simp [(of_name_iff language own).mpr same] at known
          | some own =>
              refine ⟨_, false, rfl, gives_block _ _ _ fun other => ?_⟩
              rw [checked]
              constructor
              · rintro ⟨-, ⟨held, -⟩ | ⟨-, same, ofSame, rfl⟩⟩
                · exact absurd held shows
                · rw [(of_name_iff language same).mpr ofSame] at known
                  cases known
                  rfl
              · rintro rfl
                exact ⟨free, .inr ⟨shows, own, (of_name_iff language own).mp known, rfl⟩⟩

theorem element_gives (place : Markup.Place) (line : Option Int) (kind : Element)
    (inside : ∀ own, line = some own → own ≤ (Text.splitLines source.toList).length + 1) :
    ∃ notices deeper, elementNotices ⟨project, source, ignored, Inline.skippingLines source⟩ place line kind
      = .ok (notices, deeper) ∧ Gives project source ignored kind line notices ∧
        (deeper = false → isBlock kind = true) := by
  cases kind with
  | literalBlock raw attributes =>
      obtain ⟨notices, deeper, run, gives⟩ := @literal_gives project source ignored raw attributes line inside
      exact ⟨notices, deeper, run, gives, fun _ => rfl⟩
  | doctestBlock raw attributes => exact ⟨_, true, rfl, doctest_gives _ raw attributes line, fun _ => rfl⟩
  | paragraph raw =>
      refine ⟨_, true, rfl, gives_nothing _ _ _ ?_ fun _ => nofun, nofun⟩
      split <;> rfl
  | _ => exact ⟨[], true, rfl, gives_nothing _ _ [] rfl fun _ => nofun, nofun⟩

end Element

section Document

variable {project : Bool} {source : String} {ignored : List String}

inductive Selected (project : Bool) (source : String) (ignored : List String) :
    List (Element × Option Int) → List Block → Prop
  | nil : Selected project source ignored [] []
  | checked (kind : Element) (line : Option Int) (block : Block) (elements : List (Element × Option Int))
      (blocks : List Block) (checked : Checked project source ignored kind line block)
      (rest : Selected project source ignored elements blocks) :
      Selected project source ignored ((kind, line) :: elements) (block :: blocks)
  | passed (kind : Element) (line : Option Int) (elements : List (Element × Option Int)) (blocks : List Block)
      (passed : ∀ block, ¬ Checked project source ignored kind line block)
      (rest : Selected project source ignored elements blocks) :
      Selected project source ignored ((kind, line) :: elements) blocks

theorem selected_append (first second : List (Element × Option Int)) (blocks others : List Block)
    (before : Selected project source ignored first blocks) (after : Selected project source ignored second others) :
    Selected project source ignored (first ++ second) (blocks ++ others) := by
  induction before with
  | nil => exact after
  | checked kind line block elements blocks checked _ ih => exact .checked kind line block _ _ checked ih
  | passed kind line elements blocks passed _ ih => exact .passed kind line _ _ passed ih

theorem selected_of_gives (kind : Element) (line : Option Int) (notices : List Notice)
    (elements : List (Element × Option Int)) (blocks : List Block)
    (gives : Gives project source ignored kind line notices)
    (rest : Selected project source ignored elements blocks) :
    Selected project source ignored ((kind, line) :: elements) (Check.blocksOf notices ++ blocks) := by
  obtain ⟨found, same, checked⟩ := gives
  rw [same]
  cases found with
  | none => exact .passed kind line _ _ (fun block held => nomatch (checked block).mpr held) rest
  | some block => exact .checked kind line block _ _ ((checked block).mp rfl) rest

theorem checked_block (kind : Element) (line : Option Int) (block : Block)
    (checked : Checked project source ignored kind line block) : isBlock kind = true := by
  cases checked <;> rfl

theorem selected_of_no_blocks (elements : List (Element × Option Int))
    (plain : ∀ element ∈ elements, isBlock element.1 = false) : Selected project source ignored elements [] := by
  induction elements with
  | nil => exact .nil
  | cons element rest ih =>
      have behind := ih fun inner held => plain inner (.tail _ held)
      refine .passed element.1 element.2 rest [] (fun block checked => ?_) behind
      have isPlain := plain element (.head _)
      simp [checked_block _ _ block checked] at isPlain

@[simp]
theorem blocks_of_append (first second : List Notice) :
    Check.blocksOf (first ++ second) = Check.blocksOf first ++ Check.blocksOf second :=
  List.filterMap_append

def Within (source : String) (elements : List (Element × Option Int)) : Prop :=
  ∀ element ∈ elements, ∀ own, element.2 = some own → own ≤ (Text.splitLines source.toList).length + 1

mutual

theorem notices_in_selected (place : Markup.Place) (node : Node) (flat : Flat node)
    (inside : Within source (elementsIn node)) :
    ∃ notices, noticesIn ⟨project, source, ignored, Inline.skippingLines source⟩ place node = .ok notices ∧
      Selected project source ignored (elementsIn node) (Check.blocksOf notices) := by
  cases node with
  | text content => exact ⟨[], rfl, .nil⟩
  | element _ kind own children =>
      obtain ⟨notices, deeper, run, gives, block⟩ :=
        @element_gives project source ignored (place.within own) own.line kind (inside (kind, own.line) (.head _))
      obtain ⟨below, runBelow, selected⟩ := notices_among_selected (place.within own) children flat.2
        fun inner held => inside inner (.tail _ held)
      simp only [noticesIn, run]
      cases deeper with
      | true =>
          refine ⟨notices ++ below, ?_, ?_⟩
          · simp [bind, Except.bind, runBelow, pure, Except.pure]
          · rw [blocks_of_append]
            exact selected_of_gives _ _ _ _ _ gives selected
      | false =>
          refine ⟨notices, rfl, ?_⟩
          rw [← List.append_nil (Check.blocksOf notices)]
          exact selected_of_gives _ _ _ _ _ gives (selected_of_no_blocks _ (flat.1 (block rfl)))

theorem notices_among_selected (place : Markup.Place) (nodes : List Node) (flat : FlatAll nodes)
    (inside : Within source (elementsAmong nodes)) :
    ∃ notices, noticesAmong ⟨project, source, ignored, Inline.skippingLines source⟩ place nodes = .ok notices ∧
      Selected project source ignored (elementsAmong nodes) (Check.blocksOf notices) := by
  cases nodes with
  | nil => exact ⟨[], rfl, .nil⟩
  | cons node rest =>
      obtain ⟨first, runFirst, selected⟩ := notices_in_selected place node flat.1
        fun inner held => inside inner (List.mem_append_left _ held)
      obtain ⟨second, runSecond, others⟩ := notices_among_selected place rest flat.2
        fun inner held => inside inner (List.mem_append_right _ held)
      refine ⟨first ++ second, ?_, ?_⟩
      · simp [noticesAmong, runFirst, runSecond, bind, Except.bind, pure, Except.pure]
      · rw [blocks_of_append]
        exact selected_append _ _ _ _ selected others

end

theorem stands_unique (attributes : Attributes) (line : Option Int) (language other : String) (byClass marked : Bool)
    (stands : Stands project source ignored attributes line language byClass)
    (again : Stands project source ignored attributes line other marked) : language = other ∧ byClass = marked := by
  have named := (language_name_iff attributes language byClass).mpr stands.inLanguage
  rw [(language_name_iff attributes other marked).mpr again.inLanguage, Option.some.injEq, Prod.mk.injEq] at named
  exact ⟨named.1.symm, named.2.symm⟩

theorem checked_unique (kind : Element) (line : Option Int) (block other : Block)
    (checked : Checked project source ignored kind line block)
    (again : Checked project source ignored kind line other) : block = other := by
  cases checked with
  | doctest raw attributes _ kept =>
      cases again
      rfl
  | code raw attributes _ language byClass stands plain =>
      cases again with
      | code _ _ _ same marked standing _ =>
          obtain ⟨name, rfl⟩ := stands_unique attributes line _ _ _ _ stands standing
          have found := (of_name_iff same.name language).mpr name
          rw [(of_name_iff same.name same).mpr rfl] at found
          cases found
          rfl
      | session _ _ _ named marked standing shows _ =>
          obtain ⟨rfl, -⟩ := stands_unique attributes line _ _ _ _ stands standing
          exact absurd shows plain
  | session raw attributes _ language byClass stands shows kept =>
      cases again with
      | code _ _ _ same marked standing plain =>
          obtain ⟨rfl, -⟩ := stands_unique attributes line _ _ _ _ stands standing
          exact absurd shows plain
      | session => rfl

theorem checked_of_more (more : List String) (grows : ignored ⊆ more) (kind : Element) (line : Option Int)
    (block : Block) (checked : Checked project source more kind line block) : Checked project source ignored kind line block := by
  have stands : ∀ {attributes : Attributes} {line : Option Int} {language : String} {byClass : Bool},
      Stands project source more attributes line language byClass →
        Stands project source ignored attributes line language byClass :=
    fun ⟨inLanguage, kept, directive⟩ => ⟨inLanguage, fun held => kept (grows held), directive⟩
  cases checked with
  | doctest raw attributes _ kept => exact .doctest raw attributes line fun held => kept (grows held)
  | code raw attributes _ language byClass standing plain =>
      exact .code raw attributes line language byClass (stands standing) plain
  | session raw attributes _ language byClass standing shows kept =>
      exact .session raw attributes line language byClass (stands standing) shows fun held => kept (grows held)

theorem selected_sublist (more : List String) (grows : ignored ⊆ more) (elements : List (Element × Option Int))
    (fewer blocks : List Block) (selected : Selected project source more elements fewer)
    (all : Selected project source ignored elements blocks) : fewer.Sublist blocks := by
  induction selected generalizing blocks with
  | nil =>
      cases all
      exact .slnil
  | checked kind line block elements fewer checked _ ih =>
      have kept := checked_of_more more grows kind line block checked
      cases all with
      | checked _ _ other _ others again rest =>
          rw [checked_unique kind line block other kept again]
          exact (ih others rest).cons_cons other
      | passed _ _ _ _ passed rest => exact absurd kept (passed block)
  | passed kind line elements fewer passed _ ih =>
      cases all with
      | checked _ _ other _ others again rest => exact (ih others rest).cons other
      | passed _ _ _ _ _ rest => exact ih blocks rest

end Document

end MarkupLint.Code

namespace MarkupLint.Check

open Code

theorem survey_run (bench : Workbench) (origin : Origin) (warnUnknown : Bool) (source : String)
    (finish : Markup.Place) (nodes : List Markup.Node) (session : Session) (notices : List Notice)
    (walked : noticesAmong ⟨bench.project, source, session.ignores.languages, Inline.skippingLines source⟩ .unknown nodes
      = .ok notices) :
    ((survey bench origin warnUnknown source finish nodes).run session).1
      = .ok ⟨blocksOf notices, linksOf finish notices⟩ := by
  -- The warnings at the start of the walk go to the log and leave the languages as they are.
  have quiet : ∀ started : Session, started.ignores = session.ignores →
      ((survey bench origin false source finish nodes).run started).1
        = .ok ⟨blocksOf notices, linksOf finish notices⟩ := by
    intro started same
    rw [← same] at walked
    have ran : (survey bench origin false source finish nodes).run started
        = pure (.ok ⟨blocksOf notices, linksOf finish notices⟩,
            started.log ((linesWithoutDirective notices).map (lineWarning origin))) := by
      simp [survey, walked]
    exact congrArg Prod.fst ran
  cases warnUnknown with
  | false => exact quiet session rfl
  | true => exact quiet (session.log (Inline.flowWarnings origin source)) rfl

/-- A survey of a document succeeds and gives, in reading order, one block for each element that is to be checked and
no other. With more languages ignored it gives some of these blocks, in the same order. -/
theorem survey_selects (bench : Workbench) (origin : Origin) (warnUnknown : Bool) (source : String)
    (finish : Markup.Place) (nodes : List Markup.Node) (session : Session)
    (flat : FlatAll nodes) (inside : Within source (elementsAmong nodes)) :
    ∃ seen, ((survey bench origin warnUnknown source finish nodes).run session).1 = .ok seen ∧
      Selected bench.project source session.ignores.languages (elementsAmong nodes) seen.blocks ∧
      ∀ other : Session, session.ignores.languages ⊆ other.ignores.languages →
        ∃ fewer, ((survey bench origin warnUnknown source finish nodes).run other).1 = .ok fewer ∧
          fewer.blocks.Sublist seen.blocks := by
  have selects : ∀ started : Session, ∃ seen,
      ((survey bench origin warnUnknown source finish nodes).run started).1 = .ok seen ∧
        Selected bench.project source started.ignores.languages (elementsAmong nodes) seen.blocks := by
    intro started
    obtain ⟨notices, walked, selected⟩ :=
      @notices_among_selected bench.project source started.ignores.languages .unknown nodes flat inside
    exact ⟨_, survey_run bench origin warnUnknown source finish nodes started notices walked, selected⟩
  obtain ⟨seen, run, selected⟩ := selects session
  refine ⟨seen, run, selected, fun other grows => ?_⟩
  obtain ⟨fewer, runFewer, selectedFewer⟩ := selects other
  exact ⟨fewer, runFewer, selected_sublist _ grows _ _ _ selectedFewer selected⟩

def bareBench : Workbench where
  project := false
  yaml := false
  tools := ⟨fun _ => none, fun _ => ⟨"", ["t"]⟩, fun _ => none⟩
  files := default
  nesting := 9

def threeBlocks : String :=
  ">>> x\n\n.. rstcheck: ignore-next-code-block\n.. code:: json\n\n   []\n\n.. code:: json\n\n   []\n"

def threeBlockNodes : List Markup.Node :=
  [.element 0 .section ⟨none, some 1⟩
    [.element 1 (.doctestBlock ">>> x" []) ⟨none, some 1⟩ [.text ">>> x"],
      .element 2 (.literalBlock "[]" [("language", .text "json")]) ⟨none, some 6⟩ [.text "[]"],
      .element 3 (.literalBlock "[]" [("classes", .list ["code", "json"])]) ⟨none, some 10⟩ [.text "[]"]]]

/-- The comment passes over the second of three blocks; the third is left out when its language is ignored. -/
theorem survey_selects_three_blocks :
    let walk := survey bareBench (.text "a") false threeBlocks .unknown threeBlockNodes
    let ignoring : Session := { ignores := { languages := ["json"] } }
    FlatAll threeBlockNodes ∧ Within threeBlocks (elementsAmong threeBlockNodes) ∧
      ∃ seen, (walk.run {}).1 = .ok seen ∧
        seen.blocks = [⟨.doctest, ">>> x", some 1, 0, false⟩, ⟨.json, "[]", some 10, 1, true⟩] ∧
        Selected false threeBlocks [] (elementsAmong threeBlockNodes) seen.blocks ∧
        ∃ fewer, (walk.run ignoring).1 = .ok fewer ∧ fewer.blocks.Sublist seen.blocks := by
  intro walk ignoring
  have flat : FlatAll threeBlockNodes := by
    simp [threeBlockNodes, FlatAll, Flat, elementsAmong, elementsIn, isBlock]
  have inside : Within threeBlocks (elementsAmong threeBlockNodes) := by
    have counted : (Text.splitLines threeBlocks.toList).length = 10 := by decide +kernel
    simp [Within, counted, threeBlockNodes, elementsAmong, elementsIn]
  obtain ⟨seen, run, selected, less⟩ :=
    survey_selects bareBench (.text "a") false threeBlocks .unknown threeBlockNodes {} flat inside
  obtain ⟨fewer, runFewer, sublist⟩ := less ignoring (by simp)
  refine ⟨flat, inside, seen, run, ?_, selected, fewer, runFewer, sublist⟩
  have evaluated : ((walk.run {}).1.toOption.map (·.blocks))
      = some [⟨.doctest, ">>> x", some 1, 0, false⟩, ⟨.json, "[]", some 10, 1, true⟩] := by
    decide +kernel
  rw [run] at evaluated
  exact Option.some.inj evaluated

end MarkupLint.Check
