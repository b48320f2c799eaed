import MarkupLint.Proofs.Code.Selection
import MarkupLint.Proofs.Masking
import MarkupLint.Proofs.Report
import Mathlib.Logic.Relation

set_option autoImplicit false

namespace MarkupLint.Code

open Markup (Node Element)

def FromCode (elements : List (Element × Option Int)) (block : Block) : Prop :=
  block.language = .rst → ∃ attributes line,
    (.literalBlock block.raw attributes, line) ∈ elements ∧ (languageName? attributes).isSome = true

theorem from_code_mono (fewer more : List (Element × Option Int)) (block : Block) (inside : fewer ⊆ more)
    (fromCode : FromCode fewer block) : FromCode more block := by
  intro document
  obtain ⟨attributes, line, held, named⟩ := fromCode document
  exact ⟨attributes, line, inside held, named⟩

theorem nothing_from_code (elements : List (Element × Option Int)) :
    ∀ block ∈ Check.blocksOf [], FromCode elements block := nofun

theorem doctest_from_code (around : Surroundings) (raw : String) (line : Option Int) (attributes : Markup.Attributes)
    (elements : List (Element × Option Int)) :
    ∀ block ∈ Check.blocksOf (doctestNotices around raw line attributes), FromCode elements block := by
  intro block held document
  rw [doctestNotices] at held
  split at held
  · cases held
  · obtain rfl : block = _ := List.mem_singleton.mp held
    cases document

theorem literal_from_code (around : Surroundings) (raw : String) (line : Option Int) (attributes : Markup.Attributes)
    (notices : List Notice) (deeper : Bool)
    (walked : literalNotices around raw line attributes = .ok (notices, deeper)) :
    ∀ block ∈ Check.blocksOf notices, FromCode [(.literalBlock raw attributes, line)] block := by
  cases named : languageName? attributes with
  | none =>
      simp only [literalNotices, named] at walked
      cases walked
      exact nothing_from_code _
  | some pair =>
      have own : ∀ block : Block, block.raw = raw → FromCode [(.literalBlock raw attributes, line)] block := by
        rintro block rfl -
        exact ⟨attributes, line, .head _, by simp [named]⟩
      -- Without a directive, passed over or ignored, the block is not checked; a session in it is no document.
      simp only [literalNotices, named, bind, Except.bind] at walked
      split at walked
      · cases walked
      split at walked
      · cases walked
        exact nothing_from_code _
      split at walked
      · cases walked
        exact nothing_from_code _
      split at walked
      · cases walked
        exact nothing_from_code _
      split at walked
      · cases walked
        exact doctest_from_code around raw line attributes _
      split at walked
      · cases walked
        intro block held
        obtain rfl : block = _ := List.mem_singleton.mp held
        exact own _ rfl
      · cases walked
        exact nothing_from_code _

theorem element_from_code (around : Surroundings) (place : Markup.Place) (line : Option Int) (kind : Element)
    (notices : List Notice) (deeper : Bool) (walked : elementNotices around place line kind = .ok (notices, deeper)) :
    ∀ block ∈ Check.blocksOf notices, FromCode [(kind, line)] block := by
  cases kind with
  | literalBlock raw attributes => exact literal_from_code around raw line attributes notices deeper walked
  | doctestBlock raw attributes =>
      cases walked
      exact doctest_from_code around raw line attributes _
  | paragraph raw =>
      cases walked
      split <;> nofun
  | _ =>
      cases walked
      exact nothing_from_code _

mutual

theorem notices_in_from_code (around : Surroundings) (place : Markup.Place) (node : Node) (notices : List Notice)
    (walked : noticesIn around place node = .ok notices) :
    ∀ block ∈ Check.blocksOf notices, FromCode (elementsIn node) block := by
  cases node with
  | text content =>
      cases walked
      exact nothing_from_code _
  | element _ kind own children =>
      simp only [noticesIn, bind, Except.bind] at walked
      split at walked
      · cases walked
      next pair alone =>
        obtain ⟨first, deeper⟩ := pair
        have here : ∀ block ∈ Check.blocksOf first, FromCode ((kind, own.line) :: elementsAmong children) block :=
          fun block held => from_code_mono _ _ block (by simp)
            (element_from_code around _ own.line kind first deeper alone block held)
        split at walked
        · split at walked
          · cases walked
          next below inside =>
            cases walked
            intro block held
            rw [blocks_of_append, List.mem_append] at held
            rcases held with held | held
            · exact here block held
            · exact from_code_mono _ _ block (List.subset_cons_self _ _)
                (notices_among_from_code around _ children below inside block held)
        · cases walked
          exact here

theorem notices_among_from_code (around : Surroundings) (place : Markup.Place) (nodes : List Node)
    (notices : List Notice) (walked : noticesAmong around place nodes = .ok notices) :
    ∀ block ∈ Check.blocksOf notices, FromCode (elementsAmong nodes) block := by
  cases nodes with
  | nil =>
      cases walked
      exact nothing_from_code _
  | cons node rest =>
      simp only [noticesAmong, bind, Except.bind] at walked
      split at walked
      · cases walked
      next first alone =>
        split at walked
        · cases walked
        next others behind =>
          cases walked
          intro block held
          rw [blocks_of_append, List.mem_append] at held
          rcases held with held | held
          · exact from_code_mono _ _ block (List.subset_append_left _ _)
              (notices_in_from_code around place node first alone block held)
          · exact from_code_mono _ _ block (List.subset_append_right _ _)
              (notices_among_from_code around place rest others behind block held)

end

end MarkupLint.Code

namespace MarkupLint.Check

open Code (Block)

def lineCount (text : String) : Nat := (Text.splitLines text.toList).length

theorem line_count_full_text (names : List String) (project : ProjectText) (source : String) :
    lineCount (fullText names project source) = lineCount (project.augment source) := by
  have look := congrArg List.length
    (Masking.mask_names_lines Text.splitLines Text.split_lines_counts names (project.augment source).toList)
  rw [List.length_map, List.length_map] at look
  rw [lineCount, fullText, Masking.maskAll, String.toList_ofList, look, lineCount]

theorem augment_alone (source : String) : ProjectText.augment {} source = source := rfl

theorem survey_failed (bench : Workbench) (origin : Origin) (source : String) (finish : Markup.Place)
    (nodes : List Markup.Node) (session : Session) (failure : Failure)
    (walked : Code.noticesAmong ⟨bench.project, source, session.ignores.languages, Inline.skippingLines source⟩
      .unknown nodes = .error failure) :
    ((survey bench origin false source finish nodes).run session).1 = .error failure := by
  have ran : (survey bench origin false source finish nodes).run session = pure (.error failure, session) := by
    simp [survey, walked]
  exact congrArg Prod.fst ran

structure Start where
  request : Request
  session : Session

namespace Start

variable (bench : Workbench) (start : Start)

def origin : Origin := displayed start.request.origin

def settled : Session := ((readSettings { start.request with origin := start.origin }).run start.session).2

def handed : String := fullText start.settled.ignores.substitutions start.request.text start.request.source

def prepared : Session := ((prepareRegistry bench).run start.settled).2

def document : Markup.Document :=
  Markup.Document.ofSource bench.files (start.prepared bench).registry start.request.reportRank start.origin.name
    (readText start.handed)

def walk (nodes : List Markup.Node) : Except Failure Survey × Session :=
  (survey bench start.origin false start.handed (start.document bench).finish nodes).run
    { start.prepared bench with registry := (start.document bench).registry }

-- The blocks of the document and the session in which their checks begin, unless the check ends before that.
def blocks? : Option (List Block × Session) :=
  match (start.document bench).nodes with
  | .error _ => none
  | .ok nodes =>
      match start.walk bench nodes with
      | (.error _, _) => none
      | (.ok seen, after) => some (seen.blocks, after)

end Start

section Blocks

variable (bench : Workbench) (nested other : Request → Checking Report) (origin : Origin) (reportRank : Nat)
  (source : String)

def startsAt (block : Block) (session : Session) : List Start :=
  if block.language = .rst then [⟨{ source := block.raw, origin := origin, reportRank := reportRank }, session⟩]
  else []

-- The checks that begin while the blocks of a document are checked one after the other, up to a failure.
def startsAmong : List Block → Session → List Start
  | [], _ => []
  | block :: rest, session =>
      let outcome := (checkBlock bench nested origin reportRank false source block).run session
      startsAt origin reportRank block session ++ if outcome.1.failure.isSome then [] else startsAmong rest outcome.2

theorem starts_at_mem (block : Block) (session : Session) (start : Start)
    (begun : start ∈ startsAt origin reportRank block session) :
    start.request.text = {} ∧ block.language = .rst ∧ start.request.source = block.raw := by
  rw [startsAt] at begun
  split at begun
  next document =>
    obtain rfl := List.mem_singleton.mp begun
    exact ⟨rfl, document, rfl⟩
  · cases begun

theorem starts_among_mem (blocks : List Block) (session : Session) (start : Start)
    (begun : start ∈ startsAmong bench nested origin reportRank source blocks session) :
    start.request.text = {} ∧ ∃ block ∈ blocks, block.language = .rst ∧ start.request.source = block.raw := by
  induction blocks generalizing session with
  | nil => cases begun
  | cons block rest ih =>
      rcases List.mem_append.mp begun with here | later
      · obtain ⟨alone, document, same⟩ := starts_at_mem origin reportRank block session start here
        exact ⟨alone, block, .head _, document, same⟩
      · split at later
        · cases later
        · obtain ⟨alone, block, held, document, same⟩ := ih _ later
          exact ⟨alone, block, .tail _ held, document, same⟩

theorem check_block_agree (block : Block) (session : Session)
    (agree : ∀ start ∈ startsAt origin reportRank block session,
      (nested start.request).run start.session = (other start.request).run start.session) :
    (checkBlock bench nested origin reportRank false source block).run session
      = (checkBlock bench other origin reportRank false source block).run session := by
  have code : (checkCode bench nested origin reportRank false block.language block.raw).run session
      = (checkCode bench other origin reportRank false block.language block.raw).run session := by
    cases language : block.language with
    | rst =>
        refine agree ⟨{ source := block.raw, origin := origin, reportRank := reportRank }, session⟩ ?_
        rw [startsAt, if_pos language]
        exact List.mem_singleton.mpr rfl
    | _ => rfl
  rw [checkBlock, checkBlock, StateT.run_bind, StateT.run_bind, code]

theorem each_agree (blocks : List Block) (session : Session)
    (agree : ∀ start ∈ startsAmong bench nested origin reportRank source blocks session,
      start ∈ startsAmong bench other origin reportRank source blocks session →
        (nested start.request).run start.session = (other start.request).run start.session) :
    (Report.each (checkBlock bench nested origin reportRank false source) blocks).run session
      = (Report.each (checkBlock bench other origin reportRank false source) blocks).run session := by
  induction blocks generalizing session with
  | nil => rfl
  | cons block rest ih =>
      have first := check_block_agree bench nested other origin reportRank source block session fun start held =>
        agree start (List.mem_append_left _ held) (List.mem_append_left _ held)
      simp only [startsAmong, first] at agree
      rw [Report.each_cons_run, Report.each_cons_run, first]
      generalize (checkBlock bench other origin reportRank false source block).run session = outcome at agree ⊢
      split
      · rfl
      next whole =>
        rw [ih outcome.2 fun start inNested inOther => agree start (List.mem_append_right _ (by rwa [if_neg whole]))
          (List.mem_append_right _ (by rwa [if_neg whole]))]

end Blocks

namespace Start

variable (bench : Workbench) (start : Start)

def calls (nested : Request → Checking Report) : List Start :=
  match start.blocks? bench with
  | none => []
  | some (blocks, after) =>
      startsAmong bench nested start.origin start.request.reportRank start.handed blocks after

theorem blocks_eq_some_iff (blocks : List Block) (after : Session) :
    start.blocks? bench = some (blocks, after) ↔ ∃ nodes seen, (start.document bench).nodes = .ok nodes ∧
      start.walk bench nodes = (.ok seen, after) ∧ seen.blocks = blocks := by
  unfold blocks?
  constructor
  · intro found
    split at found
    · cases found
    next nodes read =>
      split at found
      · cases found
      next seen session walked =>
        cases found
        exact ⟨nodes, seen, read, walked, rfl⟩
  · rintro ⟨nodes, seen, read, walked, rfl⟩
    rw [read]
    dsimp only
    rw [walked]

theorem calls_eq (nested : Request → Checking Report) (blocks : List Block) (after : Session)
    (found : start.blocks? bench = some (blocks, after)) : start.calls bench nested =
      startsAmong bench nested start.origin start.request.reportRank start.handed blocks after := by
  unfold calls
  rw [found]

theorem run_bind_congr {α β : Type} (first : Checking α) (next other : α → Checking β) (session : Session)
    (same : (next (first.run session).1).run (first.run session).2
      = (other (first.run session).1).run (first.run session).2) :
    (first >>= next).run session = (first >>= other).run session := same

theorem run_bind_first {α β : Type} (first second : Checking α) (next : α → Checking β) (session : Session)
    (same : first.run session = second.run session) : (first >>= next).run session = (second >>= next).run session := by
  rw [StateT.run_bind, StateT.run_bind, same]

section Steps

attribute [local irreducible] Markup.Document.ofSource survey

-- What a check does apart from the blocks of its document is the same however documents inside are checked.
theorem check_text_agree (nested other : Request → Checking Report)
    (agree : ∀ inner ∈ start.calls bench nested, inner ∈ start.calls bench other →
      (nested inner.request).run inner.session = (other inner.request).run inner.session) :
    (checkText bench nested start.request).run start.session
      = (checkText bench other start.request).run start.session := by
  unfold checkText
  refine run_bind_congr _ _ _ _ ?_
  refine run_bind_congr _ _ _ _ ?_
  refine run_bind_congr _ _ _ _ ?_
  refine run_bind_congr _ _ _ _ ?_
  refine run_bind_congr _ _ _ _ ?_
  generalize opened : Markup.Document.ofSource _ _ _ _ _ = parsed
  obtain rfl : start.document bench = parsed := opened
  cases read : (start.document bench).nodes with
  | error cause => rfl
  | ok nodes =>
      refine run_bind_congr _ _ _ _ ?_
      generalize surveyed : StateT.run (survey _ _ _ _ _ _) _ = walk
      obtain rfl : start.walk bench nodes = walk := surveyed
      cases walked : start.walk bench nodes with
      | mk result after =>
          cases result with
          | error failure => rfl
          | ok seen =>
              have blocks := (start.blocks_eq_some_iff bench seen.blocks after).mpr ⟨nodes, seen, read, walked, rfl⟩
              rw [calls_eq bench start nested _ _ blocks, calls_eq bench start other _ _ blocks] at agree
              have each := each_agree bench nested other start.origin start.request.reportRank start.handed seen.blocks
                after agree
              exact run_bind_first _ _ _ after each

end Steps

def Shortens : Prop :=
  ∀ nodes, (start.document bench).nodes = .ok nodes → ∀ raw attributes line,
    (.literalBlock raw attributes, line) ∈ Code.elementsAmong nodes → (Code.languageName? attributes).isSome = true →
      lineCount raw < lineCount start.handed

def Begins (outer inner : Start) : Prop := inner ∈ outer.calls bench (check bench)

def LeadsTo : Start → Start → Prop := Relation.ReflTransGen (Begins bench)

theorem line_count_handed : lineCount start.handed = lineCount (start.request.text.augment start.request.source) :=
  line_count_full_text _ _ _

theorem line_count_lt_depth : lineCount start.handed < depthOf start.request := by
  rw [line_count_handed]
  exact Nat.lt_succ_self _

theorem walk_from_code (nodes : List Markup.Node) (seen : Survey) (after : Session)
    (walked : start.walk bench nodes = (.ok seen, after)) :
    ∀ block ∈ seen.blocks, Code.FromCode (Code.elementsAmong nodes) block := by
  let around : Code.Surroundings :=
    ⟨bench.project, start.handed, (start.prepared bench).ignores.languages, Inline.skippingLines start.handed⟩
  cases found : Code.noticesAmong around .unknown nodes with
  | error failure =>
      have failed : (start.walk bench nodes).1 = .error failure :=
        survey_failed bench start.origin start.handed _ nodes _ failure found
      rw [walked] at failed
      cases failed
  | ok notices =>
      have result : (start.walk bench nodes).1 = .ok ⟨blocksOf notices, linksOf (start.document bench).finish notices⟩ :=
        survey_run bench start.origin false start.handed _ nodes _ notices found
      rw [walked] at result
      cases result
      exact Code.notices_among_from_code around .unknown nodes notices found

theorem calls_mem (nested : Request → Checking Report) (inner : Start) (begun : inner ∈ start.calls bench nested) :
    inner.request.text = {} ∧ ∃ nodes, (start.document bench).nodes = .ok nodes ∧
      ∃ attributes line, (.literalBlock inner.request.source attributes, line) ∈ Code.elementsAmong nodes ∧
        (Code.languageName? attributes).isSome = true := by
  cases found : start.blocks? bench with
  | none =>
      unfold calls at begun
      rw [found] at begun
      cases begun
  | some pair =>
      obtain ⟨blocks, after⟩ := pair
      obtain ⟨nodes, seen, read, walked, rfl⟩ := (start.blocks_eq_some_iff bench blocks after).mp found
      rw [calls_eq bench start nested _ _ found] at begun
      obtain ⟨alone, block, held, isDocument, same⟩ := starts_among_mem _ _ _ _ _ _ _ inner begun
      obtain ⟨attributes, line, literal, named⟩ :=
        start.walk_from_code bench nodes seen after walked block held isDocument
      exact ⟨alone, nodes, read, attributes, line, same ▸ literal, named⟩

theorem begins_shorter (outer inner : Start) (shortens : outer.Shortens bench) (begins : Begins bench outer inner) :
    inner.request.text = {} ∧ lineCount inner.handed = lineCount inner.request.source ∧
      lineCount inner.handed < lineCount outer.handed := by
  obtain ⟨alone, nodes, read, attributes, line, held, named⟩ := calls_mem bench outer _ inner begins
  have own : lineCount inner.handed = lineCount inner.request.source := by
    rw [line_count_handed, alone, augment_alone]
  exact ⟨alone, own, own.trans_lt (shortens nodes read _ attributes line held named)⟩

section Shortening

variable (shortens : ∀ inner, LeadsTo bench start inner → inner.Shortens bench)

include shortens

-- With a depth beyond the number of lines, the bound makes no difference. The induction is on the number of lines.
theorem check_within_run (depth : Nat) (enough : lineCount start.handed < depth) :
    (checkWithin bench depth start.request).run start.session
      = (checkText bench (check bench) start.request).run start.session := by
  induction lines : lineCount start.handed using Nat.strong_induction_on generalizing start depth with
  | h count ih =>
      subst lines
      obtain ⟨depth, rfl⟩ : ∃ less, depth = less + 1 := ⟨depth - 1, by omega⟩
      refine check_text_agree bench start (checkWithin bench depth) (check bench) fun inner _ begins => ?_
      obtain ⟨-, -, fewer⟩ := begins_shorter bench start inner (shortens start .refl) begins
      have further : ∀ last, LeadsTo bench inner last → last.Shortens bench :=
        fun last leads => shortens last (.head begins leads)
      -- Both for what is left of the depth and for the depth of its own, the document inside has few enough lines.
      have within := ih _ fewer inner further depth (by omega) rfl
      have whole := ih _ fewer inner further (depthOf inner.request) inner.line_count_lt_depth rfl
      exact within.trans whole.symm

theorem check_run : (check bench start.request).run start.session
    = (checkText bench (check bench) start.request).run start.session :=
  check_within_run bench start shortens (depthOf start.request) start.line_count_lt_depth

end Shortening

end Start

attribute [local irreducible] check

-- A check that is not bounded in depth ends: so do those that it begins, with the results that it uses.
inductive Ends (bench : Workbench) : Start → Report × Session → Prop
  | intro (start : Start) (nested : Request → Checking Report)
      (inside : ∀ inner ∈ start.calls bench nested, Ends bench inner ((nested inner.request).run inner.session)) :
      Ends bench start ((checkText bench nested start.request).run start.session)

theorem ends_unique (bench : Workbench) (start : Start) (first second : Report × Session)
    (ends : Ends bench start first) (again : Ends bench start second) : first = second := by
  induction ends generalizing second with
  | intro start nested inside ih =>
      cases again with
      | intro _ other insideOther =>
          refine start.check_text_agree bench nested other fun inner inNested inOther => ?_
          exact ih inner inNested _ (insideOther inner inOther)

theorem check_ends (bench : Workbench) (start : Start)
    (shortens : ∀ inner, start.LeadsTo bench inner → inner.Shortens bench) :
    Ends bench start ((check bench start.request).run start.session) := by
  induction lines : lineCount start.handed using Nat.strong_induction_on generalizing start with
  | h count ih =>
      subst lines
      rw [start.check_run bench shortens]
      refine .intro start (check bench) fun inner begins => ?_
      obtain ⟨-, -, fewer⟩ := Start.begins_shorter bench start inner (shortens start .refl) begins
      exact ih _ fewer inner (fun last leads => shortens last (.head begins leads)) rfl

/-- Suppose that code has fewer lines than the text that its document was read from, in every document that a check
comes to. Then the check ends without any bound on the depth, with the result that is given. Each check that begins
inside another one is without the project, so nothing is added to its document, and the text that it hands on has
fewer lines than the one around it: masking keeps the number of lines. -/
theorem nested_checks_end (bench : Workbench) (start : Start)
    (shortens : ∀ inner, start.LeadsTo bench inner → inner.Shortens bench) :
    (∀ result, Ends bench start result ↔ result = (check bench start.request).run start.session) ∧
    (∀ outer inner, start.LeadsTo bench outer → outer.Begins bench inner →
      inner.request.text = {} ∧ lineCount inner.handed = lineCount inner.request.source ∧
        lineCount inner.handed < lineCount outer.handed) ∧
    ∀ names project source, lineCount (fullText names project source) = lineCount (project.augment source) := by
  refine ⟨fun result => ⟨fun ends => ?_, ?_⟩, fun outer inner leads begins => ?_, line_count_full_text⟩
  · exact ends_unique bench start _ _ ends (check_ends bench start shortens)
  · intro same
    rw [same]
    exact check_ends bench start shortens
  · exact Start.begins_shorter bench outer inner (shortens outer leads) begins

def Start.isShortened (bench : Workbench) (start : Start) : Bool :=
  match (start.document bench).nodes with
  | .error _ => true
  | .ok nodes => (Code.elementsAmong nodes).all fun
      | (.literalBlock raw attributes, _) =>
          (Code.languageName? attributes).isNone || decide (lineCount raw < lineCount start.handed)
      | _ => true

def Start.isShortenedDown (bench : Workbench) : Nat → Start → Bool
  | 0, _ => false
  | depth + 1, start =>
      start.isShortened bench && (start.calls bench (check bench)).all (isShortenedDown bench depth)

theorem shortens_of_is_shortened (bench : Workbench) (start : Start) (shortened : start.isShortened bench = true) :
    start.Shortens bench := by
  intro nodes read raw attributes line held named
  unfold Start.isShortened at shortened
  rw [read] at shortened
  have short := List.all_eq_true.mp shortened _ held
  rw [Bool.or_eq_true, decide_eq_true_eq] at short
  exact short.resolve_left fun unnamed => by simp [Option.isNone_iff_eq_none.mp unnamed] at named

theorem shortens_of_is_shortened_down (bench : Workbench) (depth : Nat) (start : Start)
    (shortened : start.isShortenedDown bench depth = true) (inner : Start) (leads : start.LeadsTo bench inner) :
    inner.Shortens bench := by
  induction depth generalizing start with
  | zero => cases shortened
  | succ depth ih =>
      obtain ⟨here, inside⟩ := Bool.and_eq_true_iff.mp shortened
      rcases Relation.ReflTransGen.cases_head leads with rfl | ⟨next, begins, further⟩
      · exact shortens_of_is_shortened bench start here
      · exact ih next (List.all_eq_true.mp inside next begins) further

def belowProlog : Start where
  request :=
    { source := ".. code-block:: rst\n\n   .. code-block:: rst\n\n      >>> 1", origin := .text "a", reportRank := 1
      text := { prolog := ".. code-block:: rst\n\n   >>> 0" } }
  session := {}

/-- The document in the prolog and the one below it are checked, and the second has one more inside. -/
theorem nested_checks_end_below_prolog :
    (∀ inner, belowProlog.LeadsTo bareBench inner → inner.Shortens bareBench) ∧
      Ends bareBench belowProlog ((check bareBench belowProlog.request).run belowProlog.session) ∧
      (belowProlog.calls bareBench (check bareBench)).map (lineCount ·.handed) = [1, 3] ∧
      ∀ inner ∈ belowProlog.calls bareBench (check bareBench),
        lineCount inner.handed < lineCount belowProlog.handed := by
  have evaluated : belowProlog.isShortenedDown bareBench 3 = true ∧
      (belowProlog.calls bareBench (check bareBench)).map (lineCount ·.handed) = [1, 3] := by
    decide +kernel
  have shortens := shortens_of_is_shortened_down bareBench 3 belowProlog evaluated.1
  obtain ⟨ends, fewer, -⟩ := nested_checks_end bareBench belowProlog shortens
  refine ⟨shortens, (ends _).mpr rfl, evaluated.2, fun inner begins => ?_⟩
  exact (fewer belowProlog inner .refl begins).2.2

end MarkupLint.Check
