import MarkupLint.Check

set_option autoImplicit false

namespace MarkupLint

namespace Session

structure Alike (first second : Session) : Prop where
  registry : first.registry = second.registry
  ignores : first.ignores = second.ignores

def withIgnores (session : Session) (ignores : Ignores) : Session := { session with ignores := ignores }

end Session

namespace Ignores

def addAll (ignores : Ignores) (sources : List String) : Ignores := sources.foldl addInline ignores

theorem add_all_append (ignores : Ignores) (first second : List String) :
    ignores.addAll (first ++ second) = (ignores.addAll first).addAll second := List.foldl_append

end Ignores

namespace Check

variable {α β : Type}

-- An action whose result depends on the registry and the lists alone, and that only adds to the lists.
structure Steady (action : Checking α) : Prop where
  result : ∀ first second, Session.Alike first second → (action.run first).1 = (action.run second).1
  alike : ∀ first second, Session.Alike first second → Session.Alike (action.run first).2 (action.run second).2
  grows : ∀ session, ∃ sources, (action.run session).2.ignores = session.ignores.addAll sources

theorem steady_pure (value : α) : Steady (pure value : Checking α) where
  result _ _ _ := rfl
  alike _ _ same := same
  grows _ := ⟨[], rfl⟩

theorem steady_bind (first : Checking α) (next : α → Checking β) (firstSteady : Steady first)
    (nextSteady : ∀ value, Steady (next value)) : Steady (first >>= next) where
  result one two same := by
    change ((next (first.run one).1).run (first.run one).2).1 = ((next (first.run two).1).run (first.run two).2).1
    rw [firstSteady.result one two same]
    exact (nextSteady _).result _ _ (firstSteady.alike one two same)
  alike one two same := by
    change Session.Alike ((next (first.run one).1).run (first.run one).2).2
      ((next (first.run two).1).run (first.run two).2).2
    rw [firstSteady.result one two same]
    exact (nextSteady _).alike _ _ (firstSteady.alike one two same)
  grows session := by
    obtain ⟨earlier, firstGrown⟩ := firstSteady.grows session
    obtain ⟨later, nextGrown⟩ := (nextSteady (first.run session).1).grows (first.run session).2
    refine ⟨earlier ++ later, ?_⟩
    change ((next (first.run session).1).run (first.run session).2).2.ignores = _
    rw [nextGrown, firstGrown, Ignores.add_all_append]

theorem steady_get (next : Session → Checking α) (blind : ∀ one two, Session.Alike one two → next one = next two)
    (nextSteady : ∀ session, Steady (next session)) : Steady (get >>= next) where
  result one two same := by
    change ((next one).run one).1 = ((next two).run two).1
    rw [blind one two same]
    exact (nextSteady two).result one two same
  alike one two same := by
    change Session.Alike ((next one).run one).2 ((next two).run two).2
    rw [blind one two same]
    exact (nextSteady two).alike one two same
  grows session := (nextSteady session).grows session

theorem steady_modify (change : Session → Session)
    (alike : ∀ one two, Session.Alike one two → Session.Alike (change one) (change two))
    (grows : ∀ session, ∃ sources, (change session).ignores = session.ignores.addAll sources) :
    Steady (modify change : Checking Unit) where
  result _ _ _ := rfl
  alike := alike
  grows := grows

theorem steady_note (note : Session → Session) (sameRegistry : ∀ session, (note session).registry = session.registry)
    (sameIgnores : ∀ session, (note session).ignores = session.ignores) :
    Steady (modify note : Checking Unit) := by
  apply steady_modify
  · intro one two same
    constructor
    · rw [sameRegistry, sameRegistry, same.registry]
    · rw [sameIgnores, sameIgnores, same.ignores]
  · exact fun session => ⟨[], sameIgnores session⟩

theorem steady_log (lines : List LogLine) : Steady (modify (·.log lines) : Checking Unit) :=
  steady_note _ (fun _ => rfl) fun _ => rfl

def noted (request : Request) (session : Session) : Session := ((reportUnknown request).run session).2

theorem noted_eq (request : Request) (session : Session) :
    noted request session =
      if request.warnUnknown && !session.reported.contains (request.source, request.origin) then
        { session.log (Inline.settingWarnings request.origin request.source) with
          reported := (request.source, request.origin) :: session.reported }
      else session := rfl

@[simp]
theorem noted_registry (request : Request) (session : Session) :
    (noted request session).registry = session.registry := by
  rw [noted_eq]
  split <;> rfl

@[simp]
theorem noted_ignores (request : Request) (session : Session) :
    (noted request session).ignores = session.ignores := by
  rw [noted_eq]
  split <;> rfl

theorem noted_again (request : Request) (session : Session) (ignores : Ignores) :
    noted request ((noted request session).withIgnores ignores) = (noted request session).withIgnores ignores := by
  rw [noted_eq request (Session.withIgnores _ _)]
  refine if_neg ?_
  change ¬ (request.warnUnknown && !(noted request session).reported.contains (request.source, request.origin)) = true
  rw [noted_eq]
  split
  · simp
  next unchanged => exact unchanged

theorem read_names_run (request : Request) (kind : IgnoreKind) (session : Session) :
    ((readNames request kind).run session).2
      = (noted request session).withIgnores (session.ignores.add kind (Inline.names kind request.source)) := by
  rw [← noted_ignores request session]
  rfl

theorem read_names_again (request : Request) (kind : IgnoreKind) (session : Session) (ignores : Ignores) :
    ((readNames request kind).run ((noted request session).withIgnores ignores)).2
      = (noted request session).withIgnores (ignores.add kind (Inline.names kind request.source)) := by
  rw [read_names_run, noted_again]
  rfl

-- The names are added kind by kind, and what is unknown is reported before the first kind only.
theorem read_settings_run (request : Request) (session : Session) :
    ((readSettings request).run session).2
      = (noted request session).withIgnores (session.ignores.addInline request.source) := by
  change ((readNames request .languages).run ((readNames request .substitutions).run
    ((readNames request .roles).run ((readNames request .directives).run session).2).2).2).2 = _
  rw [read_names_run request .directives, read_names_again, read_names_again, read_names_again]
  rfl

@[simp]
theorem read_settings_ignores (request : Request) (session : Session) :
    ((readSettings request).run session).2.ignores = session.ignores.addInline request.source := by
  rw [read_settings_run]
  rfl

@[simp]
theorem read_settings_registry (request : Request) (session : Session) :
    ((readSettings request).run session).2.registry = session.registry := by
  rw [read_settings_run]
  exact noted_registry request session

theorem steady_read_settings (request : Request) : Steady (readSettings request) where
  result _ _ _ := rfl
  alike one two same := by
    constructor
    · rw [read_settings_registry, read_settings_registry, same.registry]
    · rw [read_settings_ignores, read_settings_ignores, same.ignores]
  grows session := ⟨[request.source], read_settings_ignores request session⟩

theorem steady_prepare_registry (bench : Workbench) : Steady (prepareRegistry bench) := by
  apply steady_modify
  · intro one two same
    constructor
    · simp only [same.registry, same.ignores]
    · exact same.ignores
  · exact fun session => ⟨[], rfl⟩

def AboutReading (line : LogLine) : Prop :=
  (∃ origin, line = attributeWarning origin) ∨ ∃ origin place, line = lineWarning origin place

-- A property that all steps of a check have once its settings are read, and that is handed on from steps to what is made
-- of them. A step may look at the session as long as it makes no difference between sessions that are alike.
structure Inherited (holds : (α : Type) → Checking α → Prop) : Prop where
  done : ∀ (α : Type) (value : α), holds α (pure value)
  bind : ∀ (α β : Type) (first : Checking α) (next : α → Checking β), holds α first → (∀ value, holds β (next value)) →
    holds β (first >>= next)
  look : ∀ (α : Type) (next : Session → Checking α), (∀ one two, Session.Alike one two → next one = next two) →
    (∀ session, holds α (next session)) → holds α (get >>= next)
  log : ∀ lines, (∀ line ∈ lines, AboutReading line) → holds Unit (modify (·.log lines))
  call : ∀ call, holds Unit (modify fun session => { session with calls := session.calls ++ [call] })
  prepare : ∀ bench, holds Unit (prepareRegistry bench)
  adopt : ∀ registry, holds Unit (modify fun session => { session with registry := registry })

theorem steady_inherited : Inherited fun _ => Steady where
  done _ := steady_pure
  bind _ _ := steady_bind
  look _ := steady_get
  log lines _ := steady_log lines
  call _ := steady_note _ (fun _ => rfl) fun _ => rfl
  prepare := steady_prepare_registry
  adopt _ := steady_modify _ (fun _ _ same => ⟨rfl, same.ignores⟩) fun _ => ⟨[], rfl⟩

namespace Inherited

variable {holds : (α : Type) → Checking α → Prop} (inherited : Inherited holds)
include inherited

theorem survey (bench : Workbench) (origin : Origin) (source : String) (finish : Markup.Place)
    (nodes : List Markup.Node) : holds _ (survey bench origin false source finish nodes) := by
  apply inherited.look
  · intro one two same
    rw [same.ignores]
  · intro session
    dsimp only
    split
    · exact inherited.done _ _
    · refine inherited.bind _ _ _ _ (inherited.log _ fun line member => ?_) fun _ => inherited.done _ _
      obtain ⟨place, -, rfl⟩ := List.mem_map.mp member
      exact .inr ⟨origin, place, rfl⟩

theorem run_tool (bench : Workbench) (plan : Tool.Plan) : holds _ (runTool bench plan) := by
  refine inherited.bind _ _ _ _ (inherited.call plan.call) fun _ => ?_
  cases bench.tools.run plan.call with
  | none => exact inherited.done _ _
  | some stderr => exact inherited.done _ _

theorem each {α : Type} (checkPiece : α → Checking Report) (piece : ∀ piece, holds _ (checkPiece piece))
    (pieces : List α) : holds _ (Report.each checkPiece pieces) := by
  induction pieces with
  | nil => exact inherited.done _ _
  | cons first rest ih =>
      apply inherited.bind _ _ _ _ (piece first)
      intro report
      cases report.failure with
      | some failure => exact inherited.done _ _
      | none => exact inherited.bind _ _ _ _ ih fun _ => inherited.done _ _

section Nested

variable (bench : Workbench) (nested : Request → Checking Report)

theorem check_code (origin : Origin) (reportRank : Nat) (warnUnknown : Bool)
    (inner : ∀ request, request.warnUnknown = warnUnknown → holds _ (nested request)) (language : Code.Language)
    (code : String) : holds _ (checkCode bench nested origin reportRank warnUnknown language code) := by
  cases language with
  | bash => exact inherited.run_tool bench _
  | c =>
      simp only [checkCode]
      split
      · exact inherited.run_tool bench _
      · exact inherited.done _ _
  | cpp =>
      simp only [checkCode]
      split
      · exact inherited.run_tool bench _
      · exact inherited.done _ _
  | rst => exact inner _ rfl
  | _ => exact inherited.done _ _

theorem check_block (origin : Origin) (reportRank : Nat) (warnUnknown : Bool)
    (inner : ∀ request, request.warnUnknown = warnUnknown → holds _ (nested request)) (source : String)
    (block : Code.Block) : holds _ (checkBlock bench nested origin reportRank warnUnknown source block) :=
  inherited.bind _ _ _ _ (inherited.check_code bench nested origin reportRank warnUnknown inner _ _)
    fun _ => inherited.done _ _

-- A check takes over the settings of its document first. Documents inside are never asked for their unknown settings.
theorem check_text_steps (inner : ∀ request, request.warnUnknown = false → holds _ (nested request))
    (request : Request) :
    ∃ rest : Checking Report, holds _ rest ∧ checkText bench nested request
      = readSettings { request with origin := displayed request.origin } >>= fun _ => rest := by
  refine ⟨_, ?_, rfl⟩
  -- The source is masked with the lists, and the document is read with the registry: both are alike.
  apply inherited.look
  · intro one two same
    rw [same.ignores]
  intro session
  apply inherited.bind _ _ _ _ (inherited.prepare bench)
  intro _
  apply inherited.look
  · intro one two same
    rw [same.registry]
  intro prepared
  apply inherited.bind _ _ _ _ (inherited.adopt _)
  intro _
  split
  · split
    · refine inherited.bind _ _ _ _ (inherited.log _ fun line member => ?_) fun _ => ?_
      · exact .inl ⟨_, List.mem_singleton.mp member⟩
      · apply inherited.look
        · intro one two same
          simp only [checkText.messagesOf, same.ignores]
        · exact fun _ => inherited.done _ _
    · exact inherited.done _ _
  · apply inherited.bind _ _ _ _ (inherited.survey bench _ _ _ _)
    intro seen
    cases seen with
    | error failure => exact inherited.done _ _
    | ok seen =>
        have block := inherited.check_block bench nested (displayed request.origin) request.reportRank false inner
        apply inherited.bind _ _ _ _ (inherited.each _ (block _) seen.blocks)
        intro found
        apply inherited.look
        · intro one two same
          rw [same.ignores]
        · intro _
          apply inherited.look
          · intro one two same
            simp only [checkText.messagesOf, same.ignores]
          · exact fun _ => inherited.done _ _

end Nested

end Inherited

theorem steady_check_text (bench : Workbench) (nested : Request → Checking Report)
    (nestedSteady : ∀ request, Steady (nested request)) (request : Request) :
    Steady (checkText bench nested request) := by
  obtain ⟨rest, restSteady, steps⟩ :=
    steady_inherited.check_text_steps bench nested (fun inner _ => nestedSteady inner) request
  rw [steps]
  exact steady_bind _ _ (steady_read_settings _) fun _ => restSteady

theorem steady_check_within (bench : Workbench) (depth : Nat) (request : Request) :
    Steady (checkWithin bench depth request) := by
  induction depth generalizing request with
  | zero => exact steady_pure _
  | succ depth ih => exact steady_check_text bench (checkWithin bench depth) ih request

theorem check_within_ignores (bench : Workbench) (depth : Nat) (request : Request) (session : Session) :
    ∃ inner, ((checkWithin bench (depth + 1) request).run session).2.ignores
      = session.ignores.addAll (request.source :: inner) := by
  obtain ⟨rest, restSteady, steps⟩ := steady_inherited.check_text_steps bench (checkWithin bench depth)
    (fun inner _ => steady_check_within bench depth inner) request
  rw [checkWithin, steps]
  let settled := ((readSettings { request with origin := displayed request.origin }).run session).2
  obtain ⟨inner, grown⟩ := restSteady.grows settled
  rw [read_settings_ignores] at grown
  exact ⟨inner, grown⟩

end Check

theorem steady_check (bench : Workbench) (request : Request) : Check.Steady (check bench request) :=
  Check.steady_check_within bench _ request

theorem check_ignores (bench : Workbench) (request : Request) (session : Session) :
    ∃ inner, ((check bench request).run session).2.ignores = session.ignores.addAll (request.source :: inner) := by
  rw [check, Check.depthOf]
  exact Check.check_within_ignores bench _ request session

end MarkupLint
