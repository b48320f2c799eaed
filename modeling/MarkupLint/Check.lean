import MarkupLint.Code.Block
import MarkupLint.Code.Doctest
import MarkupLint.Markup.Document
import MarkupLint.Masking
import MarkupLint.ProjectNames
import MarkupLint.ProjectText
import MarkupLint.Script.Diagnosis
import MarkupLint.Suppression
import MarkupLint.Tool.Run

set_option autoImplicit false

namespace MarkupLint

structure Workbench where
  project : Bool
  yaml : Bool
  tools : Tool.Toolbox
  files : FileSystem
  nesting : Nat

structure Session where
  registry : Registry := .empty
  ignores : Ignores := {}
  logs : List LogLine := []
  calls : List Tool.Call := []
  reported : List (String × Origin) := []

namespace Session

def log (session : Session) (lines : List LogLine) : Session :=
  { session with logs := session.logs ++ lines }

end Session

structure Request where
  source : String
  origin : Origin
  reportRank : Nat
  warnUnknown : Bool := false
  text : ProjectText := {}

abbrev Checking := StateM Session

namespace Check

def displayed : Origin → Origin
  | .text name => .text name
  | .file path => if path.name = "-" then .text "<stdin>" else .file path

def reportUnknown (request : Request) : Checking Unit :=
  modify fun session =>
    if request.warnUnknown && !session.reported.contains (request.source, request.origin) then
      { session.log (Inline.settingWarnings request.origin request.source) with
        reported := (request.source, request.origin) :: session.reported }
    else session

def readNames (request : Request) (kind : IgnoreKind) : Checking Unit := do
  -- The settings are looked through anew for every kind.
  reportUnknown request
  modify fun session =>
    { session with ignores := session.ignores.add kind (Inline.names kind request.source) }

def readSettings (request : Request) : Checking Unit := IgnoreKind.all.forM (readNames request)

def prepareRegistry (bench : Workbench) : Checking Unit :=
  modify fun session =>
    let ignores := session.ignores
    let withCode := if bench.project then session.registry
      else session.registry.addCodeDirectives ignores.directives
    let ignoring := withCode.ignore ignores.directives ignores.roles
    { session with registry := if bench.project then ignoring.ignoreProject else ignoring }

def attributeWarning (origin : Origin) : LogLine :=
  ⟨.warning, "An \x60AttributeError\x60 error occured. This is most probably due to a code block "
    ++ "directive (code/code-block/sourcecode) without a specified language. "
    ++ "This may result in a false negative for source: '" ++ origin.name ++ "'. "
    ++ "The reason can also be another directive. "
    ++ "For more information see the FAQ (https://rstcheck-core.rtfd.io/en/latest/faq) "
    ++ "or the corresponding github issue: "
    ++ "https://github.com/rstcheck/rstcheck-core/issues/3."⟩

def lineWarning (origin : Origin) (line : Option Int) : LogLine :=
  ⟨.warning, "Could not find line for literal block directive. "
    ++ "This could be due to an indented code block. "
    ++ "This message only warns about the missing line number and is no error of itself. "
    ++ "Source: '" ++ origin.name ++ "'"
    ++ (match line with | some line => " at line " ++ toString line | none => "")⟩

def linkMessage (finish place : Markup.Place) : Markup.Message :=
  ⟨.warning, if place.isKnown then place else finish, "(rst) Link is formatted in Markdown style.", []⟩

def blocksOf (notices : List Code.Notice) : List Code.Block :=
  notices.filterMap fun
    | .block block => some block
    | _ => none

def linksOf (finish : Markup.Place) (notices : List Code.Notice) : List Markup.Message :=
  notices.filterMap fun
    | .foreignLink place => some (linkMessage finish place)
    | _ => none

def linesWithoutDirective (notices : List Code.Notice) : List (Option Int) :=
  notices.filterMap fun
    | .noDirective line => some line
    | _ => none

structure Survey where
  blocks : List Code.Block
  links : List Markup.Message

def survey (bench : Workbench) (origin : Origin) (warnUnknown : Bool) (source : String)
    (finish : Markup.Place) (nodes : List Markup.Node) : Checking (Except Failure Survey) := do
  if warnUnknown then
    modify fun session => session.log (Inline.flowWarnings origin source)
  let around : Code.Surroundings :=
    { project := bench.project, source := source
      ignoredLanguages := (← get).ignores.languages
      skippingLines := Inline.skippingLines source }
  match Code.noticesAmong around .unknown nodes with
  | .error failure => pure (.error failure)
  | .ok notices =>
      modify fun session => session.log ((linesWithoutDirective notices).map (lineWarning origin))
      pure (.ok ⟨blocksOf notices, linksOf finish notices⟩)

def ofDiagnosis (origin : Origin) : Except Failure (Option Code.Diagnosis) → Report
  | .ok none => .empty
  | .ok (some found) => .ofFindings [⟨origin.name, found.line, found.message⟩]
  | .error failure => .failed failure

def runTool (bench : Workbench) (plan : Tool.Plan) : Checking Report := do
  modify fun session => { session with calls := session.calls ++ [plan.call] }
  match bench.tools.run plan.call with
  | none => pure .empty
  | some stderr => pure (Tool.readComplaints plan.read stderr)

def checkCode (bench : Workbench) (nested : Request → Checking Report) (origin : Origin)
    (reportRank : Nat) (warnUnknown : Bool) (language : Code.Language) (code : String) :
    Checking Report := do
  match language with
  | .json => pure (ofDiagnosis origin (Code.diagnoseJson bench.nesting code))
  | .xml => pure (ofDiagnosis origin (.ok (Code.diagnoseXml code)))
  | .python => pure (ofDiagnosis origin (.ok (Script.diagnose code)))
  | .doctest => pure (ofDiagnosis origin (.ok (Code.Doctest.diagnose code)))
  | .bash => runTool bench (Tool.bashPlan bench.tools origin code)
  | .c =>
      match Tool.compilerPlan Tool.cCompiler bench.tools origin code with
      | .ok plan => runTool bench plan
      | .error failure => pure (.failed failure)
  | .cpp =>
      match Tool.compilerPlan Tool.cppCompiler bench.tools origin (code ++ "\n") with
      | .ok plan => runTool bench plan
      | .error failure => pure (.failed failure)
  | .rst => nested { source := code, origin := origin, reportRank := reportRank
                     warnUnknown := warnUnknown }
  | .yaml => pure (if bench.yaml then ofDiagnosis origin (Code.diagnoseYaml code) else .empty)

def placeFinding (bench : Workbench) (source : String) (block : Code.Block) (finding : Finding) :
    Except Failure (Option Finding) :=
  if block.line.isNone then .ok none
  else
    (Code.beginning bench.project source block.raw block.line block.attributes block.byClass).map
      fun first => some ⟨finding.origin, first + (finding.line - 1),
        "(" ++ block.language.name ++ ") " ++ finding.message⟩

def checkBlock (bench : Workbench) (nested : Request → Checking Report) (origin : Origin)
    (reportRank : Nat) (warnUnknown : Bool) (source : String) (block : Code.Block) :
    Checking Report := do
  let report ← checkCode bench nested origin reportRank warnUnknown block.language block.raw
  pure (report.refine (placeFinding bench source block))

def withoutIgnored (ignored : Option MessagePattern) (report : Report) : Report :=
  report.filter fun finding => !((ignored.map (·.foundIn finding.message)).getD false)

def fullText (names : List String) (project : ProjectText) (source : String) : String :=
  Masking.maskAll names (project.augment source)

def readText (source : String) : String := String.ofList (Text.dropByteOrderMark source.toList)

def checkText (bench : Workbench) (nested : Request → Checking Report) (request : Request) :
    Checking Report := do
  let request := { request with origin := displayed request.origin }
  let origin := request.origin
  readSettings request
  let source := fullText (← get).ignores.substitutions request.text request.source
  prepareRegistry bench
  let parsed := Markup.Document.ofSource bench.files (← get).registry request.reportRank origin.name
    (readText source)
  modify fun session => { session with registry := parsed.registry }
  match parsed.nodes with
  | .error cause =>
      -- In a project the document is reported as far as it was read, if it needs what only the
      -- project can give.
      if bench.project && cause.isForgiven then do
        modify fun session => session.log [attributeWarning origin]
        pure (messagesOf (← get) origin request.reportRank parsed.messages)
      else pure (.failed (.document cause))
  | .ok nodes =>
      match ← survey bench origin false source parsed.finish nodes with
      | .error failure => pure (.failed failure)
      | .ok seen =>
          let found ← Report.each
            (checkBlock bench nested origin request.reportRank false source) seen.blocks
          let code := withoutIgnored (← get).ignores.messages found
          pure (code ++ messagesOf (← get) origin request.reportRank (parsed.messages ++ seen.links))
where
  messagesOf (session : Session) (origin : Origin) (reportRank : Nat)
      (messages : List Markup.Message) : Report :=
    Suppression.readMessages origin session.ignores.messages
      (Text.strip (Markup.renderMessages origin.name reportRank messages))

def checkWithin (bench : Workbench) : Nat → Request → Checking Report
  | 0, _ => pure .empty
  | depth + 1, request => checkText bench (checkWithin bench depth) request

-- Documents inside each other cannot be more than the outermost has lines.
def depthOf (request : Request) : Nat :=
  (Text.splitLines (request.text.augment request.source).toList).length + 1

end Check

def check (bench : Workbench) (request : Request) : Checking Report :=
  Check.checkWithin bench (Check.depthOf request) request

def checkAlone (bench : Workbench) (request : Request) : Checking Report := do
  let shared := (← get).ignores
  modify fun session => { session with ignores := {} }
  let report ← check bench request
  modify fun session => { session with ignores := shared }
  pure report

end MarkupLint
