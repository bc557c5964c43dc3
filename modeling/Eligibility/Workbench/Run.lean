import Eligibility.Workbench.Display

/-!
# Running steps

Steps are carried out in order.  A fault ends the step that meets it and leaves what the step had
done until then.
-/

set_option autoImplicit false

namespace Eligibility

namespace Workbench

/-! ## Rules by expression -/

def showNode (node : NodeId) : Trial Workbench Shown := do
  let rule ← findRule node
  return (← get).showRule rule

def makeRule (expression : Expression) : Trial Workbench (Rule NodeId Criterion) := do
  findRule (← build expression)

def bindName (name : String) (node : NodeId) : Trial Workbench Unit :=
  modify fun bench => { bench with registers := assign name node bench.registers }

/-! ## Asking rules -/

def onHistory {Kind : Type} (run : StateM CallHistory Kind) : StateM Workbench Kind :=
  fun bench =>
    let ran := run.run bench.history
    (ran.1, { bench with history := ran.2 })

def tryOnHistory {Kind : Type} (run : Trial CallHistory Kind) : Trial Workbench Kind :=
  ExceptT.mk (onHistory run.run)

def nameRemainder (rule : Rule NodeId Criterion) (subject : Subject) (name : Option String) :
    Trial Workbench Answer := do
  match ← tryOnHistory (rule.remainder (Criterion.answer subject)) with
  | none => return .remainder none
  | some remainder =>
    let bench ← get
    let placed := bench.graph.place remainder
    set { bench with graph := placed.2 }
    match name with
    | some name => bindName name placed.1
    | none => pure ()
    return .remainder (some (bench.showRemainder remainder))

/-! ## Builders -/

def storeBuilder (name : String) (builder : Builder) : Trial Workbench Unit :=
  modify fun bench => { bench with builders := assign name builder bench.builders }

def performCall (name : String) (builder : Builder) (call : Builder.Call) :
    Trial Workbench Unit := do
  match builder.perform (← get).graph call with
  | .ok (changed, graph) =>
    modify fun bench => { bench with graph := graph }
    storeBuilder name changed
  | .error fault => throw fault

def resolveCall : BuilderStep → Trial Workbench Builder.Call
  | .start rule => return .start (← build rule)
  | .join connective rule => return .join connective (← build rule)
  | .exclude rule => return .exclude (← build rule)
  | .negate => return .negate

def finish (builderName : String) (name : Option String) : Trial Workbench Answer := do
  let builder ← findBuilder builderName
  performCall builderName builder .build
  match builder.root with
  | none => return .done
  | some root =>
    let shown ← showNode root
    let isSealed := (← get).graph.isSealed root
    match name with
    | some name => bindName name root
    | none => pure ()
    return .built shown isSealed

/-! ## Answers -/

def namedParts : Rule NodeId Criterion → List (String × Rule NodeId Criterion)
  | .exclusive _ left right => [("left", left), ("right", right)]
  | .negation _ operand => [("wrapped", operand)]
  | .leaf .. | .constant .. | .compound .. => []

def namedValues : Rule NodeId Criterion → List (String × Value)
  | .leaf _ criterion => criterion.properties
  | .constant .. | .compound .. | .exclusive .. | .negation .. => []

def clausesOf : Rule NodeId Criterion → List (Rule NodeId Criterion)
  | .compound _ _ children => children
  | .leaf .. | .constant .. | .exclusive .. | .negation .. => []

def placeAll (bench : Workbench) (remainders : List (Rule.Remainder NodeId Criterion)) :
    Workbench :=
  { bench with
    graph := remainders.foldl (fun reached remainder => (reached.place remainder).2) bench.graph }

/-- Shows what an evaluation found, and puts the remainders in the graph. -/
def conclude {Found : Type} (logged : Logged Found)
    (remainders : Found → List (Rule.Remainder NodeId Criterion))
    (showFound : Workbench → Found → Answer) : StateM Workbench (Logged Answer) := do
  let bench ← get
  match logged.result with
  | .ok found =>
    set (bench.placeAll (remainders found))
    return ⟨logged.entries, .ok (showFound bench found)⟩
  | .error fault => return ⟨logged.entries, .error fault⟩

def evaluateOne (rule : Rule NodeId Criterion) (subject : Subject) (policy : Policy) :
    StateM Workbench (Logged Answer) := do
  let logged ← onHistory (rule.evaluate Criterion.text (Criterion.answer subject) policy)
  conclude logged (·.remainder.toList) fun bench report => .report (bench.showReport report)

def evaluateMany (rule : Rule NodeId Criterion) (subjects : List Subject) (policy : Policy) :
    StateM Workbench (Logged Answer) := do
  let logged ← onHistory (rule.evaluateAll Criterion.text Criterion.answer policy subjects)
  conclude logged (·.filterMap (·.remainder)) fun bench reports =>
    .reports (reports.map bench.showReport)

def answer : Request → Trial Workbench Answer
  | .bind name rule => do
    let node ← build rule
    let shown ← showNode node
    bindName name node
    return .shown shown
  | .text rule => do return .text ((← makeRule rule).toText Criterion.text)
  | .describe rule => do return .description ((← makeRule rule).describe Criterion.text)
  | .tree rule => do return .tree (← makeRule rule)
  | .countLeaves rule => do
    return .leafCount ((← makeRule rule).accept Rule.leafCounter)
  | .judge rule subject => do
    let rule ← makeRule rule
    return .verdict (← tryOnHistory (rule.judge (Criterion.answer subject)))
  | .remainder rule subject name => do
    let rule ← makeRule rule
    nameRemainder rule subject name
  | .sealRule rule => do
    let node ← perform (.sealRule (← build rule))
    return .sealedBySelf ((← get).graph.isSealed node)
  | .isSealed rule => do
    let node ← build rule
    return .isSealed ((← get).graph.isSealed node)
  | .children rule => do
    let rule ← makeRule rule
    return .children ((clausesOf rule).map (← get).showRule)
  | .properties rule => do
    let rule ← makeRule rule
    let bench ← get
    return .properties (namedValues rule)
      ((namedParts rule).map fun part => (part.1, bench.showRule part.2))
  | .reference rule => do
    let rule ← makeRule rule
    return .reference (Record.get (namedValues rule) "referenceTime")
  | .setClock clock => do
    modify fun bench => { bench with clock := clock }
    return .clock clock
  | .newBuilder name root => do
    match root with
    | none => storeBuilder name .empty
    | some rule =>
      let node ← build rule
      performCall name .empty (.start node)
    return .done
  | .callBuilder name step => do
    let builder ← findBuilder name
    let call ← resolveCall step
    performCall name builder call
    return .chained
  | .finishBuilder builderName name => finish builderName name

def answerLogged : Step → StateM Workbench (Logged Answer)
  | .request request => do return ⟨[], ← (answer request).run⟩
  | .evaluate expression subject policy => do
    match ← (makeRule expression).run with
    | .ok rule => evaluateOne rule subject policy
    | .error fault => return ⟨[], .error fault⟩
  | .evaluateAll expression subjects policy => do
    match ← (makeRule expression).run with
    | .ok rule => evaluateMany rule subjects policy
    | .error fault => return ⟨[], .error fault⟩

def carryOut (step : Step) : StateM Workbench StepResult := do
  let earlier := (← get).history
  let logged ← answerLogged step
  let names := CallHistory.namesSince (← get).history earlier
  return ⟨logged.result, names, logged.entries⟩

def run : List Step → StateM Workbench (List StepResult)
  | [] => return []
  | step :: rest => do
    let first ← carryOut step
    let others ← run rest
    return first :: others

end Workbench

end Eligibility
