import Eligibility.Proofs.Session.Sealing
import Eligibility.Workbench.Run

/-!
# Runs of the workbench as sessions

Whatever steps a workbench carries out, there are actions that bring a session to the same graph,
the same history and the same builders.  So what holds over every session holds of every workbench.

The builders of a session are numbered and those of a workbench have names.  A name that is given
to a new builder leaves the earlier one in the session, where nothing calls it any more.
-/

set_option autoImplicit false

namespace Eligibility

theorem lookup_assign {Kind : Type} (name other : String) (value : Kind)
    (named : List (String × Kind)) :
    (assign name value named).lookup other =
      if other = name then some value else named.lookup other := by
  have lookup_cons (key : String) (present : Kind) (rest : List (String × Kind)) :
      ((key, present) :: rest).lookup other =
        if other = key then some present else rest.lookup other := by
    by_cases here : other = key
    · rw [here, List.lookup_cons_self, if_pos rfl]
    · rw [List.lookup_cons, beq_false_of_ne here, if_neg here]
  induction named with
  | nil => exact lookup_cons name value []
  | cons entry rest ih =>
      obtain ⟨key, present⟩ := entry
      rw [assign, lookup_cons]
      by_cases same : key = name
      · rw [if_pos same, lookup_cons, same]
        by_cases here : other = name <;> simp [here]
      · rw [if_neg same, lookup_cons, ih]
        by_cases here : other = key
        · simp [here, same]
        · simp [here]

theorem assign_assign {Kind : Type} (name : String) (first second : Kind)
    (named : List (String × Kind)) :
    assign name second (assign name first named) = assign name second named := by
  induction named with
  | nil => simp [assign]
  | cons entry rest ih =>
      obtain ⟨key, present⟩ := entry
      by_cases same : key = name <;> simp [assign, same, ih]

namespace Workbench

variable {Kind Other : Type}

/-! ## Compositions -/

def compose (graph : Graph Criterion) (operations : List (Graph.Operation Criterion)) :
    Graph Criterion :=
  operations.foldl (fun reached operation => (reached.perform operation).2) graph

/-- A computation does nothing but operations on the graph. -/
def IsComposing (trial : Trial Workbench Kind) : Prop :=
  ∀ bench : Workbench, ∃ operations,
    trial.after bench = { bench with graph := compose bench.graph operations }

theorem composing_of_same (trial : Trial Workbench Kind)
    (same : ∀ bench, trial.after bench = bench) : IsComposing trial :=
  fun bench => ⟨[], same bench⟩

theorem composing_pure (value : Kind) : IsComposing (pure value) :=
  composing_of_same _ fun _ => rfl

theorem composing_bind (first : Trial Workbench Kind) (next : Kind → Trial Workbench Other)
    (firstComposing : IsComposing first) (nextComposing : ∀ value, IsComposing (next value)) :
    IsComposing (first >>= next) := by
  intro bench
  rw [Trial.after_bind]
  obtain ⟨earlier, reached⟩ := firstComposing bench
  cases first.outcome bench with
  | error fault => exact ⟨earlier, reached⟩
  | ok value =>
      obtain ⟨later, continued⟩ := nextComposing value (first.after bench)
      refine ⟨earlier ++ later, continued.trans ?_⟩
      rw [reached, compose, compose, compose, List.foldl_append]

theorem perform_composing (operation : Graph.Operation Criterion) :
    IsComposing (perform operation) :=
  fun _ => ⟨[operation], rfl⟩

theorem lookUp_after (choose : Workbench → Option Kind) (missing : Fault) (bench : Workbench) :
    (lookUp choose missing).after bench = bench := by
  refine (Trial.after_bind_of_ok get _ bench bench rfl).trans ?_
  split <;> rfl

theorem lookUp_eq_ok_iff (choose : Workbench → Option Kind) (missing : Fault) (bench : Workbench)
    (value : Kind) :
    (lookUp choose missing).outcome bench = .ok value ↔ choose bench = some value := by
  rw [lookUp, Trial.outcome_bind_of_ok get _ bench bench rfl]
  cases choose bench with
  | none => constructor <;> intro found <;> cases found
  | some present => constructor <;> intro found <;> cases found <;> rfl

theorem lookUp_composing (choose : Workbench → Option Kind) (missing : Fault) :
    IsComposing (lookUp choose missing) :=
  composing_of_same _ (lookUp_after choose missing)

theorem makeCriterion_composing (kind : CriterionKind) (arguments : List Argument) :
    IsComposing (makeCriterion kind arguments) :=
  composing_of_same _ fun _ => rfl

mutual

theorem build_composing : (expression : Expression) → IsComposing (build expression)
  | .register name => lookUp_composing _ (unknownName name)
  | .criterion kind arguments =>
      composing_bind _ _ (makeCriterion_composing kind arguments) fun _ => perform_composing _
  | .scripted _ => perform_composing _
  | .constant _ => perform_composing _
  | .compound _ rules =>
      composing_bind _ _ (buildAll_composing rules) fun _ => perform_composing _
  | .exclude left right =>
      composing_bind _ _ (build_composing left) fun _ =>
        composing_bind _ _ (build_composing right) fun _ => perform_composing _
  | .negate operand => composing_bind _ _ (build_composing operand) fun _ => perform_composing _
  | .join _ receiver other =>
      composing_bind _ _ (build_composing receiver) fun _ =>
        composing_bind _ _ (build_composing other) fun _ => perform_composing _
  | .joinAll _ rules =>
      composing_bind _ _ (buildAll_composing rules) fun _ => perform_composing _

theorem buildAll_composing : (rules : List Expression) → IsComposing (buildAll rules)
  | [] => composing_pure _
  | expression :: rest =>
      composing_bind _ _ (build_composing expression) fun _ =>
        composing_bind _ _ (buildAll_composing rest) fun _ => composing_pure _

end

theorem makeRule_composing (expression : Expression) : IsComposing (makeRule expression) :=
  composing_bind _ _ (build_composing expression) fun _ => lookUp_composing _ _

theorem showNode_composing (node : NodeId) : IsComposing (showNode node) :=
  composing_bind _ _ (lookUp_composing _ _) fun _ =>
    composing_bind _ _ (composing_of_same get fun _ => rfl) fun _ => composing_pure _

theorem resolveCall_composing (step : BuilderStep) : IsComposing (resolveCall step) := by
  cases step with
  | start rule => exact composing_bind _ _ (build_composing rule) fun _ => composing_pure _
  | join connective rule =>
      exact composing_bind _ _ (build_composing rule) fun _ => composing_pure _
  | exclude rule => exact composing_bind _ _ (build_composing rule) fun _ => composing_pure _
  | negate => exact composing_pure _

/-- The rule that is made is the one below a node. -/
theorem makeRule_found (expression : Expression) (bench : Workbench)
    (rule : Rule NodeId Criterion) (made : (makeRule expression).outcome bench = .ok rule) :
    ∃ node, ((makeRule expression).after bench).graph.rule? node = some rule := by
  rw [makeRule, Trial.outcome_bind_eq_ok_iff] at made
  obtain ⟨node, built, found⟩ := made
  refine ⟨node, ?_⟩
  rw [makeRule, Trial.after_bind_of_ok _ _ bench node built, findRule, lookUp_after]
  exact (lookUp_eq_ok_iff _ _ _ rule).mp found

/-! ## Sessions in the state of a workbench -/

/-- A session is in the state of a workbench.  The names of builders stand for builders of their
own. -/
structure IsMirroredBy (bench : Workbench) (session : Session Criterion CallHistory)
    (position : String → Nat) : Prop where
  graph_eq : session.graph = bench.graph
  state_eq : session.state = bench.history
  builder_eq : ∀ name builder, bench.builders.lookup name = some builder →
    session.builders[position name]? = some builder
  apart : ∀ first second, (bench.builders.lookup first).isSome = true →
    (bench.builders.lookup second).isSome = true → position first = position second →
      first = second

/-- Any session in the state of the earlier workbench goes on, by some actions, to the state of the
later one. -/
def Follows (earlier later : Workbench) : Prop :=
  ∀ session position, earlier.IsMirroredBy session position → ∃ actions positions,
    later.IsMirroredBy (session.run Criterion.text Criterion.answer actions) positions

theorem Follows.of_same {earlier later : Workbench} (graph_eq : later.graph = earlier.graph)
    (history_eq : later.history = earlier.history)
    (builders_eq : later.builders = earlier.builders) : Follows earlier later := by
  intro session position mirrored
  refine ⟨[], position, ?_⟩
  exact {
    graph_eq := mirrored.graph_eq.trans graph_eq.symm
    state_eq := mirrored.state_eq.trans history_eq.symm
    builder_eq := by
      rw [builders_eq]
      exact mirrored.builder_eq
    apart := by
      rw [builders_eq]
      exact mirrored.apart }

theorem Follows.refl {bench : Workbench} : Follows bench bench :=
  .of_same rfl rfl rfl

theorem Follows.trans {earlier middle later : Workbench} (first : Follows earlier middle)
    (second : Follows middle later) : Follows earlier later := by
  intro session position mirrored
  obtain ⟨actions, positions, reached⟩ := first session position mirrored
  obtain ⟨more, latest, continued⟩ := second _ positions reached
  refine ⟨actions ++ more, latest, ?_⟩
  rw [Session.run, List.foldl_append]
  exact continued

theorem follows_bind (bench : Workbench) (first : Trial Workbench Kind)
    (next : Kind → Trial Workbench Other) (firstFollows : Follows bench (first.after bench))
    (nextFollows : ∀ value, first.outcome bench = .ok value →
      Follows (first.after bench) ((next value).after (first.after bench))) :
    Follows bench ((first >>= next).after bench) := by
  rw [Trial.after_bind]
  cases found : first.outcome bench with
  | error fault => exact firstFollows
  | ok value => exact firstFollows.trans (nextFollows value found)

/-! ## What an action does -/

theorem run_operations (session : Session Criterion CallHistory)
    (operations : List (Graph.Operation Criterion)) :
    session.run Criterion.text Criterion.answer (operations.map .operate) =
      { session with graph := compose session.graph operations } := by
  induction operations generalizing session with
  | nil => rfl
  | cons operation rest ih => exact ih { session with graph := (session.graph.perform operation).2 }

theorem follows_of_composing (trial : Trial Workbench Kind) (composing : IsComposing trial)
    (bench : Workbench) : Follows bench (trial.after bench) := by
  intro session position mirrored
  obtain ⟨operations, reached⟩ := composing bench
  refine ⟨operations.map .operate, position, ?_⟩
  rw [run_operations, reached]
  exact { mirrored with graph_eq := congrArg (compose · operations) mirrored.graph_eq }

theorem follows_bind_composing (bench : Workbench) (first : Trial Workbench Kind)
    (next : Kind → Trial Workbench Other) (composing : IsComposing first)
    (nextFollows : ∀ value, first.outcome bench = .ok value →
      Follows (first.after bench) ((next value).after (first.after bench))) :
    Follows bench ((first >>= next).after bench) :=
  follows_bind bench first next (follows_of_composing first composing bench) nextFollows

def proceed (bench : Workbench) (history : CallHistory) :
    Except Fault (List (Rule.Remainder NodeId Criterion)) → Workbench
  | .ok remainders => { bench.placeAll remainders with history := history }
  | .error _ => { bench with history := history }

theorem follows_of_question (bench : Workbench) (node : NodeId) (rule : Rule NodeId Criterion)
    (found : bench.graph.rule? node = some rule) (action : Session.Action Subject Criterion)
    (question : Rule NodeId Criterion →
      StateM CallHistory (Except Fault (List (Rule.Remainder NodeId Criterion))))
    (asks : ∀ session : Session Criterion CallHistory,
      session.act Criterion.text Criterion.answer action = session.ask node question) :
    let asked := (question rule).run bench.history
    Follows bench (bench.proceed asked.2 asked.1) := by
  intro asked session position mirrored
  refine ⟨[action], position, ?_⟩
  have reached : session.run Criterion.text Criterion.answer [action] =
      session.proceed asked.2 asked.1 := by
    refine (asks session).trans ?_
    rw [Session.ask, mirrored.graph_eq, found, mirrored.state_eq]
  rw [reached]
  cases asked.1 with
  | error fault => exact { mirrored with state_eq := rfl }
  | ok remainders =>
      exact { mirrored with
        graph_eq := by
          rw [Session.proceed, mirrored.graph_eq]
          rfl
        state_eq := rfl }

theorem follows_of_new_builder (bench : Workbench) (name : String) :
    Follows bench { bench with builders := assign name .empty bench.builders } := by
  intro session position mirrored
  have present : ∀ other, (bench.builders.lookup other).isSome = true →
      position other < session.builders.length := by
    intro other isSome
    obtain ⟨builder, found⟩ := Option.isSome_iff_exists.mp isSome
    exact (List.getElem?_eq_some_iff.mp (mirrored.builder_eq other builder found)).1
  -- The new builder stands at the end, so its place is apart from that of any other name.
  refine ⟨[.openBuilder],
    fun other => if other = name then session.builders.length else position other, ?_⟩
  constructor
  · exact mirrored.graph_eq
  · exact mirrored.state_eq
  · intro other builder found
    rw [lookup_assign] at found
    change (session.builders ++ [Builder.empty])[_]? = _
    by_cases same : other = name
    · rw [if_pos same] at found ⊢
      rw [List.getElem?_concat_length]
      exact found
    · rw [if_neg same] at found ⊢
      rw [List.getElem?_append_left (present other (by rw [found]; rfl))]
      exact mirrored.builder_eq other builder found
  · intro first second firstFound secondFound samePosition
    rw [lookup_assign] at firstFound secondFound
    by_cases firstSame : first = name <;> by_cases secondSame : second = name
    · exact firstSame.trans secondSame.symm
    · rw [if_neg secondSame] at secondFound
      rw [if_pos firstSame, if_neg secondSame] at samePosition
      exact absurd samePosition (Nat.ne_of_gt (present second secondFound))
    · rw [if_neg firstSame] at firstFound
      rw [if_neg firstSame, if_pos secondSame] at samePosition
      exact absurd samePosition (Nat.ne_of_lt (present first firstFound))
    · rw [if_neg firstSame] at firstFound samePosition
      rw [if_neg secondSame] at secondFound samePosition
      exact mirrored.apart first second firstFound secondFound samePosition

theorem follows_of_builder_call (bench : Workbench) (name : String) (builder changed : Builder)
    (call : Builder.Call) (graph : Graph Criterion)
    (found : bench.builders.lookup name = some builder)
    (performed : builder.perform bench.graph call = .ok (changed, graph)) :
    Follows bench
      { bench with graph := graph, builders := assign name changed bench.builders } := by
  intro session position mirrored
  have here := mirrored.builder_eq name builder found
  have reached : session.run Criterion.text Criterion.answer
      [.callBuilder (position name) call] =
      { session with
        graph := graph
        builders := session.builders.set (position name) changed } := by
    change session.callBuilder (position name) call = _
    simp only [Session.callBuilder, here, mirrored.graph_eq, performed]
  refine ⟨[.callBuilder (position name) call], position, ?_⟩
  rw [reached]
  have lookup_isSome : ∀ other,
      ((assign name changed bench.builders).lookup other).isSome = true →
      (bench.builders.lookup other).isSome = true := by
    intro other isSome
    rw [lookup_assign] at isSome
    by_cases same : other = name
    · rw [same, found]
      rfl
    · rw [if_neg same] at isSome
      exact isSome
  constructor
  · rfl
  · exact mirrored.state_eq
  · intro other present otherFound
    rw [lookup_assign] at otherFound
    by_cases same : other = name
    · rw [if_pos same] at otherFound
      rw [same, List.getElem?_set_self (List.getElem?_eq_some_iff.mp here).1]
      exact otherFound
    · rw [if_neg same] at otherFound
      have elsewhere : position name ≠ position other := by
        intro samePosition
        refine same (mirrored.apart name other ?_ ?_ samePosition).symm
        · rw [found]
          rfl
        · rw [otherFound]
          rfl
      rw [List.getElem?_set_ne elsewhere]
      exact mirrored.builder_eq other present otherFound
  · intro first second firstFound secondFound
    exact mirrored.apart first second (lookup_isSome first firstFound)
      (lookup_isSome second secondFound)

/-! ## Requests -/

theorem performCall_after (name : String) (builder : Builder) (call : Builder.Call)
    (bench : Workbench) :
    (performCall name builder call).after bench =
      match builder.perform bench.graph call with
      | .ok (changed, graph) =>
        { bench with graph := graph, builders := assign name changed bench.builders }
      | .error _ => bench := by
  rw [performCall, Trial.after_bind_of_ok get _ bench bench rfl]
  change Trial.after (match builder.perform bench.graph call with
    | .ok (changed, graph) => _
    | .error fault => _) bench = _
  cases builder.perform bench.graph call <;> rfl

theorem performCall_follows (name : String) (builder : Builder) (call : Builder.Call)
    (bench : Workbench) (found : bench.builders.lookup name = some builder) :
    Follows bench ((performCall name builder call).after bench) := by
  rw [performCall_after]
  cases performed : builder.perform bench.graph call with
  | error fault => exact .refl
  | ok made => exact follows_of_builder_call bench name builder made.1 call made.2 found performed

theorem callBuilder_follows (name : String) (step : BuilderStep) (bench : Workbench) :
    Follows bench ((answer (.callBuilder name step)).after bench) := by
  refine follows_bind_composing bench (findBuilder name) _ (lookUp_composing _ _)
    fun builder found => ?_
  have named := (lookUp_eq_ok_iff _ _ bench builder).mp found
  rw [findBuilder, lookUp_after]
  refine follows_bind_composing bench (resolveCall step) _ (resolveCall_composing step)
    fun call _ => ?_
  obtain ⟨operations, reached⟩ := resolveCall_composing step bench
  refine follows_bind _ (performCall name builder call) _ ?_ fun _ _ => .refl
  rw [reached]
  exact performCall_follows name builder call _ named

theorem finish_follows (builderName : String) (name : Option String) (bench : Workbench) :
    Follows bench ((finish builderName name).after bench) := by
  refine follows_bind_composing bench (findBuilder builderName) _ (lookUp_composing _ _)
    fun builder found => ?_
  have named := (lookUp_eq_ok_iff _ _ bench builder).mp found
  rw [findBuilder, lookUp_after]
  refine follows_bind bench (performCall builderName builder .build) _
    (performCall_follows builderName builder .build bench named) fun _ _ => ?_
  cases builder.root with
  | none => exact .refl
  | some root =>
      refine follows_bind_composing _ (showNode root) _ (showNode_composing root) fun shown _ => ?_
      refine follows_bind _ get _ .refl fun reached _ => ?_
      cases name with
      | none => exact .refl
      | some name => exact .of_same rfl rfl rfl

theorem newBuilder_follows (name : String) (root : Option Expression) (bench : Workbench) :
    Follows bench ((answer (.newBuilder name root)).after bench) := by
  cases root with
  | none => exact follows_of_new_builder bench name
  | some rule =>
      refine follows_bind_composing bench (build rule) _ (build_composing rule) fun node _ => ?_
      generalize (build rule).after bench = reached
      refine follows_bind reached (performCall name .empty (.start node)) _ ?_ fun _ _ => .refl
      -- The name stands for the new builder only after the call, but a session opens it before.
      have opened := follows_of_new_builder reached name
      have started := follows_of_builder_call
        { reached with builders := assign name .empty reached.builders } name .empty
        ⟨some node, false⟩ (.start node) reached.graph (by rw [lookup_assign, if_pos rfl]) rfl
      rw [assign_assign] at started
      rw [performCall_after]
      exact opened.trans started

theorem question_follows (expression : Expression)
    (ask : Rule NodeId Criterion → Trial Workbench Answer) (bench : Workbench)
    (follows : ∀ (rule : Rule NodeId Criterion) (reached : Workbench) (node : NodeId),
      reached.graph.rule? node = some rule → Follows reached ((ask rule).after reached)) :
    Follows bench ((makeRule expression >>= ask).after bench) := by
  refine follows_bind_composing bench (makeRule expression) ask (makeRule_composing expression)
    fun rule made => ?_
  obtain ⟨node, found⟩ := makeRule_found expression bench rule made
  exact follows rule _ node found

theorem tryOnHistory_outcome (trial : Trial CallHistory Kind) (bench : Workbench) :
    (tryOnHistory trial).outcome bench = trial.outcome bench.history :=
  rfl

theorem tryOnHistory_after (trial : Trial CallHistory Kind) (bench : Workbench) :
    (tryOnHistory trial).after bench = { bench with history := trial.after bench.history } :=
  rfl

theorem judge_follows (rule : Rule NodeId Criterion) (subject : Subject) (bench : Workbench)
    (node : NodeId) (found : bench.graph.rule? node = some rule) :
    Follows bench ((tryOnHistory (rule.judge (Criterion.answer subject))).after bench) := by
  have asked := follows_of_question bench node rule found (.judge node subject) _ fun _ => rfl
  change Follows bench (bench.proceed ((rule.judge (Criterion.answer subject)).after bench.history)
    (((rule.judge (Criterion.answer subject)).outcome bench.history).map fun _ => [])) at asked
  cases outcome : (rule.judge (Criterion.answer subject)).outcome bench.history with
  | error fault =>
      rw [outcome] at asked
      exact asked
  | ok verdict =>
      rw [outcome] at asked
      exact asked

theorem nameRemainder_follows (rule : Rule NodeId Criterion) (subject : Subject)
    (name : Option String) (bench : Workbench) (node : NodeId)
    (found : bench.graph.rule? node = some rule) :
    Follows bench ((nameRemainder rule subject name).after bench) := by
  have asked := follows_of_question bench node rule found (.remainder node subject) _ fun _ => rfl
  change Follows bench
    (bench.proceed ((rule.remainder (Criterion.answer subject)).after bench.history)
      (((rule.remainder (Criterion.answer subject)).outcome bench.history).map Option.toList))
    at asked
  rw [nameRemainder, Trial.after_bind, tryOnHistory_outcome, tryOnHistory_after]
  cases outcome : (rule.remainder (Criterion.answer subject)).outcome bench.history with
  | error fault =>
      rw [outcome] at asked
      exact asked
  | ok left =>
      rw [outcome] at asked
      cases left with
      | none => exact asked
      | some remainder =>
          cases name with
          | none => exact asked
          | some name => exact asked.trans (.of_same rfl rfl rfl)

/-- The step for a request. -/
theorem answer_follows (request : Request) (bench : Workbench) :
    Follows bench ((answer request).after bench) := by
  cases request with
  | bind name rule =>
      refine follows_bind_composing bench (build rule) _ (build_composing rule) fun node _ => ?_
      refine follows_bind_composing _ (showNode node) _ (showNode_composing node) fun shown _ => ?_
      exact .of_same rfl rfl rfl
  | text rule => exact question_follows rule _ bench fun _ _ _ _ => .refl
  | describe rule => exact question_follows rule _ bench fun _ _ _ _ => .refl
  | tree rule => exact question_follows rule _ bench fun _ _ _ _ => .refl
  | countLeaves rule => exact question_follows rule _ bench fun _ _ _ _ => .refl
  | judge rule subject =>
      refine question_follows rule _ bench fun made reached node found => ?_
      exact follows_bind reached _ _ (judge_follows made subject reached node found)
        fun _ _ => .refl
  | remainder rule subject name =>
      exact question_follows rule _ bench fun made reached node found =>
        nameRemainder_follows made subject name reached node found
  | sealRule rule =>
      refine follows_bind_composing bench (build rule) _ (build_composing rule) fun node _ => ?_
      exact follows_of_composing (perform (.sealRule node)) (perform_composing _) _
  | isSealed rule =>
      refine follows_bind_composing bench (build rule) _ (build_composing rule) fun node _ => ?_
      exact .refl
  | children rule => exact question_follows rule _ bench fun _ _ _ _ => .refl
  | properties rule => exact question_follows rule _ bench fun _ _ _ _ => .refl
  | reference rule => exact question_follows rule _ bench fun _ _ _ _ => .refl
  | setClock clock => exact .of_same rfl rfl rfl
  | newBuilder name root => exact newBuilder_follows name root bench
  | callBuilder name step => exact callBuilder_follows name step bench
  | finishBuilder builderName name => exact finish_follows builderName name bench

/-! ## Evaluations -/

theorem conclude_follows {Found : Type}
    (run : Rule NodeId Criterion → StateM CallHistory (Logged Found))
    (remainders : Found → List (Rule.Remainder NodeId Criterion))
    (showFound : Workbench → Found → Answer) (bench : Workbench) (node : NodeId)
    (rule : Rule NodeId Criterion) (found : bench.graph.rule? node = some rule)
    (action : Session.Action Subject Criterion)
    (asks : ∀ session : Session Criterion CallHistory,
      session.act Criterion.text Criterion.answer action = session.ask node fun rule => do
        let logged ← run rule
        return logged.result.map remainders) :
    Follows bench (StateT.run (do
      let logged ← onHistory (run rule)
      conclude logged remainders showFound) bench).2 := by
  have asked := follows_of_question bench node rule found action _ asks
  change Follows bench (bench.proceed ((run rule).run bench.history).2
    (((run rule).run bench.history).1.result.map remainders)) at asked
  change Follows bench ((conclude ((run rule).run bench.history).1 remainders showFound).run
    { bench with history := ((run rule).run bench.history).2 }).2
  generalize (run rule).run bench.history = ran at asked ⊢
  obtain ⟨⟨entries, result⟩, history⟩ := ran
  cases result with
  | error fault => exact asked
  | ok value => exact asked

theorem evaluation_follows (expression : Expression)
    (evaluate : Rule NodeId Criterion → StateM Workbench (Logged Answer)) (bench : Workbench)
    (follows : ∀ (rule : Rule NodeId Criterion) (reached : Workbench) (node : NodeId),
      reached.graph.rule? node = some rule → Follows reached ((evaluate rule).run reached).2) :
    Follows bench (StateT.run (do
      match ← (makeRule expression).run with
      | .ok rule => evaluate rule
      | .error fault => return ⟨[], .error fault⟩) bench).2 := by
  have made := follows_of_composing _ (makeRule_composing expression) bench
  have found := makeRule_found expression bench
  rw [Trial.after] at made found
  rw [Trial.outcome] at found
  rw [StateT.run_bind]
  generalize (makeRule expression).run.run bench = ran at made found ⊢
  obtain ⟨result, reached⟩ := ran
  cases result with
  | error fault => exact made
  | ok rule =>
      obtain ⟨node, present⟩ := found rule rfl
      exact made.trans (follows rule reached node present)

/-- The step: what a step does to the workbench is what some actions do to a session. -/
theorem carryOut_follows (step : Step) (bench : Workbench) :
    Follows bench ((carryOut step).run bench).2 := by
  change Follows bench ((answerLogged step).run bench).2
  cases step with
  | request request => exact answer_follows request bench
  | evaluate expression subject policy =>
      refine evaluation_follows expression _ bench fun rule reached node found => ?_
      exact conclude_follows
        (fun rule => rule.evaluate Criterion.text (Criterion.answer subject) policy)
        _ _ reached node rule found (.evaluate node subject policy) fun _ => rfl
  | evaluateAll expression subjects policy =>
      refine evaluation_follows expression _ bench fun rule reached node found => ?_
      exact conclude_follows
        (fun rule => rule.evaluateAll Criterion.text Criterion.answer policy subjects)
        _ _ reached node rule found (.evaluateAll node subjects policy) fun _ => rfl

theorem run_follows (steps : List Step) (bench : Workbench) :
    Follows bench ((run steps).run bench).2 := by
  induction steps generalizing bench with
  | nil => exact .refl
  | cons step rest ih =>
      exact (carryOut_follows step bench).trans (ih ((carryOut step).run bench).2)

theorem atTime_isMirroredBy (clock : Instant) :
    (atTime clock).IsMirroredBy (Session.start []) fun _ => 0 where
  graph_eq := rfl
  state_eq := rfl
  builder_eq := nofun
  apart := nofun

/-- However a workbench is used, some session comes to the same graph and the same calls of
scripts, and has the builders that have a name. -/
theorem session_of_run (clock : Instant) (steps : List Step) :
    ∃ actions positions, ((run steps).run (atTime clock)).2.IsMirroredBy
      ((Session.start []).run Criterion.text Criterion.answer actions) positions :=
  run_follows steps (atTime clock) _ _ (atTime_isMirroredBy clock)

/-- Over any run of steps, a sealed node keeps everything below it. -/
theorem sealed_node_survives_steps (clock : Instant) (earlier later : List Step)
    (before after : Workbench) (reached : before = ((run earlier).run (atTime clock)).2)
    (continued : after = ((run later).run before).2) (id : NodeId)
    (isSealed : before.graph.isSealed id = true) :
    (∀ below, before.graph.Reaches id below → before.graph.isSealed below = true ∧
      after.graph.node? below = before.graph.node? below) ∧
    (∀ below, after.graph.Reaches id below ↔ before.graph.Reaches id below) ∧
    ∃ rule, before.graph.rule? id = some rule ∧ after.graph.rule? id = some rule := by
  obtain ⟨actions, positions, mirrored⟩ := session_of_run clock earlier
  rw [← reached] at mirrored
  obtain ⟨more, latest, mirroredLater⟩ := run_follows later before _ positions mirrored
  rw [← continued] at mirroredLater
  have invariant := Session.run_isSealedThrough Criterion.text Criterion.answer [] actions
  have evolves := Session.run_evolves Criterion.text Criterion.answer
    ((Session.start []).run Criterion.text Criterion.answer actions) more
  rw [mirrored.graph_eq] at invariant evolves
  rw [mirroredLater.graph_eq] at evolves
  exact Graph.sealed_rule_stays before.graph after.graph evolves invariant id isSealed

end Workbench

end Eligibility
