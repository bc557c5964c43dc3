import Eligibility.Proofs.Builder.Turn
import Eligibility.Proofs.Session.Sealing

/-!
# Calls of builders over sessions

A builder that is called out of turn fails, and a failing call leaves the session as it was.  What
a builder takes is told by its fields, and the fields tell which of its calls have succeeded.  So
the calls that fail can be left out of a session.
-/

set_option autoImplicit false

namespace Eligibility

namespace Session

section

variable {Subject Criterion State : Type}

def reply? (session : Session Criterion State) (position : Nat) (call : Builder.Call) :
    Option (Except Fault Builder) :=
  (session.builders[position]?).map fun builder =>
    (builder.perform session.graph call).map Prod.fst

def Succeeds (session : Session Criterion State) (position : Nat) (call : Builder.Call) : Prop :=
  ∃ builder, session.reply? position call = some (.ok builder)

def replyTo? (session : Session Criterion State) :
    Action Subject Criterion → Option (Except Fault Builder)
  | .callBuilder position call => session.reply? position call
  | _ => none

section Runs

variable (leafText : Criterion → String) (answer : Subject → NodeId → Criterion → Trial State Bool)

def replies : Session Criterion State → List (Action Subject Criterion) →
    List (Except Fault Builder)
  | _, [] => []
  | session, action :: rest =>
    (session.replyTo? action).toList ++ replies (session.act leafText answer action) rest

def withoutFailing : Session Criterion State → List (Action Subject Criterion) →
    List (Action Subject Criterion)
  | _, [] => []
  | session, action :: rest =>
    match session.replyTo? action with
    | some (.error _) => withoutFailing (session.act leafText answer action) rest
    | _ => action :: withoutFailing (session.act leafText answer action) rest

/-- One of the actions was a call of a kind at a position, and it succeeded. -/
def HasSucceeded (session : Session Criterion State) (actions : List (Action Subject Criterion))
    (position : Nat) (kind : Builder.Call → Prop) : Prop :=
  ∃ front call back, actions = front ++ .callBuilder position call :: back ∧ kind call ∧
    (session.run leafText answer front).Succeeds position call

end Runs

/-! ## One call -/

theorem succeeds_iff_isInTurn (session : Session Criterion State) (position : Nat)
    (builder : Builder) (found : session.builders[position]? = some builder)
    (call : Builder.Call) : session.Succeeds position call ↔ builder.IsInTurn call := by
  rw [Succeeds, reply?, found, Option.map_some]
  by_cases inTurn : builder.IsInTurn call
  · obtain ⟨made, performed⟩ := builder.perform_in_turn session.graph call inTurn
    rw [performed]
    exact iff_of_true ⟨made.1, rfl⟩ inTurn
  · obtain ⟨cause, refused⟩ := builder.perform_out_of_turn session.graph call inTurn
    rw [refused]
    refine iff_of_false ?_ inTurn
    rintro ⟨changed, ⟨⟩⟩

theorem perform_of_reply? (session : Session Criterion State) (position : Nat)
    (builder : Builder) (found : session.builders[position]? = some builder)
    (call : Builder.Call) (fault : Fault)
    (failed : session.reply? position call = some (.error fault)) :
    builder.perform session.graph call = .error fault := by
  rw [reply?, found, Option.map_some, Option.some.injEq] at failed
  cases performed : builder.perform session.graph call with
  | error cause =>
      rw [performed] at failed
      cases failed
      rfl
  | ok made =>
      rw [performed] at failed
      cases failed

theorem callBuilder_of_ok (session : Session Criterion State) (position : Nat)
    (builder changed : Builder) (later : Graph Criterion) (call : Builder.Call)
    (found : session.builders[position]? = some builder)
    (performed : builder.perform session.graph call = .ok (changed, later)) :
    (session.callBuilder position call).graph = later ∧
      (session.callBuilder position call).builders[position]? = some changed := by
  have inside := (List.getElem?_eq_some_iff.mp found).1
  rw [callBuilder, found]
  simp only [performed, true_and]
  exact List.getElem?_set_self inside

theorem callBuilder_of_error (session : Session Criterion State) (position : Nat)
    (call : Builder.Call) (fault : Fault)
    (failed : session.reply? position call = some (.error fault)) :
    session.callBuilder position call = session := by
  rw [callBuilder]
  cases found : session.builders[position]? with
  | none => rfl
  | some builder =>
      have refused := session.perform_of_reply? position builder found call fault failed
      simp only [refused]

/-- The session after a call is what the assignments of the call leave, be they all or only those
before a fault. -/
theorem callBuilder_eq_carryOut (session : Session Criterion State) (position : Nat)
    (builder : Builder) (found : session.builders[position]? = some builder)
    (call : Builder.Call) :
    session.callBuilder position call =
      let left := (Builder.carryOut call).after (builder, session.graph)
      { session with graph := left.2, builders := session.builders.set position left.1 } := by
  rw [callBuilder, found, Trial.after, Builder.carryOut_run]
  cases performed : builder.perform session.graph call with
  | ok made => simp only [performed]
  | error fault =>
      obtain ⟨inside, rfl⟩ := List.getElem?_eq_some_iff.mp found
      simp only [performed, List.set_getElem_self]

/-! ## Builders over a session -/

theorem builders_of_proceed (session : Session Criterion State) (state : State)
    (found : Except Fault (List (Rule.Remainder NodeId Criterion))) :
    (session.proceed state found).builders = session.builders := by
  cases found with
  | error fault => rfl
  | ok remainders => rfl

theorem builders_of_ask (session : Session Criterion State) (node : NodeId)
    (question : Rule NodeId Criterion →
      StateM State (Except Fault (List (Rule.Remainder NodeId Criterion)))) :
    (session.ask node question).builders = session.builders := by
  rw [ask]
  split
  · rfl
  · exact builders_of_proceed session _ _

/-- What an action makes of the builder at a position: nothing, a new builder that is empty, or
what a call makes of it that succeeds. -/
inductive Handles (session : Session Criterion State) (position : Nat) (later : Graph Criterion) :
    Action Subject Criterion → Option Builder → Prop
  | kept (action : Action Subject Criterion)
      (uncalled : ∀ call, action = .callBuilder position call →
        ¬session.Succeeds position call) :
      Handles session position later action session.builders[position]?
  | opened (absent : session.builders[position]? = none) :
      Handles session position later .openBuilder (some .empty)
  | called (call : Builder.Call) (builder changed : Builder)
      (found : session.builders[position]? = some builder)
      (performs : Builder.Performs session.graph builder call changed later) :
      Handles session position later (.callBuilder position call) (some changed)

theorem handles_of_callBuilder (session : Session Criterion State) (position target : Nat)
    (call : Builder.Call) :
    Handles session position (session.callBuilder target call).graph
      (.callBuilder target call : Action Subject Criterion)
      (session.callBuilder target call).builders[position]? := by
  rw [callBuilder]
  cases found : session.builders[target]? with
  | none =>
      refine .kept _ ?_
      rintro other ⟨⟩ ⟨builder, replied⟩
      simp [reply?, found] at replied
  | some builder =>
      cases performed : builder.perform session.graph call with
      | error fault =>
          simp only [performed]
          refine .kept _ ?_
          rintro other ⟨⟩ ⟨changed, replied⟩
          simp [reply?, found, performed, Except.map] at replied
      | ok made =>
          obtain ⟨changed, graph⟩ := made
          simp only [performed]
          by_cases same : target = position
          · subst same
            have inside := (List.getElem?_eq_some_iff.mp found).1
            rw [List.getElem?_set_self inside]
            exact .called call builder changed found
              (builder.performs_of_perform changed session.graph graph call performed)
          · rw [List.getElem?_set_ne same]
            refine .kept _ ?_
            rintro other ⟨⟩
            exact absurd rfl same

theorem handles_of_act (leafText : Criterion → String)
    (answer : Subject → NodeId → Criterion → Trial State Bool) (session : Session Criterion State)
    (action : Action Subject Criterion) (position : Nat) :
    Handles session position (session.act leafText answer action).graph action
      (session.act leafText answer action).builders[position]? := by
  have keptByQuestion : ∀ (node : NodeId) question,
      (∀ call, action ≠ .callBuilder position call) →
      Handles session position (session.act leafText answer action).graph action
        (session.ask node question).builders[position]? := by
    intro node question notCall
    rw [builders_of_ask]
    exact .kept action fun call same => absurd same (notCall call)
  cases action with
  | operate operation => exact .kept _ (by simp)
  | openBuilder =>
      -- the new builder comes after the others, whose positions stay
      rcases Nat.lt_trichotomy position session.builders.length with inside | isNew | beyond
      · rw [act, List.getElem?_append_left inside]
        exact .kept _ (by simp)
      · subst isNew
        rw [act, List.getElem?_concat_length]
        exact .opened (List.getElem?_eq_none (Nat.le_refl _))
      · have absent : session.builders[position]? = none := List.getElem?_eq_none (by omega)
        rw [act, List.getElem?_eq_none (by simp; omega), ← absent]
        exact .kept _ (by simp)
  | callBuilder target call => exact session.handles_of_callBuilder position target call
  | judge node subject => exact keptByQuestion node _ (by simp)
  | remainder node subject => exact keptByQuestion node _ (by simp)
  | evaluate node subject policy => exact keptByQuestion node _ (by simp)
  | evaluateAll node subjects policy => exact keptByQuestion node _ (by simp)

/-! ## Calls that have succeeded -/

section Runs

variable (leafText : Criterion → String) (answer : Subject → NodeId → Criterion → Trial State Bool)
  (session : Session Criterion State)

theorem hasSucceeded_nil (position : Nat) (kind : Builder.Call → Prop) :
    ¬session.HasSucceeded leafText answer [] position kind := by
  rintro ⟨front, call, back, same, -⟩
  simp at same

theorem hasSucceeded_concat_iff (earlier : List (Action Subject Criterion))
    (action : Action Subject Criterion) (position : Nat) (kind : Builder.Call → Prop) :
    session.HasSucceeded leafText answer (earlier ++ [action]) position kind ↔
      session.HasSucceeded leafText answer earlier position kind ∨
      ∃ call, action = .callBuilder position call ∧ kind call ∧
        (session.run leafText answer earlier).Succeeds position call := by
  constructor
  · rintro ⟨front, call, back, same, isKind, succeeds⟩
    rcases List.eq_nil_or_concat back with rfl | ⟨middle, last, rfl⟩
    · obtain ⟨rfl, sameAction⟩ := List.append_inj' same rfl
      obtain rfl := List.singleton_inj.mp sameAction
      exact .inr ⟨call, rfl, isKind, succeeds⟩
    · rw [List.concat_eq_append, ← List.cons_append, ← List.append_assoc] at same
      obtain ⟨rfl, -⟩ := List.append_inj' same rfl
      exact .inl ⟨front, call, middle, rfl, isKind, succeeds⟩
  · rintro (⟨front, call, back, rfl, isKind, succeeds⟩ | ⟨call, rfl, isKind, succeeds⟩)
    · exact ⟨front, call, back ++ [action], by simp, isKind, succeeds⟩
    · exact ⟨earlier, call, [], rfl, isKind, succeeds⟩

/-- The fields of the builder at a position tell which of its calls have succeeded.  Where there is
no builder, none has. -/
structure TellsCalls (started built : Prop) (slot : Option Builder) : Prop where
  root_iff : (slot.bind Builder.root).isSome = true ↔ started
  isBuilt_iff : slot.any Builder.isBuilt = true ↔ built
  started_of_built : built → started

/-- The step: an action that is no succeeding call leaves the builder alone, and one that is leaves
its trace in the fields. -/
theorem tellsCalls_of_handles (position : Nat) (later : Graph Criterion)
    (action : Action Subject Criterion) (slot : Option Builder)
    (handles : Handles session position later action slot) (started built : Prop)
    (tells : TellsCalls started built session.builders[position]?) :
    TellsCalls
      (started ∨ ∃ call, action = .callBuilder position call ∧ call.isStart = true ∧
        session.Succeeds position call)
      (built ∨ ∃ call, action = .callBuilder position call ∧ call = .build ∧
        session.Succeeds position call) slot := by
  cases handles with
  | kept _ uncalled =>
      have nothing : ∀ kind : Builder.Call → Prop, ¬∃ call, action = .callBuilder position call ∧
          kind call ∧ session.Succeeds position call :=
        fun kind ⟨call, same, _, succeeds⟩ => uncalled call same succeeds
      rw [or_iff_left (nothing fun call => call.isStart = true),
        or_iff_left (nothing fun call => call = .build)]
      exact tells
  | opened absent =>
      rw [absent] at tells
      obtain ⟨rootIff, builtIff, -⟩ := tells
      have notStarted : ¬started := by simpa using rootIff
      have notBuilt : ¬built := by simpa using builtIff
      exact ⟨by simp [Builder.empty, notStarted], by simp [Builder.empty, notBuilt],
        by simp [notBuilt]⟩
  | called call builder changed found performs =>
      have succeeds : session.Succeeds position call :=
        (session.succeeds_iff_isInTurn position builder found call).mpr
          (Builder.isInTurn_of_performs _ _ builder changed call performs)
      -- the action is this one call, so it succeeds as a call of whatever kind the call is
      have thisCall : ∀ kind : Builder.Call → Prop,
          (∃ other, (.callBuilder position call : Action Subject Criterion) =
            .callBuilder position other ∧ kind other ∧ session.Succeeds position other) ↔
          kind call := by
        intro kind
        constructor
        · rintro ⟨other, ⟨⟩, isKind, -⟩
          exact isKind
        · exact fun isKind => ⟨call, rfl, isKind, succeeds⟩
      rw [thisCall fun other => other.isStart = true, thisCall fun other => other = .build]
      rw [found] at tells
      obtain ⟨rootIff, builtIff, -⟩ := tells
      cases performs with
      | started rule =>
          have notBuilt : ¬built := by simpa using builtIff
          exact ⟨by simp [Builder.Call.isStart], by simp [notBuilt], by simp [notBuilt]⟩
      | extended root _ operation isExtension =>
          have isStarted : started := by simpa using rootIff
          have notBuilt : ¬built := by simpa using builtIff
          have notBuild : call ≠ .build := by
            rintro rfl
            cases isExtension
          exact ⟨by simp [isStarted], by simp [notBuilt, notBuild], by simp [isStarted]⟩
      | built root =>
          have isStarted : started := by simpa using rootIff
          exact ⟨by simp [isStarted], by simp, by simp [isStarted]⟩

theorem tellsCalls_of_run (state : State) (actions : List (Action Subject Criterion))
    (position : Nat) :
    TellsCalls
      ((start state).HasSucceeded leafText answer actions position (·.isStart = true))
      ((start state).HasSucceeded leafText answer actions position (· = .build))
      ((start state).run leafText answer actions).builders[position]? := by
  induction actions using List.reverseRecOn with
  | nil =>
      have nothing := (start state : Session Criterion State).hasSucceeded_nil leafText answer
        position
      exact ⟨iff_of_false (by simp [run, start]) (nothing _),
        iff_of_false (by simp [run, start]) (nothing _), fun built => absurd built (nothing _)⟩
  | append_singleton earlier action ih =>
      rw [hasSucceeded_concat_iff, hasSucceeded_concat_iff, run_concat]
      exact tellsCalls_of_handles _ position _ action _
        (handles_of_act leafText answer _ action position) _ _ ih

/-! ## Turns -/

theorem succeeds_iff_called (position : Nat) (builder : Builder)
    (found : session.builders[position]? = some builder) (started built : Prop)
    (tells : TellsCalls started built session.builders[position]?) :
    (builder.root = none ↔ ¬started) ∧
    (∀ rule, session.Succeeds position (.start rule) ↔ builder.root = none) ∧
    ∀ call, call.isStart = false → (session.Succeeds position call ↔ started ∧ ¬built) := by
  rw [found] at tells
  obtain ⟨rootIff, builtIff, startedOfBuilt⟩ := tells
  change builder.root.isSome = true ↔ started at rootIff
  change builder.isBuilt = true ↔ built at builtIff
  have rootless : builder.root = none ↔ ¬started := by
    rw [← rootIff, Bool.not_eq_true, Option.isSome_eq_false_iff, Option.isNone_iff_eq_none]
  have notBuilt : builder.isBuilt = false ↔ ¬built := by rw [← builtIff, Bool.not_eq_true]
  refine ⟨rootless, fun rule => ?_, fun call notStart => ?_⟩
  · rw [succeeds_iff_isInTurn session position builder found]
    constructor
    · intro inTurn
      simpa [Builder.Call.isStart] using inTurn.2
    · intro rootNone
      refine ⟨notBuilt.mpr fun built => rootless.mp rootNone (startedOfBuilt built), ?_⟩
      rw [rootNone]
      rfl
  · rw [succeeds_iff_isInTurn session position builder found, Builder.IsInTurn, notBuilt, notStart,
      ← rootIff]
    exact and_comm

/-- A builder that is finished gives its root, and every node that is reached from it is sealed. -/
theorem build_seals (position : Nat) (builder : Builder)
    (found : session.builders[position]? = some builder)
    (succeeds : session.Succeeds position .build) :
    ∃ root, builder.root = some root ∧
      session.reply? position .build = some (.ok ⟨some root, true⟩) ∧
      (session.graph.IsAcyclicFrom root → ∀ id,
        (session.callBuilder position .build).graph.Reaches root id →
        (session.callBuilder position .build).graph.isSealed id = true) := by
  have inTurn := (session.succeeds_iff_isInTurn position builder found .build).mp succeeds
  obtain ⟨⟨changed, later⟩, performed⟩ := builder.perform_in_turn session.graph .build inTurn
  cases builder.performs_of_perform changed session.graph later .build performed with
  | extended root _ operation isExtension => cases isExtension
  | built root =>
      refine ⟨root, rfl, ?_, fun acyclic id path => ?_⟩
      · rw [reply?, found]
        rfl
      · rw [callBuilder, found] at path ⊢
        have earlierPath := (session.graph.reaches_sealRule_iff root root id).mp path
        exact (session.graph.isSealed_sealRule_iff root acyclic id).mpr (.inr earlierPath)

theorem refused_of_reply? (position : Nat) (builder : Builder)
    (found : session.builders[position]? = some builder) (call : Builder.Call) (fault : Fault)
    (failed : session.reply? position call = some (.error fault)) :
    (∃ cause, fault = .composition cause) ∧
    (Builder.carryOut call).run.run (builder, session.graph) =
      (.error fault, builder, session.graph) := by
  have refused := session.perform_of_reply? position builder found call fault failed
  have outOfTurn : ¬builder.IsInTurn call := by
    intro inTurn
    obtain ⟨made, performed⟩ := builder.perform_in_turn session.graph call inTurn
    rw [refused] at performed
    cases performed
  obtain ⟨cause, known⟩ := builder.perform_out_of_turn session.graph call outOfTurn
  rw [refused] at known
  refine ⟨⟨cause, Except.error.inj known⟩, ?_⟩
  rw [Builder.carryOut_run, refused]

/-! ## Leaving out what fails -/

theorem act_of_failing (action : Action Subject Criterion) (fault : Fault)
    (failed : session.replyTo? action = some (.error fault)) :
    session.act leafText answer action = session := by
  cases action with
  | callBuilder position call => exact session.callBuilder_of_error position call fault failed
  | _ => cases failed

/-- The run without the failing calls follows the run with them, session by session. -/
theorem run_withoutFailing (actions : List (Action Subject Criterion)) :
    session.run leafText answer (session.withoutFailing leafText answer actions) =
        session.run leafText answer actions ∧
      session.replies leafText answer (session.withoutFailing leafText answer actions) =
        (session.replies leafText answer actions).filter (·.isOk) := by
  induction actions generalizing session with
  | nil => exact ⟨rfl, rfl⟩
  | cons action rest ih =>
      obtain ⟨sameEnd, sameReplies⟩ := ih (session.act leafText answer action)
      rw [withoutFailing]
      cases replied : session.replyTo? action with
      | none =>
          refine ⟨sameEnd, ?_⟩
          rw [replies, replies, replied, sameReplies]
          rfl
      | some reply =>
          cases reply with
          | ok builder =>
              refine ⟨sameEnd, ?_⟩
              rw [replies, replies, replied, sameReplies]
              rfl
          | error fault =>
              have same := session.act_of_failing leafText answer action fault replied
              rw [same] at sameEnd sameReplies
              refine ⟨?_, ?_⟩
              · rw [same, sameEnd, run, run, List.foldl_cons, same]
              · rw [same, sameReplies, replies, replied, same]
                rfl

end Runs

/-- At any point of a session, a builder can be started exactly as long as it has no root, that is,
as long as no start of it has succeeded; and it takes any other call exactly if a start of it has
succeeded and no finish has.  It is finished once at most, and then gives its root, with every node
below it sealed.  What a call assigns stays in the session even if it fails; but one that fails does
so by a fault of composition before anything is assigned, and leaves the session as it was.  Without
its failing calls, the session comes to the same end, and the calls that remain come to what they
came to. -/
theorem builder_calls_keep_protocol (leafText : Criterion → String)
    (answer : Subject → NodeId → Criterion → Trial State Bool) (state : State)
    (actions : List (Action Subject Criterion)) (session : Session Criterion State)
    (reached : session = (start state).run leafText answer actions) :
    (∀ position builder, session.builders[position]? = some builder →
      (∀ rule, session.Succeeds position (.start rule) ↔ builder.root = none) ∧
      (builder.root = none ↔
        ¬(start state).HasSucceeded leafText answer actions position (·.isStart = true)) ∧
      (∀ call, call.isStart = false → (session.Succeeds position call ↔
        (start state).HasSucceeded leafText answer actions position (·.isStart = true) ∧
        ¬(start state).HasSucceeded leafText answer actions position (· = .build))) ∧
      (session.Succeeds position .build → ∃ root, builder.root = some root ∧
        session.reply? position .build = some (.ok ⟨some root, true⟩) ∧
        (session.graph.IsAcyclicFrom root → ∀ id,
          (session.act leafText answer (.callBuilder position .build)).graph.Reaches root id →
          (session.act leafText answer (.callBuilder position .build)).graph.isSealed id = true)) ∧
      (∀ call, session.act leafText answer (.callBuilder position call) =
        let left := (Builder.carryOut call).after (builder, session.graph)
        { session with graph := left.2, builders := session.builders.set position left.1 }) ∧
      ∀ call fault, session.reply? position call = some (.error fault) →
        (∃ cause, fault = .composition cause) ∧
        (Builder.carryOut call).run.run (builder, session.graph) =
          (.error fault, builder, session.graph) ∧
        session.act leafText answer (.callBuilder position call) = session) ∧
    (∀ position, (start state).HasSucceeded leafText answer actions position (· = .build) →
      ¬session.Succeeds position .build) ∧
    (start state).run leafText answer ((start state).withoutFailing leafText answer actions) =
      session ∧
    (start state).replies leafText answer ((start state).withoutFailing leafText answer actions) =
      ((start state).replies leafText answer actions).filter (·.isOk) := by
  have tells := fun position => tellsCalls_of_run leafText answer state actions position
  rw [← reached] at tells
  obtain ⟨sameEnd, sameReplies⟩ := run_withoutFailing leafText answer (start state) actions
  refine ⟨?_, ?_, sameEnd.trans reached.symm, sameReplies⟩
  · intro position builder found
    obtain ⟨rootless, starts, others⟩ :=
      session.succeeds_iff_called position builder found _ _ (tells position)
    refine ⟨starts, rootless, others, session.build_seals position builder found,
      session.callBuilder_eq_carryOut position builder found, ?_⟩
    intro call fault failed
    obtain ⟨isComposition, unassigned⟩ :=
      session.refused_of_reply? position builder found call fault failed
    exact ⟨isComposition, unassigned, session.callBuilder_of_error position call fault failed⟩
  · rintro position built ⟨changed, replied⟩
    obtain ⟨builder, found, -⟩ := Option.map_eq_some_iff.mp replied
    obtain ⟨-, -, others⟩ :=
      session.succeeds_iff_called position builder found _ _ (tells position)
    exact ((others .build rfl).mp ⟨changed, replied⟩).2 built

end

/-- Two builders are started with the same conjunction, which one of them extends and the other one
finishes.  Four of the calls come out of turn. -/
def disputing : List (Action Subject Criterion) :=
  [.operate (.create (.leaf (.flagged "a"))), .operate (.create (.leaf (.flagged "b"))),
    .operate (.create (.compound .conjunction [0])), .openBuilder, .openBuilder,
    .callBuilder 0 (.join .conjunction 1), .callBuilder 0 (.start 2), .callBuilder 1 (.start 2),
    .callBuilder 0 (.start 1), .callBuilder 1 (.join .conjunction 1), .callBuilder 0 .build,
    .callBuilder 0 .build, .callBuilder 0 .negate, .callBuilder 1 (.join .disjunction 0)]

theorem finished_conjunction_is_refused_and_sealed :
    let session := (start []).run Criterion.text Criterion.answer disputing
    session.builders = [⟨some 2, true⟩, ⟨some 3, false⟩] ∧
      ¬session.Succeeds 0 .build ∧ session.Succeeds 1 .build ∧ ¬session.Succeeds 1 (.start 0) ∧
      session.act Criterion.text Criterion.answer (.callBuilder 0 .negate) = session ∧
      (session.act Criterion.text Criterion.answer (.callBuilder 1 .build)).graph.isSealed 0 =
        true ∧
      ((start []).withoutFailing Criterion.text Criterion.answer disputing).length = 10 ∧
      (start []).run Criterion.text Criterion.answer
        ((start []).withoutFailing Criterion.text Criterion.answer disputing) = session := by
  intro session
  obtain ⟨calls, once, sameEnd, -⟩ :=
    builder_calls_keep_protocol Criterion.text Criterion.answer [] disputing session rfl
  obtain ⟨-, -, -, -, -, refused⟩ := calls 0 ⟨some 2, true⟩ rfl
  obtain ⟨starts, -, -, finishes, -, -⟩ := calls 1 ⟨some 3, false⟩ rfl
  have built : (start []).HasSucceeded Criterion.text Criterion.answer disputing 0 (· = .build) :=
    ⟨disputing.take 10, .build, disputing.drop 11, rfl, rfl, ⟨some 2, true⟩, rfl⟩
  obtain ⟨root, same, -, sealsBelow⟩ := finishes ⟨⟨some 3, true⟩, rfl⟩
  cases same
  refine ⟨rfl, once 0 built, ⟨⟨some 3, true⟩, rfl⟩, ?_, (refused .negate _ rfl).2.2, ?_, rfl,
    sameEnd⟩
  · intro succeeds
    cases (starts 0).mp succeeds
  · have acyclic := (Graph.rule?_isSome_iff session.graph 3).mp ⟨_, rfl⟩
    refine sealsBelow acyclic 0 ?_
    exact .through 3 0 0 (.compound .disjunction [2, 0]) rfl (by simp [Shape.children]) (.self 0)

end Session

end Eligibility
