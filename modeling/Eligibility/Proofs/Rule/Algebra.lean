import Eligibility.Proofs.Rule.InTurn

/-!
# Joining rules as trees

What a composition makes of rules, without a graph: a rule that already has the connective is
continued by the clauses of the other rule, and any two other rules become the clauses of a new
one.  Renaming the labels commutes with this.
-/

set_option autoImplicit false

namespace Eligibility

namespace Rule

variable {Label Other Criterion : Type}

def joins (connective : Connective) : Rule Label Criterion → Bool
  | .compound _ kind _ => kind = connective
  | _ => false

def isCompound : Rule Label Criterion → Bool
  | .compound .. => true
  | _ => false

def clauses (connective : Connective) (rule : Rule Label Criterion) :
    List (Rule Label Criterion) :=
  if rule.joins connective then rule.parts else [rule]

def joined (label : Label) (connective : Connective) (receiver other : Rule Label Criterion) :
    Rule Label Criterion :=
  .compound label connective
    (if receiver.joins connective then receiver.parts ++ other.clauses connective
      else [receiver, other])

def joinedAll (leaf inner : Label) (connective : Connective) :
    List (Rule Label Criterion) → Rule Label Criterion
  | [] => .constant leaf connective.neutral
  | first :: rest => rest.foldl (joined inner connective) first

theorem joins_iff (connective : Connective) (rule : Rule Label Criterion) :
    rule.joins connective = true ↔
      ∃ label children, rule = .compound label connective children := by
  cases rule <;> simp [joins]

theorem isCompound_of_joins (connective : Connective) (rule : Rule Label Criterion)
    (isJoined : rule.joins connective = true) : rule.isCompound = true := by
  obtain ⟨label, children, rfl⟩ := (joins_iff connective rule).mp isJoined
  rfl

theorem clauses_compound (label : Label) (connective : Connective)
    (children : List (Rule Label Criterion)) :
    clauses connective (.compound label connective children) = children := by
  simp [clauses, joins, parts]

theorem clauses_of_not_joins (connective : Connective) (rule : Rule Label Criterion)
    (differs : rule.joins connective = false) : rule.clauses connective = [rule] := by
  simp [clauses, differs]

theorem labels_of_clause (connective : Connective) (rule clause : Rule Label Criterion)
    (member : clause ∈ rule.clauses connective) : ∀ label ∈ clause.labels, label ∈ rule.labels := by
  unfold clauses at member
  split at member
  · exact labels_of_part rule clause member
  · rw [List.mem_singleton.mp member]
    exact fun label inside => inside

theorem not_mem_labels_of_clauses (connective : Connective) (rule : Rule Label Criterion)
    (label : Label) (notRoot : rule.label ≠ label)
    (notBelow : ∀ clause ∈ rule.clauses connective, label ∉ clause.labels) :
    label ∉ rule.labels := by
  cases isJoined : rule.joins connective with
  | true =>
      simp only [clauses, isJoined, if_true] at notBelow
      rw [labels_eq_cons, List.mem_cons, List.mem_flatMap]
      rintro (same | ⟨part, member, inside⟩)
      · exact notRoot same.symm
      · exact notBelow part member inside
  | false =>
      simp only [clauses, isJoined, Bool.false_eq_true, if_false] at notBelow
      exact notBelow rule (List.mem_singleton_self rule)

theorem part_of_joined (label : Label) (connective : Connective)
    (receiver other part : Rule Label Criterion)
    (member : part ∈ (joined label connective receiver other).parts) :
    part ∈ receiver.parts ∧ receiver.joins connective = true ∨ part ∈ other.clauses connective ∨
      receiver.joins connective = false ∧ (part = receiver ∨ part = other) := by
  cases isJoined : receiver.joins connective <;> simp [joined, parts, isJoined] at member ⊢
  · exact .inr member
  · exact member

theorem labels_of_part_joined (root : Label) (connective : Connective)
    (receiver other part : Rule Label Criterion)
    (member : part ∈ (joined root connective receiver other).parts) (label : Label)
    (inside : label ∈ part.labels) : label ∈ receiver.labels ∨ label ∈ other.labels := by
  rcases part_of_joined root connective receiver other part member with
    ⟨inReceiver, -⟩ | inOther | ⟨-, rfl | rfl⟩
  · exact .inl (labels_of_part receiver part inReceiver label inside)
  · exact .inr (labels_of_clause connective other part inOther label inside)
  · exact .inl inside
  · exact .inr inside

theorem labels_of_joined (root : Label) (connective : Connective)
    (receiver other : Rule Label Criterion) (label : Label)
    (inside : label ∈ (joined root connective receiver other).labels) :
    label = root ∨ label ∈ receiver.labels ∨ label ∈ other.labels := by
  rw [labels_eq_cons, List.mem_cons, List.mem_flatMap] at inside
  rcases inside with isRoot | ⟨part, member, inPart⟩
  · exact .inl isRoot
  · exact .inr (labels_of_part_joined root connective receiver other part member label inPart)

theorem labels_of_fold_joined (root : Label) (connective : Connective)
    (first : Rule Label Criterion) (rest : List (Rule Label Criterion)) (label : Label)
    (inside : label ∈ (rest.foldl (joined root connective) first).labels) :
    label = root ∨ ∃ rule ∈ first :: rest, label ∈ rule.labels := by
  induction rest generalizing first with
  | nil => exact .inr ⟨first, by simp, inside⟩
  | cons next rest ih =>
      rcases ih (joined root connective first next) inside with isRoot | ⟨rule, member, inRule⟩
      · exact .inl isRoot
      · rcases List.mem_cons.mp member with rfl | inRest
        · rcases labels_of_joined root connective first next label inRule with
            isRoot | inFirst | inNext
          · exact .inl isRoot
          · exact .inr ⟨first, by simp, inFirst⟩
          · exact .inr ⟨next, by simp, inNext⟩
        · exact .inr ⟨rule, by simp [inRest], inRule⟩

/-! ## Verdicts -/

theorem judge_clauses {State : Type} (answer : Label → Criterion → Trial State Bool)
    (connective : Connective) (rule : Rule Label Criterion)
    (filled : rule.clauses connective ≠ []) :
    Trial.inTurn connective ((rule.clauses connective).map (judge answer)) = rule.judge answer := by
  cases isJoined : rule.joins connective with
  | true =>
      obtain ⟨label, children, rfl⟩ := (joins_iff connective rule).mp isJoined
      rw [clauses_compound] at filled ⊢
      rw [judge_compound answer label connective children filled]
  | false =>
      rw [clauses_of_not_joins connective rule isJoined, List.map_singleton, Trial.inTurn_single]

theorem joined_asksInTurn (label : Label) (connective : Connective)
    (receiver other : Rule Label Criterion) (receiverFilled : receiver.clauses connective ≠ [])
    (otherFilled : other.clauses connective ≠ []) :
    (joined label connective receiver other).AsksInTurn connective [receiver, other] := by
  apply asksInTurn_of_judged
  intro State answer
  cases isJoined : receiver.joins connective with
  | true =>
      obtain ⟨root, children, rfl⟩ := (joins_iff connective receiver).mp isJoined
      have receiverJudged := judge_clauses answer connective _ receiverFilled
      have otherJudged := judge_clauses answer connective other otherFilled
      rw [clauses_compound] at receiverFilled receiverJudged
      rw [joined, isJoined, if_pos rfl, parts,
        judge_compound answer label connective _ (by simp [receiverFilled]), List.map_append,
        ← Trial.inTurn_pair, receiverJudged, otherJudged]
      rfl
  | false =>
      rw [joined, isJoined, if_neg (by simp),
        judge_compound answer label connective _ (by simp)]

/-! ## Renaming -/

mutual

/-- Renames the labels, those of the leaves and of the other nodes apart. -/
def rename (leaf inner : Label → Other) : Rule Label Criterion → Rule Other Criterion
  | .leaf label criterion => .leaf (leaf label) criterion
  | .constant label verdict => .constant (leaf label) verdict
  | .compound label connective children =>
    .compound (inner label) connective (renameAll leaf inner children)
  | .exclusive label left right =>
    .exclusive (inner label) (left.rename leaf inner) (right.rename leaf inner)
  | .negation label operand => .negation (inner label) (operand.rename leaf inner)

def renameAll (leaf inner : Label → Other) :
    List (Rule Label Criterion) → List (Rule Other Criterion)
  | [] => []
  | child :: rest => child.rename leaf inner :: renameAll leaf inner rest

end

/-- The rule without the labels of its inner nodes. -/
def form (rule : Rule Label Criterion) : Rule (Option Label) Criterion :=
  rule.rename some fun _ => none

section

variable (leaf inner : Label → Other)

theorem renameAll_eq_map (children : List (Rule Label Criterion)) :
    renameAll leaf inner children = children.map (rename leaf inner) := by
  induction children with
  | nil => rfl
  | cons child rest ih => simp only [renameAll, ih, List.map_cons]

@[simp]
theorem rename_compound (label : Label) (connective : Connective)
    (children : List (Rule Label Criterion)) :
    rename leaf inner (.compound label connective children) =
      .compound (inner label) connective (children.map (rename leaf inner)) := by
  rw [rename, renameAll_eq_map]

@[simp]
theorem joins_rename (connective : Connective) (rule : Rule Label Criterion) :
    (rule.rename leaf inner).joins connective = rule.joins connective := by
  cases rule <;> simp [rename, joins]

@[simp]
theorem isCompound_rename (rule : Rule Label Criterion) :
    (rule.rename leaf inner).isCompound = rule.isCompound := by
  cases rule <;> simp [rename, isCompound]

@[simp]
theorem parts_rename (rule : Rule Label Criterion) :
    (rule.rename leaf inner).parts = rule.parts.map (rename leaf inner) := by
  cases rule <;> simp [rename, parts, renameAll_eq_map]

@[simp]
theorem clauses_rename (connective : Connective) (rule : Rule Label Criterion) :
    (rule.rename leaf inner).clauses connective =
      (rule.clauses connective).map (rename leaf inner) := by
  cases isJoined : rule.joins connective <;> simp [clauses, isJoined]

theorem rename_joined (label : Label) (connective : Connective)
    (receiver other : Rule Label Criterion) :
    (joined label connective receiver other).rename leaf inner =
      joined (inner label) connective (receiver.rename leaf inner) (other.rename leaf inner) := by
  cases isJoined : receiver.joins connective <;> simp [joined, isJoined]

theorem rename_fold_joined (label : Label) (connective : Connective)
    (first : Rule Label Criterion) (rest : List (Rule Label Criterion)) :
    (rest.foldl (joined label connective) first).rename leaf inner =
      (rest.map (rename leaf inner)).foldl (joined (inner label) connective)
        (first.rename leaf inner) := by
  induction rest generalizing first with
  | nil => rfl
  | cons next others ih => rw [List.foldl_cons, ih, rename_joined, List.map_cons, List.foldl_cons]

theorem rename_joinedAll (leafLabel innerLabel : Label) (connective : Connective)
    (rules : List (Rule Label Criterion)) :
    (joinedAll leafLabel innerLabel connective rules).rename leaf inner =
      joinedAll (leaf leafLabel) (inner innerLabel) connective
        (rules.map (rename leaf inner)) := by
  cases rules with
  | nil => rfl
  | cons first rest => exact rename_fold_joined leaf inner innerLabel connective first rest

end

end Rule

end Eligibility
