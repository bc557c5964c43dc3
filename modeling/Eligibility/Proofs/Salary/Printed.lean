import Eligibility.Proofs.Decimal.Reading
import Eligibility.Proofs.Description.Outline
import Eligibility.Proofs.Salary.Comparison
import Eligibility.Proofs.Text.Trimming
import Eligibility.Workbench.Expression

/-!
# Salary rules from their texts

The text of a rule over the salary is taken apart into the name of its class and its parameters.
None of the characters in between occurs in a decimal, so every threshold is found as it was
written, and is read as what it was.  A rule that is made of the parts is the same rule.
-/

set_option autoImplicit false

namespace Eligibility

/-! ## The parts of a text -/

namespace Criterion

def shownName (text : List Char) : List Char :=
  text.takeWhile (· ≠ '(')

def shownParameter (parameter : List Char) : List Char × List Char :=
  let named := parameter.dropWhile Text.isBlank
  (named.takeWhile (· ≠ '='), (named.dropWhile (· ≠ '=')).tail)

def shownParameters (text : List Char) : List (List Char × List Char) :=
  (((text.dropWhile (· ≠ '(')).tail.dropLast).splitOn ',').map shownParameter

theorem split_at_mark {mark : Char} {front : List Char} (plain : mark ∉ front) (back : List Char) :
    (front ++ mark :: back).takeWhile (· ≠ mark) = front ∧
      (front ++ mark :: back).dropWhile (· ≠ mark) = mark :: back := by
  have passed : ∀ character ∈ front, decide (character ≠ mark) = true := by
    intro character member
    exact decide_eq_true fun same => plain (same ▸ member)
  exact cut_append front (mark :: back) passed (by simp)

theorem shown_of_text (criterion : Criterion) :
    shownName criterion.text.toList = criterion.className.toList ∧
      shownParameters criterion.text.toList =
        (criterion.parameters.toList.splitOn ',').map shownParameter := by
  have plain : '(' ∉ criterion.className.toList := by
    intro member
    have delimiter := (Rule.criterion_className criterion).1.2 '(' member
    cases delimiter
  have characters : criterion.text.toList =
      criterion.className.toList ++ '(' :: (criterion.parameters.toList ++ [')']) := by
    simp [text]
  obtain ⟨front, back⟩ := split_at_mark plain (criterion.parameters.toList ++ [')'])
  rw [shownName, shownParameters, characters, front, back, List.tail_cons, List.dropLast_concat]
  exact ⟨rfl, rfl⟩

theorem shownParameter_eq (blank name value : List Char) (isBlank : Text.IsBlankText blank)
    (nonempty : name ≠ []) (plain : '=' ∉ name) (visible : name.any Text.isBlank = false) :
    shownParameter (blank ++ name ++ '=' :: value) = (name, value) := by
  have starts : ∀ character ∈ (name ++ '=' :: value).head?, Text.isBlank character = false := by
    intro character found
    rw [List.head?_append_of_ne_nil _ nonempty] at found
    exact Bool.eq_false_iff.mpr
      (List.any_eq_false.mp visible character (List.mem_of_mem_head? found))
  obtain ⟨front, back⟩ := split_at_mark plain value
  rw [shownParameter, List.append_assoc, List.dropWhile_append_of_pos isBlank,
    Text.dropWhile_isBlank_eq_self starts, front, back, List.tail_cons]

end Criterion

/-! ## Thresholds -/

namespace Decimal

theorem isTrimmed_chars (decimal : Decimal) : Text.IsTrimmed decimal.chars := by
  refine Text.isTrimmed_of_not_blank fun character member => ?_
  rcases decimal.isNumeral_chars character member with digit | mark
  · exact Text.isBlank_of_isDigit digit
  · simp only [List.mem_cons, List.not_mem_nil, or_false] at mark
    rcases mark with rfl | rfl | rfl | rfl <;> rfl

/-- The text of a decimal is read as the decimal, whatever blank characters surround it. -/
theorem readDecimal_chars (decimal : Decimal) (field : String) (front back : Text.Padding) :
    Field.readDecimal field (.text (String.ofList (front ++ decimal.chars ++ back))) =
      .ok decimal := by
  rw [Field.readDecimal, Field.decimalOf?, Field.decimalOfText?, String.toList_ofList,
    Text.trim_padded front.2 back.2, Text.trim_eq_self decimal.isTrimmed_chars,
    ExtendedDecimal.read?_chars]
  rfl

theorem chars_injective : Function.Injective chars := by
  intro first second same
  have read := ExtendedDecimal.read?_chars first
  rw [same, ExtendedDecimal.read?_chars] at read
  exact (ExtendedDecimal.finite.inj (Option.some.inj read)).symm

end Decimal

/-! ## Rules -/

def SalaryBound.labelled : SalaryBound → List (String × Decimal)
  | .above threshold | .below threshold => [("threshold", threshold)]
  | .within first second => [("first", first), ("second", second)]

namespace SalaryRule

variable (rule : SalaryRule)

def written (blank : List Char) (name : String) (threshold : Decimal) : List Char :=
  blank ++ name.toList ++ '=' :: threshold.chars

theorem comma_not_written (blank : List Char) (name : String) (threshold : Decimal)
    (inBlank : ',' ∉ blank) (inName : ',' ∉ name.toList) :
    ',' ∉ written blank name threshold := by
  have inChars := threshold.not_mem_chars ',' (by simp [Decimal.IsNumeral])
  simp [written, inBlank, inName, inChars]

theorem splitOn_parameters : rule.parameters.toList.splitOn ',' =
    match rule.bound with
    | .above threshold | .below threshold => [written [] "threshold" threshold]
    | .within first second => [written [] "first" first, written [' '] "second" second] := by
  obtain ⟨bound, scale⟩ := rule
  cases bound with
  | above threshold | below threshold =>
      have plain := comma_not_written [] "threshold" threshold (by decide) (by decide)
      have characters : ("threshold=" ++ threshold.text).toList =
          [','].intercalate [written [] "threshold" threshold] := by
        simp [written, Decimal.text]
      simp only [parameters, characters]
      exact List.splitOn_intercalate ',' (List.forall_mem_singleton.mpr plain) (by simp)
  | within first second =>
      have plainFirst := comma_not_written [] "first" first (by decide) (by decide)
      have plainSecond := comma_not_written [' '] "second" second (by decide) (by decide)
      have characters : ("first=" ++ first.text ++ ", second=" ++ second.text).toList =
          [','].intercalate [written [] "first" first, written [' '] "second" second] := by
        simp [written, Decimal.text, List.intercalate]
      simp only [parameters, characters]
      exact List.splitOn_intercalate ','
        (List.forall_mem_cons.mpr ⟨plainFirst, List.forall_mem_singleton.mpr plainSecond⟩) (by simp)

theorem shownParameters_text : Criterion.shownParameters (Criterion.salary rule).text.toList =
    rule.bound.labelled.map fun entry => (entry.1.toList, entry.2.chars) := by
  rw [(Criterion.shown_of_text (.salary rule)).2, Criterion.parameters, splitOn_parameters]
  obtain ⟨bound, scale⟩ := rule
  have threshold (value : List Char) := Criterion.shownParameter_eq [] "threshold".toList value
    nofun (by decide) (by decide) (by decide)
  have first (value : List Char) := Criterion.shownParameter_eq [] "first".toList value
    nofun (by decide) (by decide) (by decide)
  have second (value : List Char) := Criterion.shownParameter_eq [' '] "second".toList value
    (List.forall_mem_singleton.mpr rfl) (by decide) (by decide) (by decide)
  cases bound with
  | above bound | below bound =>
      simp only [written, List.map_cons, List.map_nil, threshold, SalaryBound.labelled]
  | within lower upper =>
      simp only [written, List.map_cons, List.map_nil, first, second, SalaryBound.labelled]

def kind : CriterionKind :=
  match rule.bound with
  | .above _ => .salaryAbove
  | .below _ => .salaryBelow
  | .within .. => .salaryWithin

theorem lookup_className : CriterionKind.named.lookup rule.className = some rule.kind := by
  obtain ⟨bound, scale⟩ := rule
  cases bound <;> rfl

end SalaryRule

namespace Operand

/-- An operand is a text of some characters with any blank ones around them. -/
def Shows (operand : Operand) (characters : List Char) : Prop :=
  ∃ (text : String) (front back : Text.Padding),
    operand = .plain (.text text) ∧ text.toList = front ++ characters ++ back

theorem readDecimal_of_shows {operand : Operand} {threshold : Decimal}
    (shows : operand.Shows threshold.chars) (field : String) :
    Field.readDecimal field operand.toValue = .ok threshold := by
  obtain ⟨text, front, back, rfl, characters⟩ := shows
  rw [toValue, ← String.ofList_toList (s := text), characters]
  exact threshold.readDecimal_chars field front back

end Operand

namespace SalaryRule

theorem ofThreshold_of_read (bound : Decimal → SalaryBound) {value : Value} {threshold : Decimal}
    (read : Field.readDecimal "threshold" value = .ok threshold)
    {made : Except Fault SalaryScale} {scale : SalaryScale} (isMade : made = .ok scale) :
    ofThreshold bound value made = .ok ⟨bound threshold, scale⟩ := by
  rw [ofThreshold, read, isMade]
  rfl

theorem ofRange_of_read {lower upper : Value} {first second : Decimal}
    (readFirst : Field.readDecimal "first" lower = .ok first)
    (readSecond : Field.readDecimal "second" upper = .ok second)
    {made : Except Fault SalaryScale} {scale : SalaryScale} (isMade : made = .ok scale) :
    ofRange lower upper made = .ok ⟨.within first second, scale⟩ := by
  rw [ofRange, readFirst, readSecond, isMade]
  rfl

/-- A rule is made of texts that show its thresholds, in order, and of its base. -/
theorem make_of_shown (rule : SalaryRule) (clock : Instant) (operands : List Operand)
    (shown : List.Forall₂ Operand.Shows operands (rule.bound.labelled.map (·.2.chars)))
    (base : Operand) (sameBase : base.toScale = .ok rule.scale) :
    rule.kind.make clock (operands ++ [base]) = .ok (.salary rule) := by
  obtain ⟨bound, scale⟩ := rule
  cases bound with
  | above threshold | below threshold =>
      cases shown with
      | cons shows nothing =>
          cases nothing
          have read := Operand.readDecimal_of_shows shows "threshold"
          exact congrArg (Except.map Criterion.salary) (ofThreshold_of_read _ read sameBase)
  | within first second =>
      cases shown with
      | cons showsFirst rest =>
          cases rest with
          | cons showsSecond nothing =>
              cases nothing
              have readFirst := Operand.readDecimal_of_shows showsFirst "first"
              have readSecond := Operand.readDecimal_of_shows showsSecond "second"
              have made := ofRange_of_read readFirst readSecond sameBase
              exact congrArg (Except.map Criterion.salary) made

theorem bound_eq_of_labelled (rule other : SalaryRule) (sameKind : other.kind = rule.kind)
    (same : other.bound.labelled = rule.bound.labelled) : other.bound = rule.bound := by
  obtain ⟨bound, scale⟩ := rule
  obtain ⟨otherBound, otherScale⟩ := other
  cases bound <;> cases otherBound <;> simp_all [kind, SalaryBound.labelled]

theorem eq_of_text (rule other : SalaryRule) (sameBase : other.scale.base = rule.scale.base)
    (sameText : (Criterion.salary other).text = (Criterion.salary rule).text) : other = rule := by
  have sameName : other.className = rule.className := by
    have names := (Criterion.shown_of_text (.salary other)).1
    rw [sameText, (Criterion.shown_of_text (.salary rule)).1] at names
    exact (String.toList_inj.mp names).symm
  have sameKind : other.kind = rule.kind := by
    have found := other.lookup_className
    rw [sameName, rule.lookup_className] at found
    exact (Option.some.inj found).symm
  have injective : Function.Injective fun entry : String × Decimal =>
      (entry.1.toList, entry.2.chars) := by
    rintro ⟨name, threshold⟩ ⟨otherName, otherThreshold⟩ same
    obtain ⟨names, texts⟩ := Prod.mk.inj same
    exact Prod.ext (String.toList_inj.mp names) (Decimal.chars_injective texts)
  have sameBound : other.bound = rule.bound := by
    apply bound_eq_of_labelled rule other sameKind
    have parameters := other.shownParameters_text
    rw [sameText, rule.shownParameters_text] at parameters
    exact (List.map_injective_iff.mpr injective parameters).symm
  have sameScale := SalaryScale.ext_base sameBase
  cases rule
  cases other
  cases sameBound
  cases sameScale
  rfl

/-- The text of a rule over the salary shows its thresholds by name, and what it shows of one is
read as the threshold, with any blank characters around it.  The class that the text names makes the
very rule of such texts and the same base, so that it gives the same answer about every candidate;
and rules with the same base and the same text are the same rule. -/
theorem printed_thresholds_make_same_rule (rule : SalaryRule) :
    let text := (Criterion.salary rule).text.toList
    Criterion.shownParameters text =
      rule.bound.labelled.map (fun entry => (entry.1.toList, entry.2.chars)) ∧
    (∀ entry ∈ rule.bound.labelled, ∀ front back : Text.Padding,
      Field.readDecimal entry.1 (.text (String.ofList (front ++ entry.2.chars ++ back))) =
        .ok entry.2) ∧
    (∃ kind, CriterionKind.named.lookup (String.ofList (Criterion.shownName text)) = some kind ∧
      ∀ clock operands base, base.toScale = .ok rule.scale →
        List.Forall₂ Operand.Shows operands ((Criterion.shownParameters text).map Prod.snd) →
        kind.make clock (operands ++ [base]) = .ok (.salary rule)) ∧
    ∀ other : SalaryRule, other.scale.base = rule.scale.base →
      (Criterion.salary other).text = (Criterion.salary rule).text → other = rule := by
  intro text
  have parameters : Criterion.shownParameters text = _ := rule.shownParameters_text
  have name : Criterion.shownName text = rule.className.toList :=
    (Criterion.shown_of_text (.salary rule)).1
  refine ⟨parameters, fun entry _ => entry.2.readDecimal_chars entry.1, ⟨rule.kind, ?_, ?_⟩,
    rule.eq_of_text⟩
  · rw [name, String.ofList_toList]
    exact rule.lookup_className
  · intro clock operands base sameBase shown
    rw [parameters, List.map_map] at shown
    exact rule.make_of_shown clock operands shown base sameBase

def widestRange : SalaryRule where
  bound := .within ⟨-25, -8, by decide, by decide⟩ ⟨12345, 8999999999999996, by decide, by decide⟩
  scale := .standard

theorem widest_range_made_again :
    (Criterion.salary widestRange).text =
      "SalaryBetween(first=-2.5e-7, second=1.2345e+9000000000000000)" ∧
    (∀ clock, CriterionKind.salaryWithin.make clock
      [.plain (.text " -2.5e-7"), .plain (.text "1.2345e+9000000000000000\n"), .plain .absent] =
        .ok (.salary widestRange)) ∧
    ∀ other : SalaryRule, other.scale.base = SalaryScale.defaultBase →
      (Criterion.salary other).text =
        "SalaryBetween(first=-2.5e-7, second=1.2345e+9000000000000000)" →
      other = widestRange := by
  have isText : (Criterion.salary widestRange).text =
      "SalaryBetween(first=-2.5e-7, second=1.2345e+9000000000000000)" := by decide
  obtain ⟨parameters, -, ⟨kind, named, makes⟩, onlyRule⟩ :=
    printed_thresholds_make_same_rule widestRange
  refine ⟨isText, fun clock => ?_, fun other sameBase sameText => ?_⟩
  · rw [isText] at named
    obtain rfl : CriterionKind.salaryWithin = kind := Option.some.inj (Eq.trans (by decide) named)
    refine makes clock [_, _] _ rfl ?_
    rw [parameters]
    refine .cons ⟨_, ⟨[' '], List.forall_mem_singleton.mpr rfl⟩, ⟨[], nofun⟩, rfl, ?_⟩
      (.cons ⟨_, ⟨[], nofun⟩, ⟨['\n'], List.forall_mem_singleton.mpr rfl⟩, rfl, ?_⟩ .nil)
    · decide
    · decide
  · exact onlyRule other sameBase (sameText.trans isText.symm)

end SalaryRule

end Eligibility
