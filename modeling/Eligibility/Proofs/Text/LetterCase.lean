import Eligibility.Proofs.Text.CaseTable
import Eligibility.Proofs.Text.Trimming

/-!
# Letter case

It does not matter whether a text is trimmed before or after it is put into lower case, although
the form of a capital sigma depends on its neighbours: no blank character has a case.  Whether a
text in lower case is a certain word of unaccented letters can be seen from its characters one by
one.
-/

set_option autoImplicit false

namespace Eligibility.Text

/-! ## Lower case and trimming -/

/-- Blank characters behind a text do not change whether a letter comes first in it. -/
theorem meetsCased_append_blank (characters : List Char) {back : List Char}
    (blank : IsBlankText back) : meetsCased (characters ++ back) = meetsCased characters := by
  rw [meetsCased, meetsCased, List.dropWhile_append]
  cases characters.dropWhile isCaseIgnorable with
  | cons first rest => rfl
  | nil =>
      rw [if_pos List.isEmpty_nil]
      cases remaining : back.dropWhile isCaseIgnorable with
      | nil => rfl
      | cons first rest =>
          have member : first ∈ back :=
            (List.dropWhile_sublist _).subset (remaining ▸ List.mem_cons_self ..)
          exact isCased_of_isBlank (blank first member)

/-- The forms of a character are blank if and only if it is. -/
theorem isBlank_of_mem_lowerBetween {before after : List Char} {character form : Char}
    (member : form ∈ lowerBetween before character after) :
    isBlank form = isBlank character := by
  rw [lowerBetween] at member
  split at member
  case isTrue sigma =>
    subst sigma
    split at member
    · rw [List.mem_singleton.mp member]
      decide
    · rw [List.mem_singleton.mp member]
      decide
  case isFalse =>
    split at member
    case isTrue dotted =>
      subst dotted
      rcases List.mem_pair.mp member with rfl | rfl
      · decide
      · decide
    case isFalse => rw [List.mem_singleton.mp member, isBlank_lowerCharacter]

theorem lowerBetween_ne_nil (before : List Char) (character : Char) (after : List Char) :
    lowerBetween before character after ≠ [] := by
  rw [lowerBetween]
  split
  · split <;> exact List.cons_ne_nil _ _
  · split <;> exact List.cons_ne_nil _ _

theorem isBlankText_lowerFrom {characters : List Char} (blank : IsBlankText characters)
    (before : List Char) : IsBlankText (lowerFrom before characters) := by
  induction characters generalizing before with
  | nil => exact blank
  | cons character rest ih =>
      rw [IsBlankText, List.forall_mem_cons] at blank
      intro form member
      rw [lowerFrom, List.mem_append] at member
      rcases member with here | later
      · rw [isBlank_of_mem_lowerBetween here, blank.1]
      · exact ih blank.2 _ form later

theorem lowerFrom_append_blank (characters : List Char) {back : List Char}
    (blank : IsBlankText back) (before : List Char) :
    lowerFrom before (characters ++ back) =
      lowerFrom before characters ++ lowerFrom (characters.reverse ++ before) back := by
  induction characters generalizing before with
  | nil => rfl
  | cons character rest ih =>
      -- what follows a sigma has the blank characters at its end, where they do not count
      rw [List.cons_append, lowerFrom, lowerFrom, ih, lowerBetween, lowerBetween,
        meetsCased_append_blank rest blank, List.append_assoc, List.reverse_cons,
        List.append_assoc, List.singleton_append]

theorem lowerFrom_blank_before (characters : List Char) {front : List Char}
    (blank : IsBlankText front) (before : List Char) :
    lowerFrom (before ++ front) characters = lowerFrom before characters := by
  induction characters generalizing before with
  | nil => rfl
  | cons character rest ih =>
      rw [lowerFrom, lowerFrom, ← List.cons_append, ih, lowerBetween, lowerBetween,
        meetsCased_append_blank before blank]

theorem lowerFrom_blank_append {front : List Char} (blank : IsBlankText front)
    (characters before : List Char) :
    ∃ kept, IsBlankText kept ∧
      lowerFrom before (front ++ characters) =
        kept ++ lowerFrom (front.reverse ++ before) characters := by
  induction front generalizing before with
  | nil => exact ⟨[], blank, rfl⟩
  | cons character rest ih =>
      rw [IsBlankText, List.forall_mem_cons] at blank
      obtain ⟨kept, keptBlank, same⟩ := ih blank.2 (character :: before)
      refine ⟨lowerBetween before character (rest ++ characters) ++ kept, ?_, ?_⟩
      · intro form member
        rcases List.mem_append.mp member with here | later
        · rw [isBlank_of_mem_lowerBetween here, blank.1]
        · exact keptBlank form later
      · rw [List.cons_append, lowerFrom, same, List.append_assoc, List.reverse_cons,
          List.append_assoc, List.singleton_append]

theorem lowerFrom_ne_nil (before : List Char) (character : Char) (rest : List Char) :
    lowerFrom before (character :: rest) ≠ [] :=
  List.append_ne_nil_of_left_ne_nil (lowerBetween_ne_nil before character rest) _

theorem isBlank_of_head_lowerFrom {before characters : List Char} {form : Char}
    (found : form ∈ (lowerFrom before characters).head?) :
    ∃ character ∈ characters.head?, isBlank form = isBlank character := by
  cases characters with
  | nil => cases found
  | cons character rest =>
      rw [lowerFrom, List.head?_append_of_ne_nil _ (lowerBetween_ne_nil before character rest)]
        at found
      exact ⟨character, rfl, isBlank_of_mem_lowerBetween (List.mem_of_mem_head? found)⟩

theorem isBlank_of_last_lowerFrom {before characters : List Char} {form : Char}
    (found : form ∈ (lowerFrom before characters).getLast?) :
    ∃ character ∈ characters.getLast?, isBlank form = isBlank character := by
  induction characters generalizing before with
  | nil => cases found
  | cons character rest ih =>
      cases rest with
      | nil =>
          rw [lowerFrom, lowerFrom, List.append_nil] at found
          exact ⟨character, rfl, isBlank_of_mem_lowerBetween (List.mem_of_mem_getLast? found)⟩
      | cons next rest =>
          rw [lowerFrom, List.getLast?_append_of_ne_nil _ (lowerFrom_ne_nil _ next rest)] at found
          exact ih found

theorem isTrimmed_lowerFrom {characters : List Char} (trimmed : IsTrimmed characters)
    (before : List Char) : IsTrimmed (lowerFrom before characters) := by
  constructor
  · intro form found
    obtain ⟨character, first, same⟩ := isBlank_of_head_lowerFrom found
    rw [same, trimmed.1 character first]
  · intro form found
    obtain ⟨character, last, same⟩ := isBlank_of_last_lowerFrom found
    rw [same, trimmed.2 character last]

theorem trim_lowerFrom (characters : List Char) :
    trim (lowerFrom [] characters) = lowerFrom [] (trim characters) := by
  obtain ⟨trimmed, front, back, frontBlank, backBlank, same⟩ := trim_spec characters
  generalize trim characters = inside at trimmed same
  subst same
  rw [lowerFrom_append_blank _ backBlank]
  obtain ⟨kept, keptBlank, lowered⟩ := lowerFrom_blank_append frontBlank inside []
  rw [lowered, trim_padded keptBlank (isBlankText_lowerFrom backBlank _), List.append_nil,
    ← List.nil_append front.reverse, lowerFrom_blank_before inside frontBlank.reverse,
    trim_eq_self (isTrimmed_lowerFrom trimmed [])]

theorem lowercase_trim (text : String) :
    lowercase (String.ofList (trim text.toList)) =
      String.ofList (trim (lowercase text).toList) := by
  rw [lowercase, lowercase, String.toList_ofList, String.toList_ofList, trim_lowerFrom]

theorem trim_lowercase_eq_nil_iff (text : String) :
    trim (lowercase text).toList = [] ↔ trim text.toList = [] := by
  rw [lowercase, String.toList_ofList, trim_lowerFrom]
  cases trim text.toList with
  | nil => exact iff_of_true rfl rfl
  | cons character rest =>
      exact iff_of_false (lowerFrom_ne_nil [] character rest) (List.cons_ne_nil _ _)

/-! ## Texts with the same letters -/

/-- Texts whose characters have the same lower-case forms, one by one. -/
def SameLetters (first second : List Char) : Prop :=
  first.map lowerCharacter = second.map lowerCharacter

theorem dropWhile_map_lowerCharacter (characters : List Char) :
    (characters.map lowerCharacter).dropWhile isBlank =
      (characters.dropWhile isBlank).map lowerCharacter := by
  rw [List.dropWhile_map]
  congr 2
  exact funext isBlank_lowerCharacter

theorem trim_map_lowerCharacter (characters : List Char) :
    trim (characters.map lowerCharacter) = (trim characters).map lowerCharacter := by
  rw [trim, trim, dropWhile_map_lowerCharacter, ← List.map_reverse, dropWhile_map_lowerCharacter,
    List.map_reverse]

theorem SameLetters.trim {first second : List Char} (same : SameLetters first second) :
    SameLetters (trim first) (trim second) := by
  rw [SameLetters, ← trim_map_lowerCharacter, ← trim_map_lowerCharacter, same]

/-! ## Words -/

/-- The forms that only the two special letters turn into, and the one of them that the table leaves
alone. -/
def specialForms : List Char :=
  ['σ', 'ς', 'İ', '\u0307']

/-- A word without the special forms is read from a text exactly when it has its letters. -/
theorem lowerFrom_eq_iff {word : List Char} (plain : ∀ character ∈ word, character ∉ specialForms)
    (before text : List Char) :
    lowerFrom before text = word ↔ text.map lowerCharacter = word := by
  induction text generalizing before word with
  | nil => rfl
  | cons character rest ih =>
      rw [lowerFrom, List.map_cons, lowerBetween]
      split
      case isTrue sigma =>
        -- its forms, and the one that the table has for it, are not in the word
        subst sigma
        constructor
        · rintro rfl
          exfalso
          split at plain
          · exact plain 'ς' (by simp) (by simp [specialForms])
          · exact plain 'σ' (by simp) (by simp [specialForms])
        · rintro rfl
          exact absurd (by simp [specialForms, lowerCharacter_sigma])
            (plain (lowerCharacter 'Σ') (by simp))
      case isFalse noSigma =>
        split
        case isTrue dotted =>
          subst dotted
          constructor
          · rintro rfl
            exact absurd (by simp [specialForms]) (plain '\u0307' (by simp))
          · rintro rfl
            exact absurd (by simp [specialForms, (lowerCharacter_dotted 'İ').mpr rfl])
              (plain (lowerCharacter 'İ') (by simp))
        case isFalse =>
          cases word with
          | nil => simp
          | cons first word =>
              rw [List.singleton_append, List.cons.injEq, List.cons.injEq,
                ih fun character member => plain character (List.mem_cons_of_mem _ member)]

theorem lowercase_eq_iff {word : String}
    (plain : ∀ character ∈ word.toList, character ∉ specialForms) (text : String) :
    lowercase text = word ↔ text.toList.map lowerCharacter = word.toList := by
  rw [← lowerFrom_eq_iff plain [] text.toList, lowercase, ← String.toList_inj,
    String.toList_ofList]

end Eligibility.Text
