import FlowClient.Text.Blank
import FlowClient.Text.Replace
import Mathlib.Data.List.Infix

/-! The words of a text in which a pattern is replaced. A pattern without a blank in it lies
within a word or nowhere, so the words of the new text come from those of the old one, word by
word. -/

namespace FlowClient.Text

variable {isMark : Char → Bool} {pattern replacement text first rest : List Char} {mark : Char}

/-! ## Fields -/

theorem pieces_eq_splitOnP (isMark : Char → Bool) (text : List Char) :
    pieces isMark text = text.splitOnP isMark := by
  induction text with
  | nil => rfl
  | cons char rest induction =>
      have nonempty := List.splitOnP_ne_nil isMark rest
      rw [pieces, List.splitOnP_cons_eq_if_modifyHead, induction]
      split
      · rfl
      · cases pieces : rest.splitOnP isMark with
        | nil => exact absurd pieces nonempty
        | cons first others => rfl

theorem fields_append_cons (marked : isMark mark = true) (first rest : List Char) :
    fields isMark (first ++ mark :: rest) = fields isMark first ++ fields isMark rest := by
  simp only [fields, pieces_eq_splitOnP, List.splitOnP_append_cons _ _ marked, List.filter_append]

theorem fields_of_unmarked (unmarked : ∀ char ∈ text, isMark char = false) (nonempty : text ≠ []) :
    fields isMark text = [text] := by
  simp [fields, pieces_eq_splitOnP, List.splitOnP_eq_singleton unmarked, nonempty]

theorem mem_fields {field : List Char} (member : field ∈ fields isMark text) :
    field ≠ [] ∧ ∀ char ∈ field, isMark char = false := by
  rcases List.mem_filter.mp member with ⟨piece, nonempty⟩
  exact ⟨by simpa using nonempty, fun char within => not_isMark_of_mem_pieces piece within⟩

/-- A text is one stretch without marks, or such a stretch, a mark and a shorter text. -/
theorem marks_induction (isMark : Char → Bool) {motive : List Char → Prop}
    (stretch : ∀ text, (∀ char ∈ text, isMark char = false) → motive text)
    (marked : ∀ first mark rest, (∀ char ∈ first, isMark char = false) → isMark mark = true →
      motive rest → motive (first ++ mark :: rest)) (text : List Char) : motive text := by
  suffices along : ∀ first : List Char, (∀ char ∈ first, isMark char = false) →
      motive (first ++ text) from along [] (by simp)
  induction text with
  | nil => simpa using stretch
  | cons char rest induction =>
      intro first unmarked
      cases isMarked : isMark char with
      | true => exact marked first char rest unmarked isMarked (induction [] (by simp))
      | false =>
          have longer := induction (first ++ [char])
          rw [List.append_assoc] at longer
          refine longer fun other member => ?_
          rcases List.mem_append.mp member with before | last
          · exact unmarked other before
          · exact List.mem_singleton.mp last ▸ isMarked

theorem mem_of_mem_fields {field : List Char} {char : Char} (member : field ∈ fields isMark text)
    (within : char ∈ field) : char ∈ text := by
  induction text using marks_induction isMark with
  | stretch text unmarked =>
      by_cases nonempty : text = []
      · subst nonempty
        simp [fields, pieces] at member
      · rw [fields_of_unmarked unmarked nonempty] at member
        exact List.mem_singleton.mp member ▸ within
  | marked first mark rest unmarked marked induction =>
      rw [fields_append_cons marked, List.mem_append] at member
      by_cases nonempty : first = []
      · subst nonempty
        exact List.mem_cons_of_mem _ (induction (by simpa [fields, pieces] using member))
      · rw [fields_of_unmarked unmarked nonempty, List.mem_singleton] at member
        rcases member with here | later
        · exact List.mem_append_left _ (here ▸ within)
        · exact List.mem_append_right _ (List.mem_cons_of_mem _ (induction later))

/-! ## Occurrences -/

/-- An occurrence does not reach over a character that the pattern does not have. -/
theorem prefix_append_cons_iff (absent : mark ∉ pattern) :
    pattern <+: first ++ mark :: rest ↔ pattern <+: first := by
  refine ⟨fun begins => ?_, fun begins => begins.trans (List.prefix_append _ _)⟩
  rcases List.prefix_or_prefix_of_prefix begins (List.prefix_append first (mark :: rest)) with
    within | ⟨more, rfl⟩
  · exact within
  · rw [List.prefix_append_right_inj, List.prefix_cons_iff] at begins
    rcases begins with rfl | ⟨tail, rfl, -⟩
    · simp
    · simp at absent

theorem isPrefixOf_append_cons (absent : mark ∉ pattern) (first rest : List Char) :
    pattern.isPrefixOf (first ++ mark :: rest) = pattern.isPrefixOf first := by
  rw [Bool.eq_iff_iff, List.isPrefixOf_iff_prefix, List.isPrefixOf_iff_prefix,
    prefix_append_cons_iff absent]

/-- What stands before and after a character that the pattern does not have is replaced apart. -/
theorem replaceFrom_append_cons (absent : mark ∉ pattern) (nonempty : pattern ≠ []) {skip : Nat}
    (within : skip ≤ first.length) :
    replaceFrom pattern replacement skip (first ++ mark :: rest) =
      replaceFrom pattern replacement skip first ++
        mark :: replaceFrom pattern replacement 0 rest := by
  induction first generalizing skip with
  | nil =>
      have none : pattern.isPrefixOf (mark :: rest) = false := by
        have nowhere := isPrefixOf_append_cons absent [] rest
        cases pattern with
        | nil => exact absurd rfl nonempty
        | cons head tail => exact nowhere
      rw [Nat.le_zero.mp within]
      simp [replaceFrom, none]
  | cons head first induction =>
      cases skip with
      | succ skip => exact induction (Nat.le_of_succ_le_succ within)
      | zero =>
          have same := isPrefixOf_append_cons absent (head :: first) rest
          rw [List.cons_append] at same ⊢
          rw [replaceFrom, replaceFrom, same]
          split
          · rename_i begins
            have short := (List.isPrefixOf_iff_prefix.mp begins).length_le
            rw [List.length_cons] at short
            rw [induction (show pattern.length - 1 ≤ first.length by omega), List.append_assoc]
          · rw [induction (Nat.zero_le _), List.cons_append]

theorem replaceFrom_of_absent (absent : ¬ pattern <:+: text) :
    replaceFrom pattern replacement 0 text = text := by
  induction text with
  | nil => rfl
  | cons char rest induction =>
      rw [List.infix_cons_iff, not_or, ← List.isPrefixOf_iff_prefix] at absent
      rw [replaceFrom, if_neg absent.1, induction absent.2]

theorem replaceFrom_length (pattern replacement text : List Char) :
    replaceFrom pattern replacement text.length text = [] := by
  induction text with
  | nil => rfl
  | cons char rest induction => exact induction

theorem replaceFrom_self (nonempty : pattern ≠ []) :
    replaceFrom pattern replacement 0 pattern = replacement := by
  cases pattern with
  | nil => exact absurd rfl nonempty
  | cons head tail =>
      have begins : (head :: tail).isPrefixOf (head :: tail) = true :=
        List.isPrefixOf_iff_prefix.mpr List.prefix_rfl
      rw [replaceFrom, if_pos begins]
      simp [replaceFrom_length]

/-! ## Fields of a text in which a pattern is replaced -/

theorem fields_replaceFrom_of_unmarked (unmarked : ∀ char ∈ text, isMark char = false) :
    fields isMark (replaceFrom pattern replacement 0 text) =
      (fields isMark text).flatMap fun field =>
        fields isMark (replaceFrom pattern replacement 0 field) := by
  by_cases nonempty : text = []
  · subst nonempty
    rfl
  · rw [fields_of_unmarked unmarked nonempty, List.flatMap_singleton]

/-- A pattern that no field can be cut in is replaced field by field. -/
theorem fields_replaceFrom (unmarked : ∀ char ∈ pattern, isMark char = false)
    (nonempty : pattern ≠ []) (text : List Char) :
    fields isMark (replaceFrom pattern replacement 0 text) =
      (fields isMark text).flatMap fun field =>
        fields isMark (replaceFrom pattern replacement 0 field) := by
  induction text using marks_induction isMark with
  | stretch text stretch => exact fields_replaceFrom_of_unmarked stretch
  | marked first mark rest stretch marked induction =>
      have absent : mark ∉ pattern := by
        intro member
        rw [unmarked mark member] at marked
        cases marked
      rw [replaceFrom_append_cons absent nonempty (Nat.zero_le _), fields_append_cons marked,
        fields_append_cons marked, List.flatMap_append, induction,
        fields_replaceFrom_of_unmarked stretch]

/-! ## Words -/

/-- A text that is one word. -/
def IsWord (text : String) : Prop :=
  text ≠ "" ∧ ∀ char ∈ text.toList, isBlank char = false

-- the characters of the text are gone through, and not all that there are
instance (text : String) : Decidable (IsWord text) :=
  @instDecidableAnd _ _ inferInstance (List.decidableBAll _ text.toList)

/-- That a pattern occurs in a text. -/
def Occurs (pattern text : String) : Prop := pattern.toList <:+: text.toList

instance (pattern text : String) : Decidable (Occurs pattern text) :=
  inferInstanceAs (Decidable (_ <:+: _))

theorem words_of_isWord {word : String} (isWord : IsWord word) : words word = [word] := by
  have nonempty : word.toList ≠ [] := by simpa using isWord.1
  simp [words, fields_of_unmarked isWord.2 nonempty]

theorem isWord_of_mem_words {word text : String} (member : word ∈ words text) : IsWord word := by
  rcases List.mem_map.mp member with ⟨field, isField, rfl⟩
  rcases mem_fields isField with ⟨nonempty, unmarked⟩
  exact ⟨by simpa using nonempty, by simpa using unmarked⟩

/-- Words with a blank between each two are the words of the text that they make. -/
theorem words_join {texts : List String} (areWords : ∀ text ∈ texts, IsWord text) :
    words (join " " texts) = texts := by
  induction texts with
  | nil => rfl
  | cons first texts induction =>
      have one := words_of_isWord (areWords first List.mem_cons_self)
      have others := induction fun text member => areWords text (List.mem_cons_of_mem _ member)
      cases texts with
      | nil => simpa [join] using one
      | cons second texts =>
          have joined : (join " " (first :: second :: texts)).toList =
              first.toList ++ ' ' :: (join " " (second :: texts)).toList := by
            simp [join, List.intercalate_cons_cons]
          have blank : isBlank ' ' = true := by decide
          rw [words, joined, fields_append_cons blank, List.map_append]
          change words first ++ words _ = _
          rw [one, others]
          rfl

theorem replaceAll_of_absent {pattern text : String} (absent : ¬ Occurs pattern text)
    (replacement : String) : replaceAll pattern replacement text = text := by
  rw [replaceAll, replaceFrom_of_absent absent, String.ofList_toList]

theorem replaceAll_self {pattern : String} (nonempty : pattern ≠ "") (replacement : String) :
    replaceAll pattern replacement pattern = replacement := by
  have nonempty : pattern.toList ≠ [] := by simpa using nonempty
  rw [replaceAll, replaceFrom_self nonempty, String.ofList_toList]

/-- A pattern that is a word is replaced word by word. -/
theorem words_replaceAll {pattern : String} (isWord : IsWord pattern) (replacement text : String) :
    words (replaceAll pattern replacement text) =
      (words text).flatMap fun word => words (replaceAll pattern replacement word) := by
  have nonempty : pattern.toList ≠ [] := by simpa using isWord.1
  simp only [words, replaceAll, String.toList_ofList, fields_replaceFrom isWord.2 nonempty text.toList,
    List.map_flatMap, List.flatMap_map]

end FlowClient.Text
