import FlowClient.Json.Parser
import FlowClient.Json.Printer

/-! Numbers and strings read back. A whole number of 64 bits and any string are
written so that the parser, whatever comes behind them, finds the same number and
the same string and goes on with what comes behind. -/

namespace FlowClient.Json

/-! ## Where a number ends -/

/-- Whether a number that stands in front of the text is over there. -/
def EndsNumber : List Char → Prop
  | [] => True
  | char :: _ => char.isDigit = false ∧ char ≠ '.' ∧ char ≠ 'e' ∧ char ≠ 'E'

theorem spanDigits_append {found rest : List Char} (areDigits : ∀ char ∈ found, char.isDigit)
    (ends : EndsNumber rest) : spanDigits (found ++ rest) = (found, rest) := by
  have none : rest.takeWhile Char.isDigit = [] ∧ rest.dropWhile Char.isDigit = rest := by
    cases rest with
    | nil => exact ⟨rfl, rfl⟩
    | cons char rest => simp [ends.1]
  rw [spanDigits, List.takeWhile_append_of_pos areDigits, List.dropWhile_append_of_pos areDigits,
    none.1, none.2, List.append_nil]

theorem fraction?_of_endsNumber {rest : List Char} (ends : EndsNumber rest) :
    fraction? rest = some ([], rest) := by
  rw [fraction?]
  rintro others rfl
  exact ends.2.1 rfl

theorem exponent?_of_endsNumber {rest : List Char} (ends : EndsNumber rest) :
    exponent? rest = some (none, rest) := by
  cases rest with
  | nil => rfl
  | cons char rest => simp [exponent?, ends.2.2]

/-! ## Whole numbers -/

theorem isDigit_of_mem_digits {value : Nat} {char : Char} (member : char ∈ digits value) :
    char.isDigit :=
  Nat.isDigit_of_mem_toDigits (by decide) (by decide) member

theorem natOfDigits_digits (value : Nat) : natOfDigits (digits value) = value :=
  Nat.ofDigitChars_toDigits (by decide) (by decide)

/-- No zero leads but that of zero itself. -/
theorem digits_of_pos {value : Nat} (positive : 0 < value) :
    ∃ first others, digits value = first :: others ∧ first ≠ '0' := by
  induction value using Nat.strongRecOn with
  | ind value shorter =>
      rw [digits]
      rcases Nat.lt_or_ge value 10 with single | several
      · exact ⟨value.digitChar, [], Nat.toDigits_of_lt_base single,
          fun zero => Nat.ne_of_gt positive (Nat.digitChar_eq_zero.mp zero)⟩
      · obtain ⟨first, others, same, notZero⟩ := shorter (value / 10) (by omega) (by omega)
        rw [Nat.toDigits_of_base_le (by decide) several, ← digits, same]
        exact ⟨first, _, rfl, notZero⟩

theorem digits_head (value : Nat) :
    ∃ first others, digits value = first :: others ∧ first.isDigit := by
  cases same : digits value with
  | nil => exact absurd same Nat.toDigits_ne_nil
  | cons first others =>
      exact ⟨first, others, rfl, isDigit_of_mem_digits (same ▸ List.mem_cons_self)⟩

theorem wholePart?_digits (value : Nat) {rest : List Char} (ends : EndsNumber rest) :
    wholePart? (digits value ++ rest) = some (digits value, rest) := by
  rcases Nat.eq_zero_or_pos value with zero | positive
  · subst zero
    rfl
  · have span : spanDigits (digits value ++ rest) = (digits value, rest) :=
      spanDigits_append (fun _ => isDigit_of_mem_digits) ends
    obtain ⟨first, others, same, notZero⟩ := digits_of_pos positive
    rw [same] at span ⊢
    rw [wholePart?, span]
    intro others zero
    exact notZero (List.cons.inj zero).1

/-! ## Ranges -/

theorem le_ofDigitChars (found : Nat) (text : List Char) :
    found ≤ Nat.ofDigitChars 10 text found := by
  induction text generalizing found with
  | nil => exact Nat.le_refl found
  | cons digit rest induction =>
      rw [Nat.ofDigitChars_cons]
      exact Nat.le_trans (by omega) (induction _)

/-- Every digit of a number that fits into 64 bits is gathered. -/
theorem gather_of_lt {found : Nat} {text : List Char}
    (fits : Nat.ofDigitChars 10 text found < UInt64.size) :
    gather found text = (Nat.ofDigitChars 10 text found, []) := by
  induction text generalizing found with
  | nil => rfl
  | cons digit rest induction =>
      rw [Nat.ofDigitChars_cons, Nat.mul_comm 10] at fits ⊢
      have longer := Nat.lt_of_le_of_lt (le_ofDigitChars _ rest) fits
      exact (if_pos longer).trans (induction fits)

theorem nearestDouble_le (value : Nat) : nearestDouble value ≤ 2 * value := by
  rcases Nat.eq_zero_or_pos value with zero | positive
  · subst zero
    decide
  · have place : 1 <<< (value.log2 - 52) ≤ value := by
      rw [Nat.one_shiftLeft]
      exact Nat.le_trans (Nat.pow_le_pow_right (by decide) (Nat.sub_le _ _))
        (Nat.log2_self_le (Nat.ne_of_gt positive))
    have kept := Nat.div_mul_le_self value (1 <<< (value.log2 - 52))
    rw [nearestDouble]
    split
    · rw [Nat.add_mul]
      omega
    · omega

theorem isWithinDoubles_of_lt {value : Nat} (fits : value < UInt64.size) :
    isWithinDoubles value 0 = true := by
  have bound := nearestDouble_le value
  have size : UInt64.size = 2 ^ 64 := rfl
  have far : 2 ^ 65 ≤ doublesEnd := by decide +kernel
  have one : nearestDouble (Nat.pow 10 (0 : Int).toNat) = 1 := by decide +kernel
  rw [isWithinDoubles, one]
  split
  · rfl
  · simp
    omega

theorem isFinite_digits {value : Nat} (fits : value < UInt64.size) :
    isFinite (digits value) [] 0 = true := by
  have whole : gather 0 (digits value) = (value, []) := by
    have same := natOfDigits_digits value
    rw [natOfDigits] at same
    rw [gather_of_lt (by rw [same]; exact fits), same]
  rw [isFinite, whole]
  exact isWithinDoubles_of_lt fits

theorem parseNumber_digits {value : Nat} {rest : List Char} (fits : value < UInt64.size)
    (ends : EndsNumber rest) :
    parseNumber (digits value ++ rest) = some (.natural value, rest) := by
  have unsigned : ∀ others, digits value ++ rest ≠ '-' :: others := by
    obtain ⟨first, others, same, digit⟩ := digits_head value
    rw [same]
    rintro _ ⟨⟩
    contradiction
  rw [parseNumber]
  · simp [wholePart?_digits value ends, fraction?_of_endsNumber ends,
      exponent?_of_endsNumber ends, isFinite_digits fits, natOfDigits_digits]
  · exact unsigned

/-! ## Strings -/

theorem hexValue?_hexDigit :
    ∀ {value : Nat}, value < 16 → hexValue? (hexDigit value) = some value := by
  decide

theorem unit?_hexDigit {code : Nat} (control : code < 32) :
    unit? '0' '0' (hexDigit (code / 16)) (hexDigit (code % 16)) = some code := by
  have zero : hexValue? '0' = some 0 := by decide
  rw [unit?, zero, hexValue?_hexDigit (by omega), hexValue?_hexDigit (by omega)]
  simp
  omega

theorem assemble_unit {code : Nat} (single : code < 0xD800) (rest : List StringPart) :
    assemble (.unit code :: rest) = (assemble rest).map (Char.ofNat code :: ·) := by
  have high : isHighSurrogate code = false := by simp [isHighSurrogate]; omega
  have low : isLowSurrogate code = false := by simp [isLowSurrogate]; omega
  cases rest with
  | nil => simp [assemble, high, low]
  | cons next others => cases next <;> simp [assemble, high, low]

/-- Whether what is written inside quotes is read as one part of a string, which
stands for the character. -/
def Spells (written : List Char) (char : Char) : Prop :=
  ∃ part, (∀ rest, scanString (written ++ rest) =
      (scanString rest).map fun (parts, rest) => (part :: parts, rest)) ∧
    ∀ parts, assemble (part :: parts) = (assemble parts).map (char :: ·)

theorem spells_mark {mark char : Char} (known : unescape? mark = some char) :
    Spells ['\\', mark] char := by
  have notUnit : mark ≠ 'u' := by
    rintro rfl
    contradiction
  refine ⟨.char char, fun rest => ?_, fun parts => by rw [assemble]⟩
  rw [List.cons_append, List.singleton_append, scanString]
  · rw [known]
    cases scanString rest <;> rfl
  · exact fun _ _ _ _ _ unit => absurd unit notUnit

theorem spells_code {char : Char} (control : char.toNat < 32) :
    Spells ['\\', 'u', '0', '0', hexDigit (char.toNat / 16), hexDigit (char.toNat % 16)] char := by
  refine ⟨.unit char.toNat, fun rest => ?_, fun parts => ?_⟩
  · simp only [List.cons_append, List.nil_append]
    rw [scanString, unit?_hexDigit control]
    cases scanString rest <;> rfl
  · rw [assemble_unit (by omega), Char.ofNat_toNat]

theorem spells_itself {char : Char} (notQuote : char ≠ '"') (notBackslash : char ≠ '\\')
    (printable : ¬char.toNat < 32) : Spells [char] char := by
  refine ⟨.char char, fun rest => ?_, fun parts => by rw [assemble]⟩
  rw [List.singleton_append, scanString]
  · rw [if_neg printable]
    cases scanString rest <;> rfl
  all_goals simp_all

theorem spells_escapeChar (char : Char) : Spells (escapeChar char) char := by
  have ofCode : ∀ {code}, char.toNat = code → char = Char.ofNat code :=
    fun same => same ▸ (Char.ofNat_toNat char).symm
  rw [escapeChar]
  split
  · rename_i quote
    exact spells_mark (by rw [quote]; rfl)
  split
  · rename_i backslash
    exact spells_mark (by rw [backslash]; rfl)
  split
  · rename_i newline
    exact spells_mark (newline ▸ rfl)
  split
  · rename_i carriageReturn
    exact spells_mark (carriageReturn ▸ rfl)
  split
  · rename_i tab
    exact spells_mark (tab ▸ rfl)
  split
  · rename_i backspace
    exact spells_mark (ofCode backspace ▸ rfl)
  split
  · rename_i formFeed
    exact spells_mark (ofCode formFeed ▸ rfl)
  split
  · rename_i control
    exact spells_code control
  · rename_i notQuote notBackslash _ _ _ _ _ printable
    exact spells_itself notQuote notBackslash printable

theorem scanString_escaped (text rest : List Char) :
    ∃ parts, scanString (text.flatMap escapeChar ++ '"' :: rest) = some (parts, rest) ∧
      assemble parts = some text := by
  induction text with
  | nil => exact ⟨[], rfl, rfl⟩
  | cons char others induction =>
      obtain ⟨part, scanned, assembled⟩ := spells_escapeChar char
      obtain ⟨parts, scannedOthers, assembledOthers⟩ := induction
      refine ⟨part :: parts, ?_, ?_⟩
      · rw [List.flatMap_cons, List.append_assoc, scanned, scannedOthers]
        rfl
      · rw [assembled, assembledOthers]
        rfl

theorem parseString_quoted (text : String) (rest : List Char) :
    parseString (text.toList.flatMap escapeChar ++ '"' :: rest) = some (some text, rest) := by
  obtain ⟨parts, scanned, assembled⟩ := scanString_escaped text.toList rest
  simp [parseString, scanned, assembled]

/-! ## No control characters -/

/-- Whether none of the characters is a control character below space. -/
def Printable (text : List Char) : Prop := ∀ char ∈ text, 32 ≤ char.toNat

@[simp] theorem printable_nil : Printable [] := by
  simp [Printable]

@[simp] theorem printable_cons {char : Char} {rest : List Char} :
    Printable (char :: rest) ↔ 32 ≤ char.toNat ∧ Printable rest := by
  simp [Printable]

@[simp] theorem printable_append {left right : List Char} :
    Printable (left ++ right) ↔ Printable left ∧ Printable right := by
  simp [Printable, or_imp, forall_and]

theorem printable_digits (value : Nat) : Printable (digits value) := by
  intro char member
  have digit := isDigit_of_mem_digits member
  simp only [Char.isDigit, Bool.and_eq_true, decide_eq_true_eq] at digit
  exact Nat.le_trans (by decide) digit.1

theorem printable_hexDigit : ∀ {value : Nat}, value < 16 → 32 ≤ (hexDigit value).toNat := by
  decide

theorem printable_escapeChar (char : Char) : Printable (escapeChar char) := by
  unfold escapeChar
  iterate 7
    split
    · simp
  split
  · rename_i control
    have high : 32 ≤ (hexDigit (char.toNat / 16)).toNat := printable_hexDigit (by omega)
    have low : 32 ≤ (hexDigit (char.toNat % 16)).toNat := printable_hexDigit (by omega)
    simp [high, low]
  · rename_i printable
    simpa using Nat.not_lt.mp printable

theorem printable_quote (text : String) : Printable (quote text) := by
  have escaped : Printable (text.toList.flatMap escapeChar) := by
    intro written member
    obtain ⟨char, -, inside⟩ := List.mem_flatMap.mp member
    exact printable_escapeChar char written inside
  simp [quote, escaped]

end FlowClient.Json
