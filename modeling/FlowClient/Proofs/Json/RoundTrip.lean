import FlowClient.Proofs.Json.Scalars

/-! JSON text reads back. A value whose numbers are whole and fit into 64 bits is
written as text without control characters, and the parser makes of that text the
value it was written for. -/

namespace FlowClient.Json

/-! ## Plain values -/

mutual
/-- Whether the value can be told from its text: no part of it is `unreadable`,
and every number is whole and fits into 64 bits. -/
def Plain : Json → Prop
  | natural value => value < UInt64.size
  | array items => ItemsPlain items
  | object fields => FieldsPlain fields
  | decimal _ => False
  | unreadable => False
  | _ => True

def ItemsPlain : List Json → Prop
  | [] => True
  | item :: rest => item.Plain ∧ ItemsPlain rest

def FieldsPlain : List (String × Json) → Prop
  | [] => True
  | (_, value) :: rest => value.Plain ∧ FieldsPlain rest
end

mutual
theorem isReadable_of_plain : ∀ {json : Json}, json.Plain → json.isReadable = true
  | null, _ => rfl
  | bool _, _ => rfl
  | natural _, _ => rfl
  | decimal _, plain => plain.elim
  | string _, _ => rfl
  | array _, plain => areItemsReadable_of_plain plain
  | object _, plain => areFieldsReadable_of_plain plain
  | unreadable, plain => plain.elim

theorem areItemsReadable_of_plain : ∀ {items : List Json},
    ItemsPlain items → areItemsReadable items = true
  | [], _ => rfl
  | _ :: _, plain => by
      rw [areItemsReadable, isReadable_of_plain plain.1, areItemsReadable_of_plain plain.2]
      rfl

theorem areFieldsReadable_of_plain : ∀ {fields : List (String × Json)},
    FieldsPlain fields → areFieldsReadable fields = true
  | [], _ => rfl
  | _ :: _, plain => by
      rw [areFieldsReadable, isReadable_of_plain plain.1, areFieldsReadable_of_plain plain.2]
      rfl
end

/-! ## What text begins with -/

theorem not_isSpace_of_isDigit {char : Char} (digit : char.isDigit) : isSpace char = false := by
  rw [Bool.eq_false_iff]
  intro space
  simp only [isSpace, Bool.or_eq_true, decide_eq_true_eq] at space
  rcases space with ((same | same) | same) | same <;> subst same <;> contradiction

theorem print_head : ∀ {json : Json}, json.Plain →
    ∃ first rest, json.print = first :: rest ∧ isSpace first = false ∧ first ≠ ']'
  | null, _ => ⟨'n', _, rfl, by decide, by decide⟩
  | bool true, _ => ⟨'t', _, rfl, by decide, by decide⟩
  | bool false, _ => ⟨'f', _, rfl, by decide, by decide⟩
  | natural value, _ => by
      obtain ⟨first, others, same, digit⟩ := digits_head value
      refine ⟨first, others, same, not_isSpace_of_isDigit digit, ?_⟩
      rintro rfl
      contradiction
  | string _, _ => ⟨'"', _, rfl, by decide, by decide⟩
  | array _, _ => ⟨'[', _, rfl, by decide, by decide⟩
  | object _, _ => ⟨'\x7b', _, rfl, by decide, by decide⟩

theorem skipSpace_cons {first : Char} (solid : isSpace first = false) (rest : List Char) :
    skipSpace (first :: rest) = first :: rest := by
  simp [skipSpace, solid]

theorem printItems_singleton (item : Json) : printItems [item] = item.print :=
  List.append_nil _

theorem printItems_cons (item next : Json) (rest : List Json) :
    printItems (item :: next :: rest) = item.print ++ ',' :: printItems (next :: rest) := rfl

theorem printFields_singleton (name : String) (value : Json) :
    printFields [(name, value)] = quote name ++ ':' :: value.print := by
  rw [printFields, printRestFields, List.append_nil]

theorem printFields_cons (name : String) (value : Json) (next : String × Json)
    (rest : List (String × Json)) :
    printFields ((name, value) :: next :: rest) =
      quote name ++ ':' :: (value.print ++ ',' :: printFields (next :: rest)) := rfl

/-! ## Reading back -/

theorem parseValue_natural {value fuel : Nat} {rest : List Char} (fits : value < UInt64.size)
    (ends : EndsNumber rest) :
    parseValue (fuel + 1) (digits value ++ rest) = some (.natural value, rest) := by
  have number := parseNumber_digits fits ends
  obtain ⟨first, others, same, digit⟩ := digits_head value
  rw [same, List.cons_append] at number ⊢
  rw [parseValue, skipSpace_cons (not_isSpace_of_isDigit digit)]
  -- No other kind of value begins with a digit.
  split
  case h_7 => exact number
  all_goals
    rename_i found
    obtain ⟨rfl, -⟩ := List.cons.inj found
    contradiction

theorem parseValue_string {fuel : Nat} (text : String) (rest : List Char) :
    parseValue (fuel + 1) (quote text ++ rest) = some (.string text, rest) := by
  have scanned := parseString_quoted text rest
  simp [parseValue, quote, skipSpace_cons, isSpace, scanned]

theorem parseValue_array {fuel : Nat} {first : Char} {text rest : List Char} {items : List Json}
    (solid : isSpace first = false) (notEnd : first ≠ ']')
    (read : parseItems fuel (first :: text) = some (items, rest)) :
    parseValue (fuel + 1) ('[' :: first :: text) = some (.array items, rest) := by
  rw [parseValue, skipSpace_cons (by decide)]
  simp only [skipSpace_cons solid]
  split
  · rename_i found
    exact absurd (List.cons.inj found).1 notEnd
  · rw [read]
    rfl

theorem parseItems_last {fuel : Nat} {text rest : List Char} {item : Json}
    (read : parseValue fuel text = some (item, ']' :: rest)) :
    parseItems (fuel + 1) text = some ([item], rest) := by
  rw [parseItems, read]
  rfl

theorem parseItems_more {fuel : Nat} {text others rest : List Char} {item : Json}
    {items : List Json} (read : parseValue fuel text = some (item, ',' :: others))
    (readOthers : parseItems fuel others = some (items, rest)) :
    parseItems (fuel + 1) text = some (item :: items, rest) := by
  rw [parseItems, read]
  simp [skipSpace_cons, isSpace, readOthers]

theorem mapM_named (fields : List (String × Json)) :
    (fields.map fun (name, value) => (some name, value)).mapM
      (fun ((name : Option String), (value : Json)) => name.map (·, value)) = some fields := by
  induction fields with
  | nil => rfl
  | cons field others induction => simp [induction]

theorem objectOf_named (fields : List (String × Json)) :
    objectOf (fields.map fun (name, value) => (some name, value)) = .object fields := by
  rw [objectOf, mapM_named]

theorem parseValue_object {fuel : Nat} {name : String} {text rest : List Char}
    {fields : List (String × Json)}
    (read : parseFields fuel (quote name ++ text) =
      some (fields.map fun (name, value) => (some name, value), rest)) :
    parseValue (fuel + 1) ('\x7b' :: (quote name ++ text)) = some (.object fields, rest) := by
  rw [quote, List.cons_append] at read ⊢
  rw [parseValue, skipSpace_cons (by decide)]
  simp [skipSpace_cons, isSpace, -List.append_assoc, read, objectOf_named]

theorem parseFields_last {fuel : Nat} {name : String} {text rest : List Char} {value : Json}
    (read : parseValue fuel text = some (value, '\x7d' :: rest)) :
    parseFields (fuel + 1) (quote name ++ ':' :: text) = some ([(some name, value)], rest) := by
  have key := parseString_quoted name (':' :: text)
  simp [parseFields, quote, skipSpace_cons, isSpace, key, read]

theorem parseFields_more {fuel : Nat} {name : String} {text others rest : List Char}
    {value : Json} {fields : List (Option String × Json)}
    (read : parseValue fuel text = some (value, ',' :: others))
    (readOthers : parseFields fuel others = some (fields, rest)) :
    parseFields (fuel + 1) (quote name ++ ':' :: text) =
      some ((some name, value) :: fields, rest) := by
  have key := parseString_quoted name (':' :: text)
  simp [parseFields, quote, skipSpace_cons, isSpace, key, read, readOthers]

mutual
/-- A printed value is read, whatever comes after it. Each level of the value has
brackets of its own, so the length of the text is fuel enough. -/
theorem parseValue_print : ∀ {json : Json} (fuel : Nat) (rest : List Char), json.Plain →
    json.print.length ≤ fuel → EndsNumber rest →
    parseValue fuel (json.print ++ rest) = some (json, rest)
  | _, 0, _, plain, enough, _ => by
      obtain ⟨first, others, same, -⟩ := print_head plain
      rw [same] at enough
      contradiction
  | null, _ + 1, _, _, _, _ => rfl
  | bool true, _ + 1, _, _, _, _ => rfl
  | bool false, _ + 1, _, _, _, _ => rfl
  | natural _, _ + 1, _, fits, _, ends => parseValue_natural fits ends
  | string text, _ + 1, rest, _, _, _ => parseValue_string text rest
  | array [], _ + 1, _, _, _, _ => rfl
  | array (item :: items), fuel + 1, rest, plain, enough, _ => by
      have read := parseItems_print fuel rest plain (by
        simp only [print, List.length_cons, List.length_append] at enough
        omega)
      obtain ⟨first, others, same, solid, notEnd⟩ := print_head plain.1
      simp only [print, printItems, same, List.cons_append, List.append_assoc, List.nil_append]
        at read ⊢
      exact parseValue_array solid notEnd read
  | object [], _ + 1, _, _, _, _ => rfl
  | object ((name, value) :: fields), fuel + 1, rest, plain, enough, _ => by
      have read := parseFields_print name fuel rest plain (by
        simp only [print, List.length_cons, List.length_append] at enough
        omega)
      simp only [print, printFields, List.cons_append, List.append_assoc, List.nil_append]
        at read ⊢
      exact parseValue_object read

theorem parseItems_print : ∀ {item : Json} {items : List Json} (fuel : Nat) (rest : List Char),
    ItemsPlain (item :: items) → (printItems (item :: items)).length < fuel →
    parseItems fuel (printItems (item :: items) ++ ']' :: rest) = some (item :: items, rest)
  | item, [], fuel + 1, rest, plain, enough => by
      rw [printItems_singleton] at enough ⊢
      exact parseItems_last
        (parseValue_print fuel (']' :: rest) plain.1 (by omega) (by simp [EndsNumber]))
  | item, next :: items, fuel + 1, rest, plain, enough => by
      rw [printItems_cons, List.length_append, List.length_cons] at enough
      have read := parseValue_print fuel (',' :: (printItems (next :: items) ++ ']' :: rest))
        plain.1 (by omega) (by simp [EndsNumber])
      have readOthers := parseItems_print fuel rest plain.2 (by omega)
      rw [printItems_cons, List.append_assoc, List.cons_append]
      exact parseItems_more read readOthers

theorem parseFields_print : ∀ (name : String) {value : Json} {fields : List (String × Json)}
    (fuel : Nat) (rest : List Char), FieldsPlain ((name, value) :: fields) →
    (printFields ((name, value) :: fields)).length < fuel →
    parseFields fuel (printFields ((name, value) :: fields) ++ '\x7d' :: rest) =
      some (((name, value) :: fields).map fun (name, value) => (some name, value), rest)
  | name, value, [], fuel + 1, rest, plain, enough => by
      rw [printFields_singleton] at enough ⊢
      rw [List.length_append, List.length_cons] at enough
      rw [List.append_assoc, List.cons_append]
      exact parseFields_last
        (parseValue_print fuel ('\x7d' :: rest) plain.1 (by omega) (by simp [EndsNumber]))
  | name, value, (nextName, next) :: fields, fuel + 1, rest, plain, enough => by
      rw [printFields_cons, List.length_append, List.length_cons, List.length_append,
        List.length_cons] at enough
      have read := parseValue_print fuel
        (',' :: (printFields ((nextName, next) :: fields) ++ '\x7d' :: rest))
        plain.1 (by omega) (by simp [EndsNumber])
      have readOthers := parseFields_print nextName fuel rest plain.2 (by omega)
      rw [printFields_cons]
      simp only [List.append_assoc, List.cons_append]
      exact parseFields_more read readOthers
end

theorem parse?_toText {json : Json} (plain : json.Plain) : parse? json.toText = some json := by
  have read := parseValue_print (2 * json.print.length + 2) [] plain (by omega) trivial
  rw [List.append_nil] at read
  rw [parse?, toText]
  simp [read, skipSpace]

/-! ## No control characters -/

mutual
theorem printable_print : ∀ {json : Json}, json.Plain → Printable json.print
  | null, _ => by simp [print]
  | bool true, _ => by simp [print]
  | bool false, _ => by simp [print]
  | natural value, _ => printable_digits value
  | string text, _ => printable_quote text
  | array items, plain => by simp [print, printable_printItems plain]
  | object fields, plain => by simp [print, printable_printFields plain]

theorem printable_printItems : ∀ {items : List Json}, ItemsPlain items →
    Printable (printItems items)
  | [], _ => printable_nil
  | [item], plain => printItems_singleton item ▸ printable_print plain.1
  | item :: next :: rest, plain => by
      rw [printItems_cons]
      simp [printable_print plain.1, printable_printItems plain.2]

theorem printable_printFields : ∀ {fields : List (String × Json)}, FieldsPlain fields →
    Printable (printFields fields)
  | [], _ => printable_nil
  | [(name, value)], plain => by
      rw [printFields_singleton]
      simp [printable_quote, printable_print plain.1]
  | (name, value) :: next :: rest, plain => by
      rw [printFields_cons]
      simp [printable_quote, printable_print plain.1, printable_printFields plain.2]
end

end FlowClient.Json
