import FlowClient.Proofs.Json.RoundTrip
import FlowClient.Proofs.Tables
import FlowClient.Json.Reader
import FlowClient.Wire.Encoding

/-! Readers take back what was written. For each kind of value that messages are
made of, the reader finds in its JSON the value itself, as long as the JSON is not
nested deeper than the reader goes. -/

namespace FlowClient

namespace Json

/-! ## Single values -/

/-- Values are written as JSON that can be told from its text, and the reader
gives each of them back if it may go as deep as its JSON is nested. -/
structure Faithful (encode : α → Json) (reader : Reader α) : Prop where
  plain : ∀ value, (encode value).Plain
  reads : ∀ {value levels}, (encode value).depth ≤ levels →
    reader levels (encode value) = some value

@[simp] theorem text_string (levels : Nat) (text : String) :
    Reader.text levels (.string text) = some text := rfl

@[simp] theorem flag_bool (levels : Nat) (flag : Bool) :
    Reader.flag levels (.bool flag) = some flag := rfl

@[simp] theorem word_ofWord (levels : Nat) (word : UInt64) :
    Reader.word levels (ofWord word) = some word := by
  simp [ofWord, Reader.word, word.toNat_lt_size]

theorem faithful_text : Faithful string Reader.text where
  plain _ := trivial
  reads _ := rfl

theorem faithful_flag : Faithful bool Reader.flag where
  plain _ := trivial
  reads _ := rfl

theorem Faithful.optional {encode : α → Json} {reader : Reader α}
    (faithful : Faithful encode reader) (present : ∀ value, encode value ≠ null) :
    Faithful (ofOption encode) (.optional reader) where
  plain
    | none => trivial
    | some value => faithful.plain value
  reads {value levels} enough := by
    cases value with
    | none => rfl
    | some value =>
        rw [ofOption, Reader.optional, faithful.reads enough]
        · rfl
        · exact present value

theorem oneOf_string {values : List α} {name : α → String} {saysNothing : Json → Bool}
    {text : String} {value : α} (levels : Nat)
    (found : values.find? (fun value => name value == text) = some value) :
    Reader.oneOf values name saysNothing levels (.string text) = some value := by
  rw [Reader.oneOf, found]

theorem faithful_choice {values : List α} {name : α → String}
    (found : ∀ value, values.find? (fun other => name other == name value) = some value) :
    Faithful (fun value => string (name value)) (.choice values name) where
  plain _ := trivial
  reads {value levels} _ := oneOf_string levels (found value)

/-! ## Collections -/

theorem itemsPlain_map {encode : α → Json} (plain : ∀ value, (encode value).Plain)
    (values : List α) : ItemsPlain (values.map encode) := by
  induction values with
  | nil => trivial
  | cons value rest induction => exact ⟨plain value, induction⟩

theorem Faithful.mapM_reads {encode : α → Json} {reader : Reader α}
    (faithful : Faithful encode reader) {values : List α} {levels : Nat}
    (enough : depthOfItems (values.map encode) ≤ levels) :
    (values.map encode).mapM (reader levels) = some values := by
  induction values with
  | nil => rfl
  | cons value rest induction =>
      rw [List.map_cons, depthOfItems, Nat.max_le] at enough
      simp [faithful.reads enough.1, induction enough.2]

theorem Faithful.list {encode : α → Json} {reader : Reader α}
    (faithful : Faithful encode reader) : Faithful (ofList encode) (.list reader) where
  plain := itemsPlain_map faithful.plain
  reads {values levels} enough := by
    cases levels with
    | zero => contradiction
    | succ levels => exact faithful.mapM_reads (Nat.le_of_succ_le_succ enough)

theorem faithful_texts : Faithful ofTexts (.list .text) := faithful_text.list

theorem Faithful.pair {encodeFirst : α → Json} {encodeSecond : β → Json} {first : Reader α}
    {second : Reader β} (faithfulFirst : Faithful encodeFirst first)
    (faithfulSecond : Faithful encodeSecond second) :
    Faithful (fun value => array [encodeFirst value.1, encodeSecond value.2])
      (.pair first second) where
  plain value := ⟨faithfulFirst.plain value.1, faithfulSecond.plain value.2, trivial⟩
  reads {value levels} enough := by
    cases levels with
    | zero => contradiction
    | succ levels =>
        simp only [depth, depthOfItems, Nat.add_le_add_iff_right, Nat.max_le] at enough
        simp [Reader.pair, faithfulFirst.reads enough.1, faithfulSecond.reads enough.2.1]

theorem fieldsPlain_texts (entries : List (String × String)) :
    FieldsPlain (entries.map fun entry => (entry.1, string entry.2)) := by
  induction entries with
  | nil => trivial
  | cons entry rest induction => exact ⟨trivial, induction⟩

theorem mapM_texts (entries : List (String × String)) (levels : Nat) :
    (entries.map fun entry => (entry.1, string entry.2)).mapM
      (fun field => (Reader.text levels field.2).map (field.1, ·)) = some entries := by
  induction entries with
  | nil => rfl
  | cons entry rest induction =>
      rw [List.map_cons, List.mapM_cons, induction]
      rfl

theorem faithful_table : Faithful ofTable .table where
  plain table := fieldsPlain_texts table.entries
  reads {table levels} enough := by
    cases levels with
    | zero => contradiction
    | succ levels =>
        rw [ofTable, Reader.table, mapM_texts, Option.map_some, Table.ofList_entries]

/-! ## Records -/

theorem occurrences_le_one {fields : List (String × Json)} (distinct : (fields.map (·.1)).Nodup)
    (name : String) : Reader.occurrences name fields ≤ 1 := by
  have count := List.nodup_iff_count.mp distinct name
  rwa [List.count, List.countP_map, List.countP_eq_length_filter] at count

theorem fieldsOf_object {fields : List (String × Json)} {names : List String}
    (keys : fields.map (·.1) = names) (distinct : names.Nodup) :
    Reader.fieldsOf names false (.object fields) = some (field? · fields) := by
  have once : names.any (1 < Reader.occurrences · fields) = false := by
    simp [occurrences_le_one (keys ▸ distinct)]
  simp [Reader.fieldsOf, once]

/-- A record is what is built of its fields. -/
theorem record_object {fields : List (String × Json)} {names : List String}
    {build : Nat → Reader.Fields → Option α} {value : α} {levels : Nat}
    (keys : fields.map (·.1) = names) (distinct : names.Nodup)
    (enough : (object fields).depth ≤ levels)
    (built : ∀ levels, depthOfFields fields ≤ levels →
      build levels (field? · fields) = some value) :
    Reader.record names build levels (.object fields) = some value := by
  cases levels with
  | zero => contradiction
  | succ levels =>
      rw [Reader.record, fieldsOf_object keys distinct, Option.bind_some]
      exact built levels (Nat.le_of_succ_le_succ enough)

/-! ## Tagged variants -/

theorem splitTag_object {fields : List (String × Json)} {tag : String} (name : String)
    (absent : ∀ field ∈ fields, field.1 ≠ tag) :
    Reader.splitTag tag (.object ((tag, .string name) :: fields)) =
      some (name, .object fields) := by
  have none : fields.filter (·.1 == tag) = [] := by simpa using absent
  have all : fields.filter (·.1 != tag) = fields := by simpa using absent
  simp [Reader.splitTag, Reader.occurrences, none, all]

/-- A tagged value is what the variant of its tag makes of the other fields. -/
theorem tagged_object {fields : List (String × Json)} {tag name : String}
    {variant : String → Option (Reader α)} {reader : Reader α} {value : α} {levels : Nat}
    (absent : ∀ field ∈ fields, field.1 ≠ tag) (plain : FieldsPlain fields)
    (enough : (object ((tag, .string name) :: fields)).depth ≤ levels)
    (known : variant name = some reader)
    (read : ∀ {levels}, (object fields).depth ≤ levels →
      reader levels (.object fields) = some value) :
    Reader.tagged tag variant levels (.object ((tag, .string name) :: fields)) = some value := by
  have readable : (object ((tag, .string name) :: fields)).isReadable = true :=
    isReadable_of_plain ⟨trivial, plain⟩
  have less : (object fields).depth ≤ levels := by
    simpa [depth, depthOfFields] using enough
  simp [Reader.tagged, enough, readable, splitTag_object name absent, known, read less]

end Json

end FlowClient
