import FlowClient.Json
import FlowClient.Table

/-! Reading typed values out of JSON.

A reader enters a limited number of arrays and objects, one inside the other.
What it does not read it passes over, however deep that is. A record may be
written as an object, whose unknown fields are passed over, or as an array that
gives its fields in order and may end early. -/

namespace FlowClient.Json

/-- A way to read a value, given how many more arrays and objects may be
entered. -/
abbrev Reader (α : Type) := Nat → Json → Option α

namespace Reader

/-! ## Single values -/

def text : Reader String
  | _, .string value => some value
  | _, _ => none

def flag : Reader Bool
  | _, .bool value => some value
  | _, _ => none

def word : Reader UInt64
  | _, .natural value => if value < UInt64.size then some (UInt64.ofNat value) else none
  | _, _ => none

def optional (reader : Reader α) : Reader (Option α)
  | _, .null => some none
  | levels, json => (reader levels json).map some

/-- One of a list of named values. The name stands by itself or as the only
field of an object whose value says nothing. -/
def oneOf (values : List α) (name : α → String) (saysNothing : Json → Bool) : Reader α
  | _, .string text => values.find? (fun value => name value == text)
  | _ + 1, .object [(text, content)] =>
      if saysNothing content then values.find? (fun value => name value == text) else none
  | _, _ => none

def isNull : Json → Bool
  | .null => true
  | _ => false

/-- One of a list of named values, for which `null` says nothing. -/
def choice (values : List α) (name : α → String) : Reader α := oneOf values name isNull

/-! ## Collections -/

def list (reader : Reader α) : Reader (List α)
  | levels + 1, .array items => items.mapM (reader levels)
  | _, _ => none

/-- Texts under names, where the last of a name counts. -/
def table : Reader (Table String)
  | levels + 1, .object fields =>
      (fields.mapM fun field => (text levels field.2).map (field.1, ·)).map Table.ofList
  | _, _ => none

/-- A set of names, which may be repeated. -/
def nameSet : Reader NameSet := fun levels json =>
  (list text levels json).map NameSet.ofNames

def pair (first : Reader α) (second : Reader β) : Reader (α × β)
  | levels + 1, .array [left, right] => do
      let left ← first levels left
      let right ← second levels right
      some (left, right)
  | _, _ => none

/-! ## Records -/

abbrev Fields := String → Option Json

def occurrences (name : String) (fields : List (String × Json)) : Nat :=
  (fields.filter (·.1 == name)).length

/-- The fields of a record with the given names. No known field may be given
twice, and a `strict` record has no others. -/
def fieldsOf (names : List String) (strict : Bool) : Json → Option Fields
  | .object fields =>
      if names.any (1 < occurrences · fields) then none
      else if strict && fields.any (!names.contains ·.1) then none
      else some (field? · fields)
  | .array items =>
      if names.length < items.length then none
      else some (field? · (names.zip items))
  | _ => none

def record (names : List String) (build : Nat → Fields → Option α) : Reader α
  | levels + 1, json => (fieldsOf names false json).bind (build levels)
  | 0, _ => none

def strictRecord (names : List String) (build : Nat → Fields → Option α) : Reader α
  | levels + 1, json => (fieldsOf names true json).bind (build levels)
  | 0, _ => none

/-- A field that must be there. -/
def required (fields : Fields) (levels : Nat) (name : String) (reader : Reader α) : Option α :=
  (fields name).bind (reader levels)

def defaulted (fields : Fields) (levels : Nat) (name : String) (absent : α)
    (reader : Reader α) : Option α :=
  match fields name with
  | none => some absent
  | some json => reader levels json

/-! ## Tagged variants -/

/-- The tag of a variant and the rest of it. The tag is a field given once, or
the first item of an array. -/
def splitTag (tag : String) : Json → Option (String × Json)
  | .object fields =>
      if occurrences tag fields = 1 then
        match field? tag fields with
        | some (.string name) => some (name, .object (fields.filter (·.1 != tag)))
        | _ => none
      else none
  | .array (.string name :: items) => some (name, .array items)
  | _ => none

/-- A variant with no fields. An object may have fields that mean nothing; an
array has no room for them. -/
def unit (value : α) : Reader α
  | _, .object _ => some value
  | _, .array [] => some value
  | _, _ => none

/-- A value whose tag says how the rest is to be read. The whole of it is read
before the tag is known, so none of it may be too deep or unreadable. -/
def tagged (tag : String) (variant : String → Option (Reader α)) : Reader α :=
  fun levels json =>
    if json.depth ≤ levels && json.isReadable then
      match splitTag tag json with
      | none => none
      | some (name, rest) => (variant name).bind fun reader => reader levels rest
    else none

end Reader

end FlowClient.Json
