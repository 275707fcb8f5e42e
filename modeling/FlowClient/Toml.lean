import FlowClient.Table

/-! TOML values, and reading typed values out of them. -/

namespace FlowClient

/-- A TOML value. The entries of a table have different names.

`unreadable` stands for a value that has the form of a whole number and can be passed
over, but that no reader takes. -/
inductive Toml where
  | string (text : String)
  | integer (value : Int)
  | float (literal : String)
  | boolean (value : Bool)
  /-- A date, a time or both, in its usual writing. -/
  | moment (text : String)
  | array (items : List Toml)
  | table (entries : List (String × Toml))
  | unreadable

namespace Toml

instance : Inhabited Toml := ⟨table []⟩

def valueOf? (name : String) : List (String × Toml) → Option Toml
  | [] => none
  | (head, value) :: rest => if head = name then some value else valueOf? name rest

/-! ## Single values -/

abbrev Reader (α : Type) := Toml → Option α

namespace Reader

def text : Reader String
  | .string text => some text
  | _ => none

def flag : Reader Bool
  | .boolean value => some value
  | _ => none

def word : Reader Nat
  | .integer value => if 0 ≤ value && value.toNat < UInt64.size then some value.toNat else none
  | _ => none

/-! ## Collections -/

def list (reader : Reader α) : Reader (List α)
  | .array items => items.mapM reader
  | _ => none

/-- The name of the only entry of a moment that is taken for a table. -/
def momentEntry : String := "$__toml_private_datetime"

def table (reader : Reader α) : Reader (Table α)
  | .table entries =>
      (entries.mapM fun entry => (reader entry.2).map (entry.1, ·)).map Table.ofList
  | .moment text => (reader (.string text)).map fun value => Table.ofList [(momentEntry, value)]
  | _ => none

/-! ## Records -/

abbrev Fields := String → Option Toml

/-- A record with the named fields and no others. It may also be written as an
array that gives the fields in order; what stands behind them does not count. -/
def record (names : List String) (build : Fields → Option α) : Reader α
  | .table entries =>
      if entries.any (!names.contains ·.1) then none else build (valueOf? · entries)
  | .array items => build (valueOf? · (names.zip items))
  | _ => none

def required (fields : Fields) (name : String) (reader : Reader α) : Option α :=
  (fields name).bind reader

def defaulted (fields : Fields) (name : String) (absent : α) (reader : Reader α) : Option α :=
  match fields name with
  | none => some absent
  | some value => reader value

def optional (fields : Fields) (name : String) (reader : Reader α) : Option (Option α) :=
  defaulted fields name none fun value => (reader value).map some

end Reader

end Toml

end FlowClient
