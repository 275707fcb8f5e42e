/-! JSON values. Whole numbers are kept as numbers because the wire protocol
counts with them; any other number is kept as it was written. -/

namespace FlowClient

/-- A JSON value.

`unreadable` stands for a value that is well formed and can be passed over, but
that no reader takes: a string that names half of a surrogate pair, an object
with such a key, or a number beyond the range of doubles. -/
inductive Json where
  | null
  | bool (value : Bool)
  | natural (value : Nat)
  | decimal (literal : String)
  | string (text : String)
  | array (items : List Json)
  | object (fields : List (String × Json))
  | unreadable
deriving BEq, Repr, Inhabited

namespace Json

/-! ## Nesting -/

mutual
/-- How many arrays and objects stand around the innermost value. -/
def depth : Json → Nat
  | array items => depthOfItems items + 1
  | object fields => depthOfFields fields + 1
  | _ => 0

def depthOfItems : List Json → Nat
  | [] => 0
  | item :: rest => max item.depth (depthOfItems rest)

def depthOfFields : List (String × Json) → Nat
  | [] => 0
  | (_, value) :: rest => max value.depth (depthOfFields rest)
end

mutual
/-- Whether no part of the value is `unreadable`. -/
def isReadable : Json → Bool
  | array items => areItemsReadable items
  | object fields => areFieldsReadable fields
  | unreadable => false
  | _ => true

def areItemsReadable : List Json → Bool
  | [] => true
  | item :: rest => item.isReadable && areItemsReadable rest

def areFieldsReadable : List (String × Json) → Bool
  | [] => true
  | (_, value) :: rest => value.isReadable && areFieldsReadable rest
end

/-! ## Building -/

def ofOption (encode : α → Json) : Option α → Json
  | none => null
  | some value => encode value

def ofList (encode : α → Json) (values : List α) : Json := array (values.map encode)

def ofTexts (texts : List String) : Json := ofList string texts

end Json

/-! ## Looking up -/

namespace Json

def field? (name : String) : List (String × Json) → Option Json
  | [] => none
  | (head, value) :: rest => if head = name then some value else field? name rest

def get? (json : Json) (name : String) : Option Json :=
  match json with
  | object fields => field? name fields
  | _ => none

@[simp] theorem field?_head (name : String) (value : Json) (rest : List (String × Json)) :
    field? name ((name, value) :: rest) = some value := by
  simp [field?]

end Json

end FlowClient
