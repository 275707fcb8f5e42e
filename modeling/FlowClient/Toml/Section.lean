import FlowClient.Toml

/-! Documents under construction. A table of a document can be opened by a header,
be implied by the header of a table within it, or grow out of dotted keys. How
it came about decides what may still be added to it. -/

namespace FlowClient.Toml

inductive Origin where
  | header
  /-- A table within it has a header. -/
  | implied
  | dotted
deriving DecidableEq, Repr

inductive Item where
  /-- A value as it stands; nothing can be added to it. -/
  | value (value : Toml)
  | table (origin : Origin) (entries : List (String × Item))
  /-- Tables that share one name, each with its own header; the last is open. -/
  | tables (closed : List (List (String × Item))) (last : List (String × Item))

structure Section where
  origin : Origin := .header
  entries : List (String × Item) := []

namespace Section

def find? (owner : Section) (name : String) : Option Item :=
  (owner.entries.find? (·.1 == name)).map (·.2)

/-- Put an item under a name, in the place of what stood there. -/
def put (owner : Section) (name : String) (item : Item) : Section :=
  { owner with
    entries :=
      if owner.entries.any (·.1 == name) then
        owner.entries.map fun entry => if entry.1 == name then (name, item) else entry
      else owner.entries ++ [(name, item)] }

/-- Change the table that a path leads to. Tables that are missing are made; a
path of dotted keys does not lead into a table that has a header. -/
def change? (dotted : Bool) (change : Section → Option Section) :
    List String → Section → Option Section
  | [], owner => change owner
  | name :: rest, owner =>
      match owner.find? name with
      | none => do
          let origin := if dotted then Origin.dotted else .implied
          let inner ← change? dotted change rest { origin }
          some (owner.put name (.table inner.origin inner.entries))
      | some (.table origin entries) =>
          if dotted && origin == .header then none
          else do
            let inner ← change? dotted change rest { origin, entries }
            some (owner.put name (.table inner.origin inner.entries))
      | some (.tables closed last) => do
          let inner ← change? dotted change rest { entries := last }
          some (owner.put name (.tables closed inner.entries))
      | some (.value _) => none

def set? (path : List String) (name : String) (value : Toml) (owner : Section) :
    Option Section :=
  change? true (fun inner =>
    if (inner.origin == .dotted) == path.isEmpty || (inner.find? name).isSome then none
    else some (inner.put name (.value value))) path owner

/-- Open the table that a header names. It must be new, or implied until now. -/
def openTable? (path : List String) (name : String) (root : Section) : Option Section :=
  change? false (fun parent =>
    match parent.find? name with
    | none => some (parent.put name (.table .header []))
    | some (.table .implied entries) => some (parent.put name (.table .header entries))
    | _ => none) path root

/-- Open one more of the tables that share a name. -/
def openElement? (path : List String) (name : String) (root : Section) : Option Section :=
  change? false (fun parent =>
    match parent.find? name with
    | none => some (parent.put name (.tables [] []))
    | some (.tables closed last) => some (parent.put name (.tables (closed ++ [last]) []))
    | _ => none) path root

end Section

mutual
def Item.toToml : Item → Toml
  | .value value => value
  | .table _ entries => .table (entriesToToml entries)
  | .tables closed last => .array (elementsToToml closed ++ [.table (entriesToToml last)])

def entriesToToml : List (String × Item) → List (String × Toml)
  | [] => []
  | (name, item) :: rest => (name, item.toToml) :: entriesToToml rest

def elementsToToml : List (List (String × Item)) → List Toml
  | [] => []
  | entries :: rest => .table (entriesToToml entries) :: elementsToToml rest
end

def Section.toToml (owner : Section) : Toml := .table (entriesToToml owner.entries)

end FlowClient.Toml
