import FlowClient.Table

/-! Which suites a session keeps in its mirror. -/

namespace FlowClient

/-- The user's selection of suites. A filter that is not enabled selects all. -/
structure SuiteFilter where
  enabled : Bool := false
  /-- Add suites to the selection when the server first lists them. -/
  autoAddNew : Bool := false
  suites : NameSet := .empty
  loaded : List String := []
deriving DecidableEq

/-- Which of the user's settings an update changed. -/
structure FilterChange where
  enabled : Bool
  autoAdd : Bool
  suites : Bool
deriving DecidableEq

namespace FilterChange

def any (change : FilterChange) : Bool := change.enabled || change.autoAdd || change.suites

/-- Nothing but the automatic addition changed, which a server can be told
without loading everything anew. -/
def isOnlyAutoAdd (change : FilterChange) : Bool :=
  change.autoAdd && !change.enabled && !change.suites

end FilterChange

namespace SuiteFilter

/-- The enabled filter that selects exactly the given suites. -/
def selecting (names : List String) : SuiteFilter :=
  { enabled := true, suites := .ofNames names }

def accepts (filter : SuiteFilter) (suite : String) : Bool :=
  !filter.enabled || filter.suites.contains suite

/-- The suites to register with the server, where none means all. -/
def registered (filter : SuiteFilter) : List String :=
  if filter.enabled then filter.suites.names else []

/-- How the settings of two filters differ. -/
def changeTo (filter other : SuiteFilter) : FilterChange where
  enabled := filter.enabled != other.enabled
  autoAdd := filter.autoAddNew != other.autoAddNew
  suites := filter.suites != other.suites

/-- Take over the user's settings of another filter. -/
def update (filter other : SuiteFilter) : SuiteFilter :=
  { other with loaded := filter.loaded }

/-- Take note of the server's list of suites. With automatic addition, suites
that were not on the list before join the selection; the first list that is not
empty only says what there is. -/
def setLoaded (filter : SuiteFilter) (names : List String) : SuiteFilter :=
  let suites :=
    if filter.enabled && filter.autoAddNew && !filter.loaded.isEmpty then
      filter.suites.addAll (names.filter (!filter.loaded.contains ·))
    else filter.suites
  { filter with suites, loaded := names }

example : (selecting ["b", "a"]).registered = ["a", "b"] := by decide

end SuiteFilter

end FlowClient
