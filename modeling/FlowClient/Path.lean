import FlowClient.Text.Pieces

/-! Node paths. A path names the nodes from a suite downwards, divided by
slashes; slashes that divide nothing do not count. The path of no node
addresses the server. -/

namespace FlowClient.Path

def segments (path : String) : List String :=
  (Text.fields (· == '/') path.toList).map String.ofList

def isServer (path : String) : Bool := path.toList.all (· == '/')

/-- The last name of a path, or a slash for the server. -/
def nodeName (path : String) : String := (segments path).getLastD "/"

def child (parent name : String) : String :=
  let trimmed := (parent.toList.reverse.dropWhile (· == '/')).reverse
  String.ofList (trimmed ++ '/' :: name.toList)

example : segments "/s1//f1/" = ["s1", "f1"] := by decide
example : nodeName "/s1/f1" = "f1" := by decide
example : child (child "/" "s1") "t1" = "/s1/t1" := by decide

end FlowClient.Path
