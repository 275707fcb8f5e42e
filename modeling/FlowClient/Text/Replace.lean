/-! Replacing every occurrence of a pattern, from left to right and without
overlaps. -/

namespace FlowClient.Text

/-- `skip` characters of an occurrence already replaced remain to be passed
over. -/
def replaceFrom (pattern replacement : List Char) : Nat → List Char → List Char
  | _, [] => []
  | skip + 1, _ :: rest => replaceFrom pattern replacement skip rest
  | 0, char :: rest =>
      if pattern.isPrefixOf (char :: rest) then
        replacement ++ replaceFrom pattern replacement (pattern.length - 1) rest
      else char :: replaceFrom pattern replacement 0 rest

def replaceAll (pattern replacement text : String) : String :=
  String.ofList (replaceFrom pattern.toList replacement.toList 0 text.toList)

example : replaceAll "aa" "b" "aaaxa" = "baxa" := by decide

end FlowClient.Text
