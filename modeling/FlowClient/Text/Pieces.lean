/-! Cutting text at marks. `pieces` keeps every piece, the empty ones included,
so nothing of the text but the marks themselves is lost; `fields` keeps only
the pieces that hold something. -/

namespace FlowClient.Text

/-- The stretches between the marked characters, in order. There is one more
piece than there are marks. -/
def pieces (isMark : Char → Bool) : List Char → List (List Char)
  | [] => [[]]
  | char :: rest =>
      if isMark char then [] :: pieces isMark rest
      else match pieces isMark rest with
        | [] => [[char]]
        | first :: others => (char :: first) :: others

def fields (isMark : Char → Bool) (text : List Char) : List (List Char) :=
  (pieces isMark text).filter (!·.isEmpty)

theorem pieces_ne_nil (isMark : Char → Bool) (text : List Char) :
    pieces isMark text ≠ [] := by
  cases text with
  | nil => simp [pieces]
  | cons char rest =>
      rw [pieces]
      split
      · simp
      · split <;> simp

theorem not_isMark_of_mem_pieces {isMark : Char → Bool} {text piece : List Char}
    {char : Char} (member : piece ∈ pieces isMark text) (within : char ∈ piece) :
    isMark char = false := by
  induction text generalizing piece with
  | nil =>
      have empty : piece = [] := by simpa [pieces] using member
      simp [empty] at within
  | cons head rest induction =>
      rw [pieces] at member
      split at member
      · rcases List.mem_cons.mp member with empty | later
        · simp [empty] at within
        · exact induction later within
      · rename_i unmarked
        split at member
        · rename_i none
          exact absurd none (pieces_ne_nil isMark rest)
        · rename_i first others split
          rcases List.mem_cons.mp member with joined | later
          · subst joined
            rcases List.mem_cons.mp within with here | inside
            · exact here ▸ Bool.eq_false_iff.mpr unmarked
            · exact induction (split ▸ List.mem_cons_self) inside
          · exact induction (split ▸ List.mem_cons_of_mem _ later) within

example : fields (· == '/') "//a/b/".toList = ["a".toList, "b".toList] := by decide

def join (separator : String) (texts : List String) : String :=
  String.ofList (separator.toList.intercalate (texts.map String.toList))

example : join ", " ["a", "b"] = "a, b" := by decide

end FlowClient.Text
