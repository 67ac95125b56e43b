/-!
# Texts with a separator

## Main definitions

- `joinWith` — the given texts with a separator between neighbours
- `splitAtChar` — the pieces of a text between the occurrences of a character
- `splitOnce` — a text cut at the first occurrence of a character
- `splitPair` — the two parts of a text with one separator
-/

namespace RobotCell.Text

/-- The texts in order, with `sep` between neighbours. -/
def joinWith (sep : String) : List String → String
  | [] => ""
  | [s] => s
  | s :: t :: rest => s ++ sep ++ joinWith sep (t :: rest)

/-- The pieces of a list of characters between the occurrences of `sep`, in order. There is one
piece more than there are occurrences. -/
def splitChars (sep : Char) : List Char → List (List Char)
  | [] => [[]]
  | c :: rest =>
    if c = sep then [] :: splitChars sep rest
    else match splitChars sep rest with
      | [] => [[c]]
      | piece :: pieces => (c :: piece) :: pieces

/-- The pieces of a text between the occurrences of `sep`, in order. -/
def splitAtChar (sep : Char) (s : String) : List String :=
  (splitChars sep s.toList).map String.ofList

/-- The parts before and after the first occurrence of `sep`, if there is one. -/
def splitOnce (sep : Char) (s : String) : Option (String × String) :=
  match s.toList.span (· ≠ sep) with
  | (before, _ :: after) => some (String.ofList before, String.ofList after)
  | (_, []) => none

/-- The two parts of a text with exactly one `sep` in it, neither of them empty. -/
def splitPair (sep : Char) (s : String) : Option (String × String) :=
  match splitOnce sep s with
  | some (before, after) =>
    if before = "" ∨ after = "" ∨ sep ∈ after.toList then none else some (before, after)
  | none => none

end RobotCell.Text
