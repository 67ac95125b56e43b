/-!
# Lists of named things

## Main definitions

- `putNamed` — a list with the thing of a name set
-/

namespace RobotCell

/-- The list with the given thing under a name: in the place of the one that is there, or at the
end. -/
def putNamed {α : Type} (name : String) (a : α) : List (String × α) → List (String × α)
  | [] => [(name, a)]
  | e :: rest => if e.1 = name then (name, a) :: rest else e :: putNamed name a rest

end RobotCell
