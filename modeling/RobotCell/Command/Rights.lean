/-!
# Rights

Who may use a file or a directory, and in which way. The mode of a file has three bits for its owner,
three for its group and three for all others.

## Main definitions

- `User` — someone who runs commands
- `Rights` — the owner, the group and the mode of a file or a directory
- `Rights.allow` — what a user may do with a file or a directory
- `Rights.mayChange` — who may change the mode
-/

namespace RobotCell

/-- Someone who runs commands. -/
structure User where
  id : Nat
  group : Nat
  /-- The further groups of the user. -/
  groups : List Nat
  /-- The bits that the modes of the user's new files lack. -/
  umask : Nat

/-- The user may do everything. -/
def User.isSuper (u : User) : Bool := u.id == 0

/-- A way to use a file or a directory. -/
inductive Use where
  | read
  | write
  /-- Names are looked up in a directory. -/
  | search

/-- The bit that allows a use. -/
def Use.bit : Use → Nat
  | .read => 4
  | .write => 2
  | .search => 1

/-- The owner, the group and the mode of a file or a directory. -/
structure Rights where
  owner : Nat
  group : Nat
  mode : Nat
  deriving DecidableEq

namespace Rights

/-- The bits of the mode that count for a user. Only those of the owner count for the owner, and of
the rest only those of the group for its members. -/
def bitsFor (r : Rights) (u : User) : Nat :=
  if u.id = r.owner then r.mode >>> 6
  else if u.group = r.group || u.groups.contains r.group then r.mode >>> 3
  else r.mode

/-- The user may use the file or the directory in the given way. -/
def allow (r : Rights) (u : User) (use : Use) : Bool :=
  u.isSuper || (r.bitsFor u &&& use.bit) != 0

/-- The user may change the mode. -/
def mayChange (r : Rights) (u : User) : Bool :=
  u.isSuper || u.id == r.owner

/-- The bits that let everyone execute a file. -/
def executeBits : Nat := 0o111

/-- The bits that a new file has, but for those that its user does not want. -/
def newFileBits : Nat := 0o666

/-- The rights of a new file. -/
def ofNewFile (u : User) : Rights :=
  ⟨u.id, u.group, newFileBits ^^^ (newFileBits &&& u.umask)⟩

end Rights

end RobotCell
