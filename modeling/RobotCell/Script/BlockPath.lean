import RobotCell.Script.Tree

/-!
# Blocks of a script

The statements of a script have blocks, whose statements have blocks again. A block is told by a
path: the number of a statement, that of one of its blocks, and so on inwards.

## Main definitions

- `Stmt.blocks`, `Stmt.mapBlocks`, `Stmt.modifyBlock` — the blocks of a statement
- `BlockPath`, `setBlockAt` — a script with another block at a path
- `Placed` — a part of a script that is told by a path
-/

namespace RobotCell.Script

namespace Stmt

/-- The blocks of a statement, in the order of the text. -/
def blocks : Stmt → List Block
  | .functionDef d => [d.body]
  | .classDef d => [d.body]
  | .ifElse _ body orelse | .whileLoop _ body orelse | .forLoop _ _ body orelse => [body, orelse]
  | .withBlock _ body => [body]
  | .tryBlock body handlers orelse finalBody =>
    body :: handlers.map (·.body) ++ [orelse, finalBody]
  | _ => []

/-- The statement with its blocks changed, each one by its number. -/
def mapBlocks (f : Nat → Block → Block) : Stmt → Stmt
  | .functionDef d => .functionDef { d with body := f 0 d.body }
  | .classDef d => .classDef { d with body := f 0 d.body }
  | .ifElse test body orelse => .ifElse test (f 0 body) (f 1 orelse)
  | .whileLoop test body orelse => .whileLoop test (f 0 body) (f 1 orelse)
  | .forLoop target iter body orelse => .forLoop target iter (f 0 body) (f 1 orelse)
  | .withBlock items body => .withBlock items (f 0 body)
  | .tryBlock body handlers orelse finalBody =>
    .tryBlock (f 0 body) (handlers.mapIdx fun i h => { h with body := f (i + 1) h.body })
      (f (handlers.length + 1) orelse) (f (handlers.length + 2) finalBody)
  | s => s

/-- The statement with one of its blocks changed. -/
def modifyBlock (k : Nat) (f : Block → Block) (s : Stmt) : Stmt :=
  s.mapBlocks fun j body => if j = k then f body else body

end Stmt

/-- A way to a block of a script: the number of a statement and that of one of its blocks, and so on
inwards. The script itself is at the empty path. -/
abbrev BlockPath := List (Nat × Nat)

/-- The block with another one at a path inside of it. -/
def setBlockAt (new : Block) : BlockPath → Block → Block
  | [], _ => new
  | (i, k) :: path, body => body.modify i (Stmt.modifyBlock k (setBlockAt new path))

/-- A part of a script, and the path to its block. -/
structure Placed (α : Type) where
  path : BlockPath
  value : α

end RobotCell.Script
