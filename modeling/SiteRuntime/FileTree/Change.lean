import SiteRuntime.FileTree.Basic

/-!
# Changes of a tree

What has to be done to make one tree another, in an order in which it can be done: entries go from
the deepest to the highest, then directories come before what stands in them.
-/

namespace SiteRuntime.FileTree

/-- A change of one entry. -/
inductive Change where
  | removed (position : Position) (entry : Entry)
  | placed (position : Position) (entry : Entry)
  deriving DecidableEq

/-- Entries that have to go: what the new tree has not, or has as another kind of thing. -/
def removals (before after : FileTree) : List Change :=
  before.entries.entries.reverse.filterMap fun e =>
    match after.find? e.1 with
    | some new => if new.isDirectory = e.2.isDirectory then none else some (.removed e.1 e.2)
    | none => some (.removed e.1 e.2)

/-- Entries that have to come: what the old tree has not, or has otherwise. -/
def placements (before after : FileTree) : List Change :=
  after.entries.entries.filterMap fun e =>
    if before.find? e.1 = some e.2 then none else some (.placed e.1 e.2)

/-- The changes that lead from one tree to another. -/
def changes (before after : FileTree) : List Change :=
  removals before after ++ placements before after

/-- The positions of the directories above a position, the highest first. -/
def above (p : Position) : List Position := (List.range p.length).tail.map p.take

/-- The tree with the directories above a position and an entry there. -/
def putBelow (t : FileTree) (p : Position) (e : Entry) : FileTree :=
  ((above p).foldl (fun t q => t.put q .directory) t).put p e

end SiteRuntime.FileTree
