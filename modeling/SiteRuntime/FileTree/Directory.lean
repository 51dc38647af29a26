import SiteRuntime.FileTree.Basic

/-!
# Making and removing directories

Three operations on whole directories: removal with everything below, creation with all missing
parents, and the two combined. Each returns its outcome together with the tree it leaves, because a
failure half-way keeps what was done before it.
-/

namespace SiteRuntime.FileTree

/-- An operation that may fail and leaves a tree either way. -/
abbrev Edit (α : Type) := EStateM OsError FileTree α

/-- Creates one directory. -/
def makeOne (cwd : Position) (p : Path) : Edit Unit := fun t =>
  match t.locate cwd p with
  | .error e => .error e t
  | .ok at_ =>
    match at_.last with
    | .name s =>
      if isLongName s then .error .nameTooLong t
      else
        match t.find? (at_.directory ++ [s]) with
        | some _ => .error .fileExists t
        | none => .ok () (t.put (at_.directory ++ [s]) .directory)
    | _ => .error .fileExists t

/-- Whether a path leads to a directory. -/
def leadsToDirectory (t : FileTree) (cwd : Position) (p : Path) : Bool :=
  match t.resolve cwd p with
  | .ok (_, e) => e.isDirectory
  | .error _ => false

/-- Creates a directory, which may be there already. -/
def makeIfMissing (cwd : Position) (p : Path) : Edit Unit := fun t =>
  match makeOne cwd p t with
  | .ok u t => .ok u t
  | .error e t => if t.leadsToDirectory cwd p then .ok () t else .error e t

/-- Creates a directory and its missing parents: the path itself is tried first, and only if a
parent is missing is the parent made and the path tried again. `fuel` bounds the parents. -/
def makeWithParents (cwd : Position) : Nat → Path → Edit Unit
  | 0, p => makeIfMissing cwd p
  | fuel + 1, p => fun t =>
    if p.chars.isEmpty then .ok () t
    else
      match makeOne cwd p t with
      | .ok u t => .ok u t
      | .error .notFound t =>
        match p.parent? with
        | none => .error .notFound t
        | some parent => (do makeWithParents cwd fuel parent; makeIfMissing cwd p) t
      | .error e t => if t.leadsToDirectory cwd p then .ok () t else .error e t

/-- Creates a directory with all missing parents. -/
def makeAll (cwd : Position) (p : Path) : Edit Unit :=
  makeWithParents cwd (p.parts.length + 1) p

/-- Removes one empty directory. -/
def removeOne (cwd : Position) (p : Path) : Edit Unit := fun t =>
  match t.locate cwd p with
  | .error e => .error e t
  | .ok at_ =>
    match at_.last with
    | .here => .error .invalidArgument t
    | .up => .error .notEmpty t
    | .root => .error .busy t
    | .name s =>
      if isLongName s then .error .nameTooLong t
      else
        let position := at_.directory ++ [s]
        match t.find? position with
        | none => .error .notFound t
        | some (.file _ _) => .error .notDirectory t
        | some .directory =>
          if t.isEmptyBelow position then .ok () (t.erase position) else .error .notEmpty t

/-- Removes a directory with everything below it: first what is below, then the directory by its
path, which may have vanished with what was below. -/
def removeAll (cwd : Position) (p : Path) : Edit Unit := fun t =>
  match t.resolve cwd p with
  | .error e => .error e t
  | .ok (_, .file _ _) => .error .notDirectory t
  | .ok (position, .directory) =>
    match removeOne cwd p (t.clear position) with
    | .error .notFound t => .ok () t
    | r => r

/-- Removes a directory with everything below it, if it is there. -/
def removeIfThere (cwd : Position) (p : Path) : Edit Unit := fun t =>
  match removeAll cwd p t with
  | .error .notFound t => .ok () t
  | r => r

/-- Makes sure that a directory is there, and with `wipe` that it is empty. -/
def makeDirectory (cwd : Position) (p : Path) (wipe : Bool) : Edit Unit := do
  if wipe then removeIfThere cwd p
  makeAll cwd p

end SiteRuntime.FileTree
