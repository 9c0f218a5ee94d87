import TableSchema.Text.Runs

/-!
# Paths

A path begins at the root, with one slash or exactly two, or at the working directory. Its parts
are the texts between slashes without those that are a single point.
-/

namespace TableSchema

/-- A path: the slashes that it begins with and its parts. -/
structure Path where
  root : String
  parts : List String
deriving DecidableEq, Repr

namespace Path

/-- The slashes that mark a path from the root: two if there are exactly two, else one. -/
def rootOf (cs : List Char) : String :=
  match (cs.takeWhile (· == '/')).length with
  | 0 => ""
  | 2 => "//"
  | _ => "/"

/-- The path that a text names. -/
def ofText (s : String) : Path :=
  ⟨rootOf s.toList,
    ((Text.runs (· == '/') s.toList).map String.ofList).filter (· != ".")⟩

/-- The text of a path; the working directory is a point. -/
def text (p : Path) : String :=
  if p.root = "" ∧ p.parts = [] then "." else p.root ++ "/".intercalate p.parts

/-- A path from the root. -/
def isAbsolute (p : Path) : Bool :=
  p.root != ""

end Path

end TableSchema
