import TableSchema.Yaml.Tag

/-!
# Nodes

A document is a tree of tagged nodes: scalars, sequences and mappings.  Aliases are already replaced
by what they stand for.
-/

namespace TableSchema.Yaml

/-- A node of a document. -/
inductive Node where
  | scalar (tag : Tag) (text : String)
  | sequence (tag : Tag) (items : List Node)
  | mapping (tag : Tag) (entries : List (Node × Node))

namespace Node

instance : Inhabited Node := ⟨.scalar .null ""⟩

/-- What a node that is left out stands for. -/
def empty : Node := .scalar .null ""

/-- The tag of a node. -/
def tag : Node → Tag
  | .scalar t _ | .sequence t _ | .mapping t _ => t

end Node

end TableSchema.Yaml
