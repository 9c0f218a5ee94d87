import TableSchema.Datum
import TableSchema.Yaml.Node
import TableSchema.Yaml.ScalarValue

/-!
# Data of nodes

A node stands for a datum. Entries of mappings that are merged into a mapping come before its own,
which override them. Collections are filled level by level from the root, so of several faults the
one nearest to the root counts, and of those on one level the first.
-/

namespace TableSchema.Yaml

/-- What is built from a node, or a fault with the level on which it shows. -/
abbrev Leveled := Except (Nat × Fault)

namespace Leveled

/-- A fault on a level. -/
def fail {α : Type} (level : Nat) (f : Fault) : Leveled α :=
  .error (level, f)

/-- Two parts; of two faults the one on the lower level counts, on one level the first. -/
def both {α β : Type} (a : Leveled α) (b : Leveled β) : Leveled (α × β) :=
  match a, b with
  | .ok x, .ok y => .ok (x, y)
  | .error e, .ok _ => .error e
  | .ok _, .error f => .error f
  | .error e, .error f => .error (if f.1 < e.1 then f else e)

/-- Two lists one after the other. -/
def append {α : Type} (a b : Leveled (List α)) : Leveled (List α) :=
  (both a b).map fun p => p.1 ++ p.2

/-- A part in front of a list. -/
def cons {α : Type} (a : Leveled α) (b : Leveled (List α)) : Leveled (List α) :=
  (both a b).map fun p => p.1 :: p.2

end Leveled

open Leveled

namespace Node

mutual

/-- The text of a scalar, or of the scalar that a mapping stands for. -/
def scalarText? : Node → Option String
  | .scalar _ text => some text
  | .sequence _ _ => none
  | .mapping _ entries => valueText? entries

/-- The text of the first value whose key stands for it. -/
def valueText? : List (Node × Node) → Option String
  | [] => none
  | (k, v) :: es => if k.tag = .value then scalarText? v else valueText? es

end

mutual

/-- What is merged into a mapping consists of mappings. -/
def mergeable : Node → Bool
  | .scalar _ _ => false
  | .sequence _ items => allMergeable items
  | .mapping _ entries => mergesMappings entries

/-- All nodes are mappings that merge mappings only. -/
def allMergeable : List Node → Bool
  | [] => true
  | .mapping _ entries :: ns => mergesMappings entries && allMergeable ns
  | _ :: _ => false

/-- Entries that merge mappings only. -/
def mergesMappings : List (Node × Node) → Bool
  | [] => true
  | (k, v) :: es => (k.tag ≠ .merge || mergeable v) && mergesMappings es

end

/-- The value of a scalar on a level. -/
def scalarDatum (level : Nat) (tag : Tag) (text : String) : Leveled Datum :=
  if tag.isCollection then fail (level + 1) .malformed
  else match scalarValue tag text with
    | .ok a => .ok (.atom a)
    | .error f => fail level f

/-- The value of the scalar that a mapping stands for. -/
def mappedDatum (level : Nat) (tag : Tag) (text : Option String) : Leveled Datum :=
  match text with
  | none => fail level .malformed
  | some text =>
    if tag = .timestamp then fail level .timestampMapping else scalarDatum level tag text

/-- The entries of a mapping on a level: those that are merged into it and its own. -/
def entryData (level : Nat) (entries : List (Node × Node))
    (merged own : Leveled (List (Datum × Datum))) : Leveled (List (Datum × Datum)) :=
  if mergesMappings entries then (append merged own).map Datum.entriesOf
  else fail level .malformed

mutual

/-- The datum of a node on a level. -/
def datum (level : Nat) : Node → Leveled Datum
  | .scalar tag text => scalarDatum level tag text
  | .sequence tag items =>
    match tag with
    | .seq => (data (level + 1) items).map .list
    | .omap | .pairs => (pairData (level + 1) items).map .list
    | .map | .set => fail (level + 1) .malformed
    | _ => fail level .malformed
  | .mapping tag entries =>
    let filled := entryData (level + 1) entries (mergedData (level + 1) entries)
      (ownData (level + 1) entries)
    match tag with
    | .map => filled.map .map
    | .set => filled.map fun es => .set (es.map (·.1))
    | .seq | .omap | .pairs => fail (level + 1) .malformed
    | tag => mappedDatum level tag (valueText? entries)
termination_by structural n => n

/-- The data of nodes. -/
def data (level : Nat) : List Node → Leveled (List Datum)
  | [] => .ok []
  | n :: ns => cons (datum level n) (data level ns)

/-- The pairs of mappings with one entry each. -/
def pairData (level : Nat) : List Node → Leveled (List Datum)
  | [] => .ok []
  | .mapping _ [(k, v)] :: ns =>
    cons ((both (datum level k) (datum level v)).map fun p => .tuple [p.1, p.2])
      (pairData level ns)
  | _ :: _ => fail level .malformed

/-- The entries that are merged into a mapping. -/
def mergedData (level : Nat) : List (Node × Node) → Leveled (List (Datum × Datum))
  | [] => .ok []
  | (k, v) :: es =>
    if k.tag = .merge then append (sourceData level v) (mergedData level es)
    else mergedData level es

/-- The entries that a node brings into a mapping. -/
def sourceData (level : Nat) : Node → Leveled (List (Datum × Datum))
  | .scalar _ _ => fail level .malformed
  | .sequence _ items => sourcesData level items
  | .mapping _ entries => append (mergedData level entries) (ownData level entries)

/-- The entries that several nodes bring into a mapping; those of the first come last. -/
def sourcesData (level : Nat) : List Node → Leveled (List (Datum × Datum))
  | [] => .ok []
  | n :: ns => append (sourcesData level ns) (sourceData level n)

/-- The entries of a mapping without those that are merged into it. -/
def ownData (level : Nat) : List (Node × Node) → Leveled (List (Datum × Datum))
  | [] => .ok []
  | (k, v) :: es =>
    if k.tag = .merge then ownData level es
    else
      let key := match k.tag with
        | .value => mappedDatum level .str (scalarText? k)
        | .seq | .map | .set | .omap | .pairs => fail level .malformed
        | _ => datum level k
      cons (both key (datum level v)) (ownData level es)

end

end Node

end TableSchema.Yaml
