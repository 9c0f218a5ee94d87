/-!
# Faults of texts
-/

namespace TableSchema.Yaml

/-- Why a text gives no data.  Most texts that fail are malformed; a few hold a scalar of some type
whose value does not exist. -/
inductive Fault where
  /-- The text is not well formed. -/
  | malformed
  /-- A scalar does not denote a value of its type. -/
  | badValue (message : String)
  /-- A number is out of all bounds. -/
  | overflow
  /-- A truth value has an unknown word. -/
  | unknownWord
  /-- A number has no characters. -/
  | emptyNumber
  /-- A point of the calendar is not written as one. -/
  | noTimestamp
  /-- A point of the calendar is given by a mapping. -/
  | timestampMapping
deriving DecidableEq, Repr

end TableSchema.Yaml
