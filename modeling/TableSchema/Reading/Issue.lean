import TableSchema.Issue
import TableSchema.Reading.Scalar

/-!
# Reading issues

An issue is read from a table's name, the word of a code and a message.
-/

namespace TableSchema.Reading

/-- An issue from its fields. -/
def issue (entries : List (Datum × Datum)) : Reading Issue :=
  Issue.mk <$> required "table" entries text <*>
    required "code" entries (word .notMember) <*> required "message" entries text

end TableSchema.Reading
