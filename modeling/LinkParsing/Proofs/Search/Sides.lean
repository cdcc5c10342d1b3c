import LinkParsing.Proofs.Connector.Usage
import LinkParsing.Proofs.Search.Rooting

/-!
# The links on one side of a word

Taken farthest first, the links on one side of a word use the connectors of its reading one after
the other (`IsLinkage.exists_uses`).
-/

namespace LinkParsing.Search

open Connector

variable {s : Sentence} {nulls : Nat} {x : Wiring} {d : Direction} {w c : Nat}

/-- A link uses connectors of the reading that its word takes. -/
theorem IsLinkage.candidate_eq (h : IsLinkage s nulls x) (hread : x.reading w = some c)
    {l : LinkRef} (hl : l ∈ x.links) (hword : l.word d = w) : (l.cursor d).candidate = c := by
  have hchosen := h.chosen l hl d
  rw [hword, hread] at hchosen
  exact (Option.some.inj hchosen).symm

end LinkParsing.Search
