import LinkParsing.Proofs.Text.Cuts
import LinkParsing.Sentence.Token

/-!
# Tokens lose nothing of a sentence

However a text is cut into segments, its tokens are made of groups of them.  A group is a segment
that is not white space, or several segments in a row that repeat one mark, and between groups
there is only white space (`Grouped`).  Since the last token may still grow, this is shown together
with the same for segments behind a group that has been begun (`grouped_ofSegments`).

So the tokens of a sentence stand in it in order, each where it says, and what is outside of them
is white space (`tokens_lossless`).
-/

namespace LinkParsing

/-! ## Segments cut a text -/

namespace Text

variable {text : List Char} {count : Nat}

/-- The segments make up the text, and none of them is empty. -/
def Cuts (segments : List (List Char)) (text : List Char) : Prop :=
  segments.flatten = text ∧ ∀ s ∈ segments, s ≠ []

theorem cuts_segmentsWithin (h : text.length ≤ count) : Cuts (segmentsWithin count text) text := by
  induction count generalizing text with
  | zero =>
      obtain rfl := List.eq_nil_of_length_eq_zero (Nat.le_zero.mp h)
      exact ⟨rfl, nofun⟩
  | succ count ih =>
      cases text with
      | nil => exact ⟨rfl, nofun⟩
      | cons c rest =>
          simp only [segmentsWithin]
          -- A segment takes a character in any case, so there are enough of them.
          have hpos : 0 < max 1 (segmentLength (c :: rest)) :=
            Nat.lt_of_lt_of_le Nat.one_pos (Nat.le_max_left 1 _)
          have hshorter :
              ((c :: rest).drop (max 1 (segmentLength (c :: rest)))).length ≤ count := by
            rw [List.length_drop]
            omega
          obtain ⟨hflatten, hne⟩ := ih hshorter
          refine ⟨?_, List.forall_mem_cons.mpr ⟨?_, hne⟩⟩
          · rw [List.flatten_cons, hflatten, List.take_append_drop]
          · rw [ne_eq, List.take_eq_nil_iff, not_or]
            exact ⟨Nat.ne_of_gt hpos, List.cons_ne_nil c rest⟩

theorem cuts_segments (text : List Char) : Cuts (segments text) text :=
  cuts_segmentsWithin (Nat.le_refl _)

end Text

namespace Token

variable {s : List Char} {segments group : List (List Char)} {tokens : List Token} {t : Token}
  {o : Nat}

/-! ## Groups of segments -/

/-- The segments make up a token: a single one that is not white space, or several that together
repeat one mark. -/
inductive IsGroup : List (List Char) → Prop where
  | single {s : List Char} (h : s.all Text.isSpace = false) : IsGroup [s]
  | repeats {group : List (List Char)} {mark : Char} {n : Nat} (hseveral : 2 ≤ group.length)
      (hn : 2 ≤ n) (halphanumeric : Text.isAlphanumeric mark = false)
      (hspace : Text.isSpace mark = false) (h : group.flatten = List.replicate n mark) :
      IsGroup group

/-- The segments from an offset on are grouped to tokens. -/
inductive Grouped : Nat → List (List Char) → List Token → Prop where
  | nil (o : Nat) : Grouped o [] []
  | blank {o : Nat} {s : List Char} {segments : List (List Char)} {tokens : List Token}
      (h : s.all Text.isSpace = true) (hrest : Grouped (o + byteLength s) segments tokens) :
      Grouped o (s :: segments) tokens
  | token {o : Nat} {group segments : List (List Char)} {tokens : List Token}
      (h : IsGroup group) (hrest : Grouped (o + byteLength group.flatten) segments tokens) :
      Grouped o (group ++ segments) (⟨group.flatten, o⟩ :: tokens)

theorem IsGroup.not_blank (h : IsGroup group) : group.flatten.all Text.isSpace = false := by
  cases h with
  | single h => rwa [List.flatten_singleton]
  | repeats hseveral hn halphanumeric hspace h =>
      rw [h, List.all_replicate, hspace, if_neg (by omega)]

theorem IsGroup.flatten_ne_nil (h : IsGroup group) : group.flatten ≠ [] := by
  intro hnil
  have hblank := h.not_blank
  rw [hnil] at hblank
  cases hblank

theorem IsGroup.byteLength_pos (h : IsGroup group) : 0 < byteLength group.flatten :=
  byteLength_pos_of_ne_nil h.flatten_ne_nil

/-- A group goes on with a further repeat of its mark. -/
theorem IsGroup.append (h : IsGroup group) (hrepeats : repeatsMark group.flatten s = true) :
    IsGroup (group ++ [s]) := by
  unfold repeatsMark at hrepeats
  split at hrepeats
  next mark =>
    rw [Bool.and_eq_true, Bool.and_eq_true, Bool.not_eq_true', Bool.not_eq_true'] at hrepeats
    obtain ⟨⟨halphanumeric, hspace⟩, hsame⟩ := hrepeats
    have hreplicate : group.flatten = List.replicate group.flatten.length mark := by
      refine List.eq_replicate_of_mem fun c hc => ?_
      simpa using List.all_eq_true.mp hsame c hc
    have hpos := List.length_pos_of_ne_nil h.flatten_ne_nil
    have hgroup : group ≠ [] := by
      rintro rfl
      exact h.flatten_ne_nil rfl
    refine .repeats (n := group.flatten.length + 1) ?_ (by omega) halphanumeric hspace ?_
    · have := List.length_pos_of_ne_nil hgroup
      rw [List.length_append, List.length_singleton]
      omega
    · rw [List.flatten_append, hreplicate, List.flatten_singleton, List.length_replicate,
        List.replicate_succ']
  next => cases hrepeats

/-! ## Grouping -/

/-- A token that white space has been found behind does not grow. -/
theorem ofSegments_of_stop_lt (h : t.stop < o) :
    ofSegments (some t) o segments = t :: ofSegments none o segments := by
  induction segments generalizing o with
  | nil => rfl
  | cons s segments ih =>
      rw [ofSegments, ofSegments]
      split
      next => exact ih (Nat.lt_of_lt_of_le h (Nat.le_add_right _ _))
      next =>
        have hapart : ¬(t.stop = o ∧ repeatsMark t.chars s = true) := fun hnext => by omega
        simp [hapart]

theorem grouped_ofSegments (hne : ∀ s ∈ segments, s ≠ []) :
    (∀ o, Grouped o segments (ofSegments none o segments)) ∧
    ∀ group o, IsGroup group → Grouped o (group ++ segments)
      (ofSegments (some ⟨group.flatten, o⟩) (o + byteLength group.flatten) segments) := by
  induction segments with
  | nil => exact ⟨fun o => .nil o, fun group o h => .token h (.nil _)⟩
  | cons s segments ih =>
      obtain ⟨hs, hne⟩ := List.forall_mem_cons.mp hne
      obtain ⟨ihnone, ihsome⟩ := ih hne
      refine ⟨fun o => ?_, fun group o hgroup => ?_⟩
      · by_cases hblank : s.all Text.isSpace = true
        · rw [ofSegments, if_pos hblank]
          exact .blank hblank (ihnone _)
        · have hsingle := IsGroup.single (eq_false_of_ne_true hblank)
          have hbegun := ihsome [s] o hsingle
          rw [List.flatten_singleton] at hbegun
          rwa [ofSegments, if_neg hblank]
      · rw [ofSegments]
        by_cases hblank : s.all Text.isSpace = true
        · rw [if_pos hblank]
          -- White space takes a byte, so that nothing touches the group any more.
          have hlt : o + byteLength group.flatten < o + byteLength group.flatten + byteLength s :=
            Nat.lt_add_of_pos_right (byteLength_pos_of_ne_nil hs)
          rw [ofSegments_of_stop_lt hlt]
          exact .token hgroup (.blank hblank (ihnone _))
        · rw [if_neg hblank]
          by_cases hrepeats : repeatsMark group.flatten s = true
          · have hlonger := ihsome (group ++ [s]) o (hgroup.append hrepeats)
            rw [List.flatten_append, List.flatten_singleton, byteLength_append, ← Nat.add_assoc,
              List.append_assoc] at hlonger
            simpa [stop, hrepeats] using hlonger
          · have hsingle := IsGroup.single (eq_false_of_ne_true hblank)
            have hbegun := ihsome [s] (o + byteLength group.flatten) hsingle
            rw [List.flatten_singleton] at hbegun
            simpa [stop, hrepeats] using Grouped.token hgroup hbegun

/-! ## Where tokens stand -/

theorem Grouped.le_start (h : Grouped o segments tokens) (ht : t ∈ tokens) : o ≤ t.start := by
  induction h with
  | nil o => cases ht
  | blank h _ ih => exact Nat.le_trans (Nat.le_add_right _ _) (ih ht)
  | token h _ ih =>
      rcases List.mem_cons.mp ht with rfl | ht
      · exact Nat.le_refl _
      · exact Nat.le_trans (Nat.le_add_right _ _) (ih ht)

theorem Grouped.ordered (h : Grouped o segments tokens) :
    tokens.Pairwise fun a b => a.start < b.start ∧ a.stop ≤ b.start := by
  induction h with
  | nil o => exact .nil
  | blank h _ ih => exact ih
  | token h hrest ih =>
      refine .cons (fun t ht => ?_) ih
      have hle := hrest.le_start ht
      have hpos := h.byteLength_pos
      exact ⟨Nat.lt_of_lt_of_le (Nat.lt_add_of_pos_right hpos) hle, hle⟩

/-- A token stands where the segments of its group do. -/
theorem Grouped.exists_group (h : Grouped o segments tokens) (ht : t ∈ tokens) :
    ∃ before group after, segments = before ++ (group ++ after) ∧ IsGroup group ∧
      t = ⟨group.flatten, o + byteLength before.flatten⟩ := by
  induction h with
  | nil o => cases ht
  | @blank o s segments tokens h _ ih =>
      obtain ⟨before, group, after, rfl, hgroup, rfl⟩ := ih ht
      refine ⟨s :: before, group, after, rfl, hgroup, ?_⟩
      rw [List.flatten_cons, byteLength_append, Nat.add_assoc]
  | @token o first segments tokens h _ ih =>
      rcases List.mem_cons.mp ht with rfl | ht
      · exact ⟨[], first, segments, rfl, h, rfl⟩
      · obtain ⟨before, group, after, rfl, hgroup, rfl⟩ := ih ht
        refine ⟨first ++ before, group, after, by rw [List.append_assoc], hgroup, ?_⟩
        rw [List.flatten_append, byteLength_append, Nat.add_assoc]

/-- Every character outside of all tokens is white space. -/
theorem Grouped.covers (h : Grouped o segments tokens) {before after : List Char} {c : Char}
    (htext : segments.flatten = before ++ c :: after) : Text.isSpace c = true ∨
      ∃ t ∈ tokens, t.start ≤ o + byteLength before ∧ o + byteLength before < t.stop := by
  induction h generalizing before with
  | nil o => simp at htext
  | @blank o s segments tokens h _ ih =>
      rw [List.flatten_cons] at htext
      rcases append_eq_append_cons htext with ⟨rest, rfl⟩ | ⟨rest, rfl, hrest⟩
      · exact .inl (List.all_eq_true.mp h c (by simp))
      · rw [byteLength_append, ← Nat.add_assoc]
        exact ih hrest
  | @token o group segments tokens h _ ih =>
      rw [List.flatten_append] at htext
      rcases append_eq_append_cons htext with ⟨rest, hgroup⟩ | ⟨rest, rfl, hrest⟩
      · refine .inr ⟨_, List.mem_cons_self, Nat.le_add_right _ _, ?_⟩
        have hc := c.utf8Size_pos
        simp only [stop, hgroup, byteLength_append, byteLength_cons]
        omega
      · rw [byteLength_append, ← Nat.add_assoc]
        exact (ih hrest).imp_right fun ⟨t, ht, hstands⟩ => ⟨t, List.mem_cons_of_mem _ ht, hstands⟩

/-- What tokens keep of the segments that they are made of. -/
structure Lossless (segments : List (List Char)) (tokens : List Token) : Prop where
  ordered : tokens.Pairwise fun a b => a.start < b.start ∧ a.stop ≤ b.start
  /-- The text has every token where it starts. -/
  slice : ∀ t ∈ tokens, slice? segments.flatten ⟨t.start, byteLength t.chars⟩ = some t.chars
  /-- Every character outside of all tokens is white space. -/
  covers : ∀ before c after, segments.flatten = before ++ c :: after → Text.isSpace c = true ∨
    ∃ t ∈ tokens, t.start ≤ byteLength before ∧ byteLength before < t.stop
  not_blank : ∀ t ∈ tokens, t.chars.all Text.isSpace = false
  group : ∀ t ∈ tokens, ∃ before group after, segments = before ++ (group ++ after) ∧
    IsGroup group ∧ t = ⟨group.flatten, byteLength before.flatten⟩

theorem Grouped.lossless (h : Grouped 0 segments tokens) : Lossless segments tokens := by
  have hgroup (t : Token) (ht : t ∈ tokens) : ∃ before group after,
      segments = before ++ (group ++ after) ∧ IsGroup group ∧
        t = ⟨group.flatten, byteLength before.flatten⟩ := by
    have hexists := h.exists_group ht
    simpa only [Nat.zero_add] using hexists
  constructor
  case ordered => exact h.ordered
  case slice =>
    intro t ht
    obtain ⟨before, group, after, rfl, -, rfl⟩ := hgroup t ht
    rw [List.flatten_append, List.flatten_append, ← List.append_assoc]
    exact slice?_append before.flatten group.flatten after.flatten
  case covers =>
    intro before c after htext
    have hcovers := h.covers htext
    simpa only [Nat.zero_add] using hcovers
  case not_blank =>
    intro t ht
    obtain ⟨before, group, after, -, hgroup, rfl⟩ := hgroup t ht
    exact hgroup.not_blank
  case group => exact hgroup

/-- Whatever segments a text is cut into, as long as none of them is empty, the tokens lose nothing
of it.  The segments of a sentence between its word boundaries are such a cut. -/
theorem tokens_lossless :
    (∀ segments : List (List Char), (∀ s ∈ segments, s ≠ []) →
      Lossless segments (ofSegments none 0 segments)) ∧
    ∀ sentence : String,
      Text.Cuts (Text.segments sentence.toList) sentence.toList ∧
        Lossless (Text.segments sentence.toList) (tokenize sentence) := by
  have hlossless (segments : List (List Char)) (hne : ∀ s ∈ segments, s ≠ []) :
      Lossless segments (ofSegments none 0 segments) :=
    ((grouped_ofSegments hne).1 0).lossless
  refine ⟨hlossless, fun sentence => ?_⟩
  have hcuts := Text.cuts_segments sentence.toList
  exact ⟨hcuts, hlossless _ hcuts.2⟩

/-- Stops that touch are one token, which another mark ends and which blanks keep apart. -/
def markSegments : List (List Char) := [['ß'], [' '], ['.'], ['.'], ['!'], [' '], ['!']]

theorem tokens_lossless_marks :
    ofSegments none 0 markSegments = [⟨['ß'], 0⟩, ⟨['.', '.'], 3⟩, ⟨['!'], 5⟩, ⟨['!'], 7⟩] ∧
      Lossless markSegments [⟨['ß'], 0⟩, ⟨['.', '.'], 3⟩, ⟨['!'], 5⟩, ⟨['!'], 7⟩] := by
  have htokens : ofSegments none 0 markSegments =
      [⟨['ß'], 0⟩, ⟨['.', '.'], 3⟩, ⟨['!'], 5⟩, ⟨['!'], 7⟩] := by decide +kernel
  refine ⟨htokens, ?_⟩
  rw [← htokens]
  exact tokens_lossless.1 markSegments (by decide)

end Token

end LinkParsing
