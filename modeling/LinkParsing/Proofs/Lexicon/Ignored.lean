import LinkParsing.Proofs.Lexicon.Reads

/-!
# What may stand between lexemes

`Ignored g` says that `g` is made of blanks and comments, each comment with the end of its
line.  At the end of a text the last comment needs no end of line (`Trailing`).

Going over what is ignored takes all of it and stops at a solid character, one that neither
is a blank nor begins a comment (`reads_skip`, `skip_inv`).
-/

namespace LinkParsing.Lexicon

open Reader

variable {g h rest : List Char} {a b : Place}

/-- Blanks and comments that end with their lines. -/
inductive Ignored : List Char → Prop where
  | nil : Ignored []
  | blank {c : Char} {g : List Char} (hc : isBlank c = true) (hg : Ignored g) : Ignored (c :: g)
  | comment {body g : List Char} (hbody : '\n' ∉ body) (hg : Ignored g) :
      Ignored ('%' :: (body ++ '\n' :: g))

/-- What may stand behind the last lexeme of a text. -/
def Trailing (g : List Char) : Prop :=
  Ignored g ∨ ∃ before body, Ignored before ∧ '\n' ∉ body ∧ g = before ++ '%' :: body

/-- A character that ends what is ignored. -/
def isSolid (c : Char) : Bool := !isBlank c && c != '%'

/-- The text is over or goes on with a solid character. -/
def Solid (rest : List Char) : Prop := ∀ c ∈ rest.head?, isSolid c = true

theorem solid_nil : Solid [] := nofun

theorem solid_cons {c : Char} (hc : isSolid c = true) (rest : List Char) : Solid (c :: rest) := by
  intro d hd
  rwa [← Option.some.inj hd]

/-- A text that begins with a solid character. -/
def Begins (t : List Char) : Prop := ∃ c u, t = c :: u ∧ isSolid c = true

theorem Begins.ne_nil {t : List Char} (h : Begins t) : t ≠ [] := by
  obtain ⟨c, u, rfl, -⟩ := h
  exact List.cons_ne_nil c u

theorem Begins.length_pos {t : List Char} (h : Begins t) : 0 < t.length :=
  List.length_pos_iff.mpr h.ne_nil

theorem Begins.solid {t : List Char} (h : Begins t) (rest : List Char) : Solid (t ++ rest) := by
  obtain ⟨c, u, rfl, hc⟩ := h
  exact solid_cons hc (u ++ rest)

theorem Begins.append {t : List Char} (h : Begins t) (u : List Char) : Begins (t ++ u) := by
  obtain ⟨c, v, rfl, hc⟩ := h
  exact ⟨c, v ++ u, rfl, hc⟩

theorem Ignored.append (hg : Ignored g) (hh : Ignored h) : Ignored (g ++ h) := by
  induction hg with
  | nil => exact hh
  | blank hc _ ih => exact .blank hc ih
  | comment hbody _ ih =>
      rw [List.cons_append, List.append_assoc, List.cons_append]
      exact .comment hbody ih

theorem Ignored.append_trailing (hg : Ignored g) (hh : Trailing h) : Trailing (g ++ h) := by
  rcases hh with hh | ⟨before, body, hbefore, hbody, rfl⟩
  · exact .inl (hg.append hh)
  · exact .inr ⟨g ++ before, body, hg.append hbefore, hbody, by rw [List.append_assoc]⟩

theorem not_isBlank_percent : isBlank '%' = false := by decide

/-! ## Going over what is ignored -/

private theorem skipComment_append {body : List Char} (hbody : '\n' ∉ body) (o : Nat)
    (rest : List Char) : skipIgnored.skipComment o (body ++ '\n' :: rest) =
      skipIgnored (o + byteLength body + '\n'.utf8Size) rest := by
  induction body generalizing o with
  | nil => simp [skipIgnored.skipComment]
  | cons c body ih =>
      rw [List.mem_cons, not_or] at hbody
      rw [List.cons_append, skipIgnored.skipComment, if_neg (Ne.symm hbody.1), ih hbody.2,
        byteLength_cons, Nat.add_assoc o]

private theorem skipComment_of_no_newline {body : List Char} (hbody : '\n' ∉ body) (o : Nat) :
    skipIgnored.skipComment o body = ⟨[], o + byteLength body⟩ := by
  induction body generalizing o with
  | nil => rfl
  | cons c body ih =>
      rw [List.mem_cons, not_or] at hbody
      rw [skipIgnored.skipComment, if_neg (Ne.symm hbody.1), ih hbody.2, byteLength_cons,
        Nat.add_assoc o]

/-- The rest is as if nothing had stood before it. -/
theorem skipIgnored_append_eq (hg : Ignored g) (o : Nat) (rest : List Char) :
    skipIgnored o (g ++ rest) = skipIgnored (o + byteLength g) rest := by
  induction hg generalizing o with
  | nil => rfl
  | @blank c g hc _ ih =>
      rw [List.cons_append, skipIgnored, if_pos hc, ih, byteLength_cons, Nat.add_assoc o]
  | @comment body g hbody _ ih =>
      have hlength : o + byteLength ('%' :: (body ++ '\n' :: g)) =
          o + '%'.utf8Size + byteLength body + '\n'.utf8Size + byteLength g := by
        simp only [byteLength_cons, byteLength_append]
        omega
      rw [List.cons_append, List.append_assoc, List.cons_append, skipIgnored,
        if_neg (by simp [not_isBlank_percent]), if_pos rfl, skipComment_append hbody, ih, hlength]

theorem skipIgnored_of_solid (hrest : Solid rest) (o : Nat) :
    skipIgnored o rest = ⟨rest, o⟩ := by
  cases rest with
  | nil => rfl
  | cons c rest =>
      have hc := hrest c rfl
      simp only [isSolid, Bool.and_eq_true, Bool.not_eq_true', bne_iff_ne] at hc
      rw [skipIgnored, if_neg (by simp [hc.1]), if_neg hc.2]

/-- What is ignored is gone over up to the solid character behind it. -/
theorem skipIgnored_append (hg : Ignored g) (hrest : Solid rest) (o : Nat) :
    skipIgnored o (g ++ rest) = ⟨rest, o + byteLength g⟩ := by
  rw [skipIgnored_append_eq hg, skipIgnored_of_solid hrest]

theorem skipIgnored_trailing (hg : Trailing g) (o : Nat) :
    skipIgnored o g = ⟨[], o + byteLength g⟩ := by
  rcases hg with hg | ⟨before, body, hbefore, hbody, rfl⟩
  · have := skipIgnored_append hg solid_nil o
    rwa [List.append_nil] at this
  · rw [skipIgnored_append_eq hbefore, skipIgnored, if_neg (by simp [not_isBlank_percent]),
      if_pos rfl, skipComment_of_no_newline hbody, byteLength_append, byteLength_cons]
    simp only [Nat.add_assoc]

/-! ## What is gone over is ignored -/

/-- Behind a lead, an ignored text has been gone over up to this place, or a trailing one if the
text is over there. -/
def GoneOver (lead : List Char) (o : Nat) (text : List Char) (b : Place) : Prop :=
  ∃ g, text = g ++ b.rest ∧ b.offset = o + byteLength g ∧ Solid b.rest ∧ Trailing (lead ++ g) ∧
    (b.rest ≠ [] → Ignored (lead ++ g))

private theorem GoneOver.cons {lead lead' text : List Char} {c : Char} {o : Nat}
    (h : GoneOver lead' (o + c.utf8Size) text b)
    (htrailing : ∀ g, Trailing (lead' ++ g) → Trailing (lead ++ c :: g))
    (hignored : ∀ g, Ignored (lead' ++ g) → Ignored (lead ++ c :: g)) :
    GoneOver lead o (c :: text) b := by
  obtain ⟨g, htext, hoffset, hsolid, hlast, hbetween⟩ := h
  have hoffset' : b.offset = o + byteLength (c :: g) := by
    rw [hoffset, byteLength_cons, Nat.add_assoc]
  exact ⟨c :: g, by rw [htext]; rfl, hoffset', hsolid, htrailing g hlast,
    fun hne => hignored g (hbetween hne)⟩

/-- A comment may have one more character in front. -/
private theorem Ignored.comment_cons {c : Char} (hc : c ≠ '\n') (hg : Ignored ('%' :: g)) :
    Ignored ('%' :: c :: g) := by
  cases hg with
  | blank hblank => simp [not_isBlank_percent] at hblank
  | comment hbody hg =>
      rw [← List.cons_append]
      exact .comment (by simp [hbody, Ne.symm hc]) hg

private theorem Trailing.comment_cons {c : Char} (hc : c ≠ '\n') (hg : Trailing ('%' :: g)) :
    Trailing ('%' :: c :: g) := by
  rcases hg with hg | ⟨before, body, hbefore, hbody, heq⟩
  · exact .inl (hg.comment_cons hc)
  · cases hbefore with
    | nil =>
        obtain rfl : g = body := (List.cons.inj heq).2
        exact .inr ⟨[], c :: g, .nil, by simp [hbody, Ne.symm hc], rfl⟩
    | blank hblank =>
        rw [List.cons_append] at heq
        rw [← (List.cons.inj heq).1] at hblank
        simp [not_isBlank_percent] at hblank
    | @comment inner before hinner hbefore =>
        obtain rfl := (List.cons.inj heq).2
        have hlonger : '\n' ∉ c :: inner := by simp [hinner, Ne.symm hc]
        exact .inr ⟨_, body, .comment hlonger hbefore, hbody, rfl⟩

theorem goneOver_skipIgnored (text : List Char) (o : Nat) :
    GoneOver [] o text (skipIgnored o text) ∧
      GoneOver ['%'] o text (skipIgnored.skipComment o text) := by
  induction text generalizing o with
  | nil =>
      refine ⟨⟨[], rfl, rfl, solid_nil, .inl .nil, fun _ => .nil⟩, [], rfl, rfl, solid_nil, ?_,
        fun h => absurd rfl h⟩
      exact .inr ⟨[], [], .nil, List.not_mem_nil, rfl⟩
  | cons c text ih =>
      obtain ⟨hbetween, hcomment⟩ := ih (o + c.utf8Size)
      constructor
      · rw [skipIgnored]
        split
        next hc =>
          -- behind a blank everything is as before it
          exact hbetween.cons (fun g => (Ignored.blank hc .nil).append_trailing) fun g => .blank hc
        next hc =>
          split
          next hpercent =>
            -- the sign is what the comment behind it has as its lead
            subst hpercent
            exact hcomment.cons (fun g hg => hg) fun g hg => hg
          next hpercent =>
            refine ⟨[], rfl, rfl, solid_cons ?_ text, .inl .nil, fun _ => .nil⟩
            simp [isSolid, hc, hpercent]
      · rw [skipIgnored.skipComment]
        split
        next hc =>
          -- the line is over, and with it the comment
          subst hc
          have hline : Ignored ('%' :: ([] ++ ['\n'])) := .comment List.not_mem_nil .nil
          exact hbetween.cons (fun g => hline.append_trailing) fun g => hline.append
        next hc =>
          exact hcomment.cons (fun g => Trailing.comment_cons hc) fun g => Ignored.comment_cons hc

/-! ## The reader that goes over what is ignored -/

theorem readsAs_skip (hg : Ignored g) (hrest : Solid rest) : ReadsAs skip g () rest := by
  intro o furthest
  exact ⟨furthest, by rw [skip, skipIgnored_append hg hrest]⟩

theorem reads_skip_trailing (hg : Trailing g) (o : Nat) :
    Reads skip ⟨g, o⟩ () ⟨[], o + byteLength g⟩ := by
  intro furthest
  exact ⟨furthest, by rw [skip, skipIgnored_trailing hg]⟩

theorem skip_inv (h : Matched skip a () b) :
    ∃ g, Consumed a g b ∧ Solid b.rest ∧ Trailing g ∧ (b.rest ≠ [] → Ignored g) := by
  obtain ⟨furthest, furthest', h⟩ := h
  cases h
  obtain ⟨g, htext, hoffset, hsolid, htrailing, hignored⟩ :=
    (goneOver_skipIgnored a.rest a.offset).1
  exact ⟨g, ⟨htext, hoffset⟩, hsolid, htrailing, hignored⟩

end LinkParsing.Lexicon
