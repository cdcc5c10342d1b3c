import LinkParsing.Proofs.Lexicon.Chains
import LinkParsing.Proofs.Lexicon.Lexemes

/-!
# Which texts are formulas

`Spelled` lists the ways to write a unit, units joined by `&` and conjunctions joined by `or`.
It knows nothing of depths and of the order in which readers are tried.

The readers of formulas read the texts that are so written, up to whatever may stand behind
them (`Spelled.readable`), and no others (`formula_inv`).
-/

namespace LinkParsing.Lexicon

open Reader

/-- The brackets that stand around a whole formula. -/
inductive Bracket where
  | group
  | optional
  | cost

namespace Bracket

def opening : Bracket → Char
  | group => '('
  | optional => '{'
  | cost => '['

def closing : Bracket → Char
  | group => ')'
  | optional => '}'
  | cost => ']'

/-- What the brackets make of the formula between them. -/
def wrap : Bracket → Formula → Formula
  | group => id
  | optional => .optional
  | cost => .cost

end Bracket

/-- What the text of a formula is made of, with what it stands for. -/
inductive Phrase where
  | unit (f : Formula)
  | conjunction (units : List Formula)
  | disjunction (conjunctions : List Formula)

/-- A text is one way to write a phrase. -/
inductive Spelled : Phrase → List Char → Prop where
  | connector {c : Connector} (hc : c.WellFormed) : Spelled (.unit (.connector c)) c.toChars
  | empty {g : List Char} (hg : Ignored g) : Spelled (.unit .empty) ('(' :: (g ++ [')']))
  | bracketed (k : Bracket) {g t g' : List Char} {conjunctions : List Formula} (hg : Ignored g)
      (h : Spelled (.disjunction conjunctions) t) (hg' : Ignored g') :
      Spelled (.unit (k.wrap (joinItems .or conjunctions)))
        (k.opening :: (g ++ (t ++ (g' ++ [k.closing]))))
  | macroRef {t : List Char} (ht : Delimited '<' '>' isMacroChar t) :
      Spelled (.unit (.macroRef (String.ofList t))) t
  | lastUnit {f : Formula} {t : List Char} (h : Spelled (.unit f) t) :
      Spelled (.conjunction [f]) t
  | furtherUnits {f : Formula} {units : List Formula} {t g g' u : List Char}
      (h : Spelled (.unit f) t) (hg : Ignored g) (hg' : Ignored g')
      (hrest : Spelled (.conjunction units) u) :
      Spelled (.conjunction (f :: units)) (t ++ (g ++ '&' :: (g' ++ u)))
  | lastConjunction {units : List Formula} {t : List Char} (h : Spelled (.conjunction units) t) :
      Spelled (.disjunction [joinItems .and units]) t
  | furtherConjunctions {units conjunctions : List Formula} {t g g' u : List Char}
      (h : Spelled (.conjunction units) t) (hg : Ignored g) (hg' : Ignored g')
      (hrest : Spelled (.disjunction conjunctions) u) :
      Spelled (.disjunction (joinItems .and units :: conjunctions))
        (t ++ (g ++ 'o' :: 'r' :: (g' ++ u)))

/-- A text is one way to write a formula. -/
def FormulaText (f : Formula) (t : List Char) : Prop :=
  ∃ conjunctions, f = joinItems .or conjunctions ∧ Spelled (.disjunction conjunctions) t

variable {f : Formula} {p : Phrase} {t rest : List Char} {inner : Reader Formula} {a b : Place}

/-! ## How formulas begin -/

/-- The characters that the text of a formula may begin with. -/
def isUnitStart (x : Char) : Bool :=
  x == '@' || Connector.isHeadChar x || x == '(' || x == '{' || x == '[' || x == '<'

theorem isSolid_of_isUnitStart {x : Char} (h : isUnitStart x = true) : isSolid x = true := by
  have hnot : ∀ y, isUnitStart y = false → x ≠ y := by
    rintro y hy rfl
    rw [h] at hy
    cases hy
  simp [isSolid, isBlank, hnot ' ' (by decide), hnot '\t' (by decide), hnot '\r' (by decide),
    hnot '\n' (by decide), hnot '%' (by decide)]

theorem exists_start_toChars {c : Connector} (hc : c.WellFormed) :
    ∃ x u, c.toChars = x :: u ∧ (x = '@' ∨ Connector.isHeadChar x = true) := by
  obtain ⟨hne, hhead, -⟩ := hc
  obtain ⟨x, xs, hx, hupper⟩ := exists_cons_of_all hne hhead
  unfold Connector.toChars Connector.nameChars
  rw [hx]
  cases c.multi with
  | true => exact ⟨'@', _, rfl, .inl rfl⟩
  | false => exact ⟨x, _, rfl, .inr hupper⟩

theorem Spelled.exists_start (h : Spelled p t) : ∃ x u, t = x :: u ∧ isUnitStart x = true := by
  induction h with
  | connector hc =>
      obtain ⟨x, u, heq, hx⟩ := exists_start_toChars hc
      refine ⟨x, u, heq, ?_⟩
      rcases hx with rfl | hx
      · decide
      · simp [isUnitStart, hx]
  | empty hg => exact ⟨_, _, rfl, by decide⟩
  | bracketed k hg h hg' => exact ⟨_, _, rfl, by cases k <;> decide⟩
  | macroRef ht =>
      obtain ⟨body, -, -, rfl⟩ := ht
      exact ⟨_, _, rfl, by decide⟩
  | lastUnit h ih | lastConjunction h ih => exact ih
  | furtherUnits h hg hg' hrest ih | furtherConjunctions h hg hg' hrest ih =>
      obtain ⟨x, u, rfl, hx⟩ := ih
      exact ⟨x, _, rfl, hx⟩

theorem Spelled.begins (h : Spelled p t) : Begins t := by
  obtain ⟨x, u, rfl, hx⟩ := h.exists_start
  exact ⟨x, u, rfl, isSolid_of_isUnitStart hx⟩

theorem FormulaText.begins (h : FormulaText f t) : Begins t := by
  obtain ⟨conjunctions, rfl, h⟩ := h
  exact h.begins

/-! ## Reading units -/

theorem readsAs_connector {c : Connector} (hc : c.WellFormed) (rest : List Char) :
    ReadsAs connector c.toChars (.connector c) rest := by
  have hscan : scanConnector (c.toChars ++ rest) = some (c.toChars, rest) :=
    scanConnector_eq_some_iff.mpr ⟨c, hc, rfl, rfl⟩
  have hread : Connector.ofChars? c.toChars = some c :=
    Connector.ofChars?_eq_some_iff.mpr ⟨hc, rfl⟩
  intro o
  refine ((reads_here _).bind ((readsAs_lexeme hscan o).bind ?_)).named _
  rw [hread]
  exact reads_pure _ _

theorem fails_connector {x : Char} (hx : x ∈ ['(', '{', '[', '<']) (rest : List Char) (o : Nat) :
    Fails connector ⟨x :: rest, o⟩ := by
  have hscan : scanConnector (x :: rest) = none := by
    by_contra hne
    obtain ⟨⟨t, rest'⟩, hsome⟩ := Option.ne_none_iff_exists'.mp hne
    obtain ⟨c, hc, rfl, htext⟩ := scanConnector_eq_some_iff.mp hsome
    obtain ⟨y, u, hu, hy⟩ := exists_start_toChars hc
    rw [hu, List.cons_append] at htext
    obtain ⟨rfl, -⟩ := List.cons.inj htext
    simp only [List.mem_cons, List.not_mem_nil, or_false] at hx
    rcases hx with rfl | rfl | rfl | rfl <;> exact absurd hy (by decide)
  exact ((fails_lexeme hscan).bind_left.bind_right (reads_here _)).named _

theorem readsAs_emptyFormula {g : List Char} (hg : Ignored g) (rest : List Char) :
    ReadsAs emptyFormula ('(' :: (g ++ [')'])) .empty rest := by
  have hskip : ReadsAs skip g () ([')'] ++ rest) := readsAs_skip hg (solid_cons (by decide) rest)
  have hclosing := (readsAs_symbol ')' rest).bind_pure fun _ => Formula.empty
  exact ((readsAs_symbol '(' _).next (hskip.next hclosing)).named _

/-- What begins a formula does not end an empty one. -/
theorem fails_emptyFormula {g u : List Char} (hg : Ignored g) (h : Spelled p t) (o : Nat) :
    Fails emptyFormula ⟨'(' :: (g ++ (t ++ u)), o⟩ := by
  obtain ⟨x, w, rfl, hx⟩ := h.exists_start
  have hclosing : x ≠ ')' := by
    rintro rfl
    exact absurd hx (by decide)
  have hsolid : Solid (x :: w ++ u) := solid_cons (isSolid_of_isUnitStart hx) _
  have hfails : ∀ o, Fails (symbol ')') ⟨x :: w ++ u, o⟩ :=
    fun o => fails_symbol (by simpa using hclosing)
  refine (Fails.bind_right (readsAs_symbol '(' _ o) ?_).named _
  exact .bind_right (readsAs_skip hg hsolid _) (hfails _).bind_left

theorem fails_emptyFormula_of_ne {x : Char} (hx : x ≠ '(') (rest : List Char) (o : Nat) :
    Fails emptyFormula ⟨x :: rest, o⟩ := (fails_symbol (by simpa using hx)).bind_left.named _

theorem fails_enclosed {x opening closing : Char} (hx : x ≠ opening) (rest : List Char) (o : Nat) :
    Fails (enclosed opening closing inner) ⟨x :: rest, o⟩ :=
  (fails_symbol (by simpa using hx)).bind_left

theorem readsAs_enclosed {opening closing : Char} {g g' : List Char} (hg : Ignored g)
    (hg' : Ignored g') (hsolid : ∀ u, Solid (t ++ u)) (hclosing : isSolid closing = true)
    (hinner : ReadsAs inner t f (g' ++ closing :: rest)) :
    ReadsAs (enclosed opening closing inner) (opening :: (g ++ (t ++ (g' ++ [closing])))) f
      rest := by
  have hskip : ReadsAs skip g' () ([closing] ++ rest) := readsAs_skip hg' (solid_cons hclosing rest)
  have hend := hskip.next ((readsAs_symbol closing rest).bind_pure fun _ => f)
  have hinner' : ReadsAs inner t f (g' ++ [closing] ++ rest) := by
    rwa [List.append_assoc, List.singleton_append]
  exact (readsAs_symbol opening _).next
    ((readsAs_skip hg (by rw [List.append_assoc]; exact hsolid _)).next (hinner'.bind hend))

/-- The readers of the three kinds of brackets are tried in turn, behind those of connectors and
of the empty formula. -/
theorem readsAs_bracketed (k : Bracket) {g g' : List Char} (hg : Ignored g) (hg' : Ignored g')
    (h : Spelled p t) (hinner : ReadsAs inner t f (g' ++ k.closing :: rest)) :
    ReadsAs (unit inner) (k.opening :: (g ++ (t ++ (g' ++ [k.closing])))) (k.wrap f) rest := by
  have hsolid : isSolid k.closing = true := by cases k <;> decide
  have hopening : k.opening ∈ ['(', '{', '[', '<'] := by cases k <;> decide
  have henclosed : ReadsAs (enclosed k.opening k.closing inner)
      (k.opening :: (g ++ (t ++ (g' ++ [k.closing])))) f rest :=
    readsAs_enclosed hg hg' h.begins.solid hsolid hinner
  refine .orElse_right (fun o => fails_connector hopening _ o) ?_
  cases k with
  | group =>
      have hempty (o : Nat) :
          Fails emptyFormula ⟨'(' :: (g ++ (t ++ (g' ++ [')'])) ++ rest), o⟩ := by
        rw [List.append_assoc, List.append_assoc]
        exact fails_emptyFormula hg h o
      exact .orElse_right hempty (henclosed.named _).orElse_left
  | optional =>
      refine .orElse_right (fun o => fails_emptyFormula_of_ne (by decide) _ o) ?_
      refine .orElse_right (fun o => (fails_enclosed (by decide) _ o).named _) ?_
      exact ((henclosed.bind_pure Formula.optional).named _).orElse_left
  | cost =>
      refine .orElse_right (fun o => fails_emptyFormula_of_ne (by decide) _ o) ?_
      refine .orElse_right (fun o => (fails_enclosed (by decide) _ o).named _) ?_
      refine .orElse_right (fun o => (fails_enclosed (by decide) _ o).bind_left.named _) ?_
      exact ((henclosed.bind_pure Formula.cost).named _).orElse_left

theorem readsAs_macroRef (ht : Delimited '<' '>' isMacroChar t) (rest : List Char) :
    ReadsAs (unit inner) t (.macroRef (String.ofList t)) rest := by
  have hscan : scanMacro (t ++ rest) = some (t, rest) := scanMacro_eq_some_iff.mpr ⟨ht, rfl⟩
  have hread := ((readsAs_lexeme hscan).bind_pure fun t => Formula.macroRef (String.ofList t)).named
    .macroRef
  obtain ⟨body, -, -, rfl⟩ := ht
  refine .orElse_right (fun o => fails_connector (by decide) _ o) ?_
  refine .orElse_right (fun o => fails_emptyFormula_of_ne (by decide) _ o) ?_
  refine .orElse_right (fun o => (fails_enclosed (by decide) _ o).named _) ?_
  refine .orElse_right (fun o => (fails_enclosed (by decide) _ o).bind_left.named _) ?_
  exact .orElse_right (fun o => (fails_enclosed (by decide) _ o).bind_left.named _) hread

/-! ## Reading whole formulas -/

/-- What ends a formula. -/
def afterFormula : List Char := [')', '}', ']', ';']

/-- How the text of a phrase is read, however deep the readers of inner formulas go, as long as
the text leaves them the room. -/
def Readable : Phrase → List Char → Prop
  | .unit f, t => ∀ n rest, t.length ≤ n → ReadsAs (unit (formulaWithin n)) t f rest
  | .conjunction units, t => ∀ n rest, t.length ≤ n → Behind ('o' :: afterFormula) rest →
      ChainedAs (unit (formulaWithin n)) (symbol '&') t units rest
  | .disjunction conjunctions, t => ∀ n rest, t.length ≤ n → Behind afterFormula rest →
      ChainedAs (conjunction (formulaWithin n)) (symbols ['o', 'r']) t conjunctions rest

theorem fails_and {x : Char} (hx : x ∈ 'o' :: afterFormula) (u : List Char) (o : Nat) :
    Fails (symbol '&') ⟨x :: u, o⟩ := by
  apply fails_symbol
  rintro hand
  obtain rfl : x = '&' := by simpa using hand
  exact absurd hx (by decide)

theorem fails_or {x : Char} (hx : x ∈ afterFormula) (u : List Char) (o : Nat) :
    Fails (symbols ['o', 'r']) ⟨x :: u, o⟩ := by
  refine (fails_symbol ?_).bind_left
  rintro hor
  obtain rfl : x = 'o' := by simpa using hor
  exact absurd hx (by decide)

theorem readsAs_conjunction {units : List Formula}
    (h : ChainedAs (unit inner) (symbol '&') t units rest) :
    ReadsAs (conjunction inner) t (joinItems .and units) rest :=
  (h.reads.bind_pure (joinItems .and)).named _

theorem readsAs_disjunction {conjunctions : List Formula}
    (h : ChainedAs (conjunction inner) (symbols ['o', 'r']) t conjunctions rest) :
    ReadsAs (disjunction inner) t (joinItems .or conjunctions) rest :=
  (h.reads.bind_pure (joinItems .or)).named _

/-- What is behind a conjunction that is not the last one. -/
theorem behind_or {g u : List Char} (hg : Ignored g) :
    Behind ('o' :: afterFormula) (g ++ (['o', 'r'] ++ u)) :=
  ⟨g, 'o', 'r' :: u, hg, by decide, List.mem_cons_self, rfl⟩

theorem Spelled.readable (h : Spelled p t) : Readable p t := by
  -- on the way the text is written, with every depth that its length allows for
  induction h with
  | connector hc => exact fun n rest _ => (readsAs_connector hc rest).orElse_left
  | @empty g hg =>
      intro n rest _
      refine .orElse_right (fun o => fails_connector (by decide) _ o) ?_
      exact (readsAs_emptyFormula hg rest).orElse_left
  | @bracketed k g t g' conjunctions hg h hg' ih =>
      intro n rest hn
      simp only [List.length_cons, List.length_append] at hn
      -- the brackets leave their inside one level less and two characters fewer
      obtain ⟨m, rfl⟩ : ∃ m, n = m + 1 := ⟨n - 1, by omega⟩
      have hbehind : Behind afterFormula (g' ++ k.closing :: rest) :=
        ⟨g', k.closing, rest, hg', by cases k <;> decide, by cases k <;> decide, rfl⟩
      have hinner := readsAs_disjunction (ih m _ (by omega) hbehind)
      exact readsAs_bracketed k hg hg' h hinner
  | macroRef ht => exact fun n rest _ => readsAs_macroRef ht rest
  | lastUnit h ih =>
      intro n rest hn hbehind
      exact .last (ih n rest hn) h.begins.length_pos (hbehind.fails fun x hx => fails_and hx)
  | @furtherUnits f units t g g' u h hg hg' hrest ih ihrest =>
      intro n rest hn hbehind
      simp only [List.length_append, List.length_cons] at hn
      exact .further (j := ['&']) (ih n _ (by omega)) h.begins.length_pos hg
        (solid_cons (by decide) _) (readsAs_symbol '&' _) hg' (hrest.begins.solid rest)
        (ihrest n rest (by omega) hbehind)
  | lastConjunction h ih =>
      intro n rest hn hbehind
      -- what ends a formula ends its last conjunction
      have hread := readsAs_conjunction (ih n rest hn (hbehind.mono (List.subset_cons_self _ _)))
      exact .last hread h.begins.length_pos (hbehind.fails fun x hx => fails_or hx)
  | @furtherConjunctions units conjunctions t g g' u h hg hg' hrest ih ihrest =>
      intro n rest hn hbehind
      simp only [List.length_append, List.length_cons] at hn
      have hbehind' := behind_or (u := g' ++ (u ++ rest)) hg
      have hread := readsAs_conjunction (ih n _ (by omega) hbehind')
      exact .further (j := ['o', 'r']) hread h.begins.length_pos hg (solid_cons (by decide) _)
        (readsAs_symbols ['o', 'r'] _) hg' (hrest.begins.solid rest)
        (ihrest n rest (by omega) hbehind)

theorem FormulaText.readsAs (h : FormulaText f t) (hbehind : Behind afterFormula rest) :
    ReadsAs formula t f rest := by
  obtain ⟨conjunctions, rfl, h⟩ := h
  intro o furthest
  have hroom : t.length ≤ (t ++ rest).length := by
    rw [List.length_append]
    omega
  exact readsAs_disjunction (h.readable _ rest hroom hbehind) o furthest

/-! ## What has been read is the text of a formula -/

theorem connector_inv (h : Matched connector a f b) :
    ∃ c : Connector, c.WellFormed ∧ f = .connector c ∧ Consumed a c.toChars b := by
  obtain ⟨_, _, hhere, hread⟩ := bind_inv (named_inv h)
  obtain ⟨rfl, rfl⟩ := here_inv hhere
  obtain ⟨t, _, hlexeme, hread⟩ := bind_inv hread
  obtain ⟨rest, hscan, rfl⟩ := lexeme_inv hlexeme
  obtain ⟨c, hc, rfl, htext⟩ := scanConnector_eq_some_iff.mp hscan
  rw [Connector.ofChars?_eq_some_iff.mpr ⟨hc, rfl⟩] at hread
  obtain ⟨rfl, rfl⟩ := pure_inv hread
  exact ⟨c, hc, rfl, htext, rfl⟩

theorem emptyFormula_inv (h : Matched emptyFormula a f b) :
    ∃ g, f = .empty ∧ Ignored g ∧ Consumed a ('(' :: (g ++ [')'])) b := by
  obtain ⟨_, _, hopening, h⟩ := bind_inv (named_inv h)
  obtain ⟨_, _, hskip, h⟩ := bind_inv h
  obtain ⟨_, _, hclosing, h⟩ := bind_inv h
  obtain ⟨rfl, rfl⟩ := pure_inv h
  have hclosing := symbol_inv hclosing
  obtain ⟨g, hg, hignored⟩ := skip_inv_of_consumed hskip hclosing (List.cons_ne_nil _ _)
  exact ⟨g, rfl, hignored, (symbol_inv hopening).trans (hg.trans hclosing)⟩

theorem macroRef_inv (h : Matched macroReference a f b) :
    ∃ t, f = .macroRef (String.ofList t) ∧ Delimited '<' '>' isMacroChar t ∧ Consumed a t b := by
  obtain ⟨t, _, hlexeme, h⟩ := bind_inv (named_inv h)
  obtain ⟨rfl, rfl⟩ := pure_inv h
  obtain ⟨rest, hscan, rfl⟩ := lexeme_inv hlexeme
  obtain ⟨ht, htext⟩ := scanMacro_eq_some_iff.mp hscan
  exact ⟨t, rfl, ht, htext, rfl⟩

/-- Whatever the reader has read is the text of the formula it gives. -/
def ReadsFormulas (inner : Reader Formula) : Prop :=
  ∀ ⦃a f b⦄, Matched inner a f b → ∃ t, Consumed a t b ∧ FormulaText f t

theorem enclosed_inv (hinner : ReadsFormulas inner) (k : Bracket)
    (h : Matched (enclosed k.opening k.closing inner) a f b) :
    ∃ t, Consumed a t b ∧ Spelled (.unit (k.wrap f)) t := by
  obtain ⟨_, _, hopening, h⟩ := bind_inv h
  obtain ⟨_, _, hbefore, h⟩ := bind_inv h
  obtain ⟨_, _, hinside, h⟩ := bind_inv h
  obtain ⟨_, _, hbehind, h⟩ := bind_inv h
  obtain ⟨_, _, hclosing, h⟩ := bind_inv h
  obtain ⟨rfl, rfl⟩ := pure_inv h
  have hclosing := symbol_inv hclosing
  obtain ⟨t, ht, conjunctions, rfl, htext⟩ := hinner hinside
  obtain ⟨g, hg, hignored⟩ := skip_inv_of_consumed hbefore ht htext.begins.ne_nil
  obtain ⟨g', hg', hignored'⟩ := skip_inv_of_consumed hbehind hclosing (List.cons_ne_nil _ _)
  have hconsumed := (symbol_inv hopening).trans (hg.trans (ht.trans (hg'.trans hclosing)))
  exact ⟨_, hconsumed, .bracketed k hignored htext hignored'⟩

theorem unit_inv (hinner : ReadsFormulas inner) (h : Matched (unit inner) a f b) :
    ∃ t, Consumed a t b ∧ Spelled (.unit f) t := by
  -- whichever reader has matched, its text is one of the ways to write a unit
  rcases orElse_inv h with h | h
  · obtain ⟨c, hc, rfl, ht⟩ := connector_inv h
    exact ⟨_, ht, .connector hc⟩
  rcases orElse_inv h with h | h
  · obtain ⟨g, rfl, hg, ht⟩ := emptyFormula_inv h
    exact ⟨_, ht, .empty hg⟩
  rcases orElse_inv h with h | h
  · exact enclosed_inv hinner .group (named_inv h)
  rcases orElse_inv h with h | h
  · obtain ⟨f, _, h, hpure⟩ := bind_inv (named_inv h)
    obtain ⟨rfl, rfl⟩ := pure_inv hpure
    exact enclosed_inv hinner .optional h
  rcases orElse_inv h with h | h
  · obtain ⟨f, _, h, hpure⟩ := bind_inv (named_inv h)
    obtain ⟨rfl, rfl⟩ := pure_inv hpure
    exact enclosed_inv hinner .cost h
  · obtain ⟨t, rfl, hdelimited, ht⟩ := macroRef_inv h
    exact ⟨t, ht, .macroRef hdelimited⟩

theorem units_inv (hinner : ReadsFormulas inner) {units : List Formula}
    (h : ChainMatched (unit inner) (symbol '&') a units b) :
    ∃ t, Consumed a t b ∧ Spelled (.conjunction units) t := by
  induction h with
  | last h =>
      obtain ⟨t, ht, hunit⟩ := unit_inv hinner h
      exact ⟨t, ht, .lastUnit hunit⟩
  | further h hbefore hjoint hbehind _ ih =>
      obtain ⟨t, ht, hunit⟩ := unit_inv hinner h
      obtain ⟨u, hu, hunits⟩ := ih
      obtain ⟨g, g', hg, hg', hrest⟩ := between_inv hbefore (symbol_inv hjoint)
        (List.cons_ne_nil _ _) hbehind hu hunits.begins.ne_nil
      have hspelled := Spelled.furtherUnits hunit hg hg' hunits
      exact ⟨_, ht.trans hrest, hspelled⟩

theorem conjunction_inv (hinner : ReadsFormulas inner) (h : Matched (conjunction inner) a f b) :
    ∃ t units, Consumed a t b ∧ f = joinItems .and units ∧ Spelled (.conjunction units) t := by
  obtain ⟨units, _, h, hpure⟩ := bind_inv (named_inv h)
  obtain ⟨rfl, rfl⟩ := pure_inv hpure
  obtain ⟨t, ht, hunits⟩ := units_inv hinner (chain_inv h)
  exact ⟨t, units, ht, rfl, hunits⟩

theorem conjunctions_inv (hinner : ReadsFormulas inner) {conjunctions : List Formula}
    (h : ChainMatched (conjunction inner) (symbols ['o', 'r']) a conjunctions b) :
    ∃ t, Consumed a t b ∧ Spelled (.disjunction conjunctions) t := by
  induction h with
  | last h =>
      obtain ⟨t, units, ht, rfl, hunits⟩ := conjunction_inv hinner h
      exact ⟨t, ht, .lastConjunction hunits⟩
  | further h hbefore hjoint hbehind _ ih =>
      obtain ⟨t, units, ht, rfl, hunits⟩ := conjunction_inv hinner h
      obtain ⟨u, hu, hconjunctions⟩ := ih
      obtain ⟨g, g', hg, hg', hrest⟩ := between_inv hbefore (symbols_inv hjoint)
        (List.cons_ne_nil _ _) hbehind hu hconjunctions.begins.ne_nil
      have hspelled := Spelled.furtherConjunctions hunits hg hg' hconjunctions
      exact ⟨_, ht.trans hrest, hspelled⟩

theorem readsFormulas_formulaWithin (n : Nat) : ReadsFormulas (formulaWithin n) := by
  induction n with
  | zero =>
      rintro a f b ⟨furthest, furthest', h⟩
      cases h
  | succ n ih =>
      intro a f b h
      obtain ⟨conjunctions, _, h, hpure⟩ := bind_inv (named_inv h)
      obtain ⟨rfl, rfl⟩ := pure_inv hpure
      obtain ⟨t, ht, hconjunctions⟩ := conjunctions_inv ih (chain_inv h)
      exact ⟨t, ht, conjunctions, rfl, hconjunctions⟩

theorem formula_inv (h : Matched formula a f b) : ∃ t, Consumed a t b ∧ FormulaText f t := by
  obtain ⟨furthest, furthest', h⟩ := h
  exact readsFormulas_formulaWithin _ ⟨furthest, furthest', h⟩

end LinkParsing.Lexicon
