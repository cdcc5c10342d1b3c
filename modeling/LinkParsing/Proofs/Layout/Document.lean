import LinkParsing.Proofs.Layout.LinkGraph
import LinkParsing.Proofs.Layout.Literals
import LinkParsing.Proofs.Layout.Placement

/-!
# Texts do not break PostScript documents

Whatever the texts of words and links are, the lines of a document consist of printable characters
(`printable_of_mem_lines`), so no text adds a line to them (`linesOf_unlines`).  The lines for words
and links are those that begin with a literal, and the literals say what the texts are
(`intact_lines`).
-/

namespace LinkParsing

/-- The lines of a text, each of which has its end. -/
def linesOf (text : String) : List String :=
  ((text.toList.splitOn '\n').dropLast).map String.ofList

/-- A text that is made of lines has these lines. -/
theorem linesOf_unlines {lines : List String} (h : ∀ line ∈ lines, '\n' ∉ line.toList) :
    linesOf (unlines lines) = lines := by
  have hsplit : (unlines lines).toList.splitOn '\n' = lines.map String.toList ++ [[]] := by
    rw [toList_unlines]
    induction lines with
    | nil => rfl
    | cons line lines ih =>
        rw [List.forall_mem_cons] at h
        rw [List.flatMap_cons, List.append_assoc, List.singleton_append,
          List.splitOn_append_cons_self_of_not_mem h.1, ih h.2]
        rfl
  rw [linesOf, hsplit, List.dropLast_concat, List.map_map]
  exact List.map_id'' (fun line => String.ofList_toList) lines

theorem getLast?_unlines {lines : List String} (h : lines ≠ []) :
    (unlines lines).toList.getLast? = some '\n' := by
  obtain ⟨others, line, rfl⟩ := (List.eq_nil_or_concat' lines).resolve_left h
  rw [toList_unlines, List.flatMap_append, List.flatMap_singleton, ← List.append_assoc,
    List.getLast?_concat]

namespace PostScript

open Layout

/-! ## What a reader finds -/

/-- Whether a line begins with a literal. -/
def opensLiteral (line : String) : Bool := line.toList.head? == some '('

/-- Whether a line has the title of a document. -/
def hasTitle (line : String) : Bool := "%%Title: ".toList.isPrefixOf line.toList

/-- A line begins with a literal for the text and ends with the command. -/
def Draws (command text line : String) : Prop :=
  ∃ rest, readLiteral? line.toList = some (Text.bytes text, rest) ∧
    ' ' :: command.toList <:+ rest

/-- A document has one line for each of the words and links in this order, and no other line that
begins with a literal. -/
structure Intact (texts labels : List String) (document : String) : Prop where
  characters : ∀ c ∈ document.toList, c = '\n' ∨ isPrintable c = true
  ended : document.toList.getLast? = some '\n'
  drawing : ∃ words links, (linesOf document).filter opensLiteral = words ++ links ∧
    List.Forall₂ (Draws "word") texts words ∧ List.Forall₂ (Draws "link") labels links
  /-- The number of other lines does not depend on what is drawn. -/
  others : (linesOf document).countP (!opensLiteral ·) = 22
  /-- One line has the title, which says the texts with blanks between them. -/
  title : ∃ title, (linesOf document).filter hasTitle = ["%%Title: " ++ title] ∧
    readEscaped title.toList = (Text.bytes (" ".intercalate texts), [])

variable {layout : Layout} {line : String} {lines : List String}

/-! ## Lines for words and links -/

/-- A line that consists of a literal and what ends with a command draws the text of the literal. -/
theorem draws_of_toList {command text : String} (numbers : List Char) (hline : line.toList =
    '(' :: ((escape text).toList ++ ')' :: (numbers ++ ' ' :: command.toList))) :
    opensLiteral line = true ∧ Draws command text line := by
  rw [opensLiteral, Draws, hline]
  exact ⟨rfl, _, readLiteral?_escape text _, List.suffix_append numbers _⟩

theorem draws_wordLine (w : PlacedWord) :
    opensLiteral (wordLine w) = true ∧ Draws "word" w.text (wordLine w) := by
  apply draws_of_toList s!" {margin + w.start * columnWidth} {wordY}".toList
  simp [wordLine, toString]

theorem draws_linkLine (layout : Layout) (l : PlacedLink) :
    opensLiteral (linkLine layout l) = true ∧ Draws "link" l.label (linkLine layout l) := by
  apply draws_of_toList (s!" {anchorX layout l.left} {anchorX layout l.right} " ++
    s!"{stemY + l.height * rowHeight}").toList
  simp [linkLine, toString]

theorem printable_wordLine (w : PlacedWord) : Printable (wordLine w) := by
  simp only [wordLine, printable_append, and_assoc]
  exact ⟨by decide, printable_escape _, by decide, printable_repr _, by decide, printable_repr _,
    by decide⟩

theorem printable_linkLine (layout : Layout) (l : PlacedLink) :
    Printable (linkLine layout l) := by
  simp only [linkLine, printable_append, and_assoc]
  exact ⟨by decide, printable_escape _, by decide, printable_repr _, by decide, printable_repr _,
    by decide, printable_repr _, by decide⟩

/-- The lines for words and links. -/
def drawing (layout : Layout) : List String :=
  layout.words.map wordLine ++ layout.links.map (linkLine layout)

theorem forall_mem_drawing {P : String → Prop} (hword : ∀ w, P (wordLine w))
    (hlink : ∀ l, P (linkLine layout l)) : ∀ line ∈ drawing layout, P line := by
  intro line hline
  obtain hline | hline := List.mem_append.mp hline
  · obtain ⟨w, -, rfl⟩ := List.mem_map.mp hline
    exact hword w
  · obtain ⟨l, -, rfl⟩ := List.mem_map.mp hline
    exact hlink l

theorem opensLiteral_of_mem_drawing :
    ∀ line ∈ drawing layout, opensLiteral line = true :=
  forall_mem_drawing (fun w => (draws_wordLine w).1) fun l => (draws_linkLine layout l).1

theorem printable_of_mem_drawing : ∀ line ∈ drawing layout, Printable line :=
  forall_mem_drawing printable_wordLine (printable_linkLine layout)

theorem hasTitle_of_opensLiteral (h : opensLiteral line = true) : hasTitle line = false := by
  obtain ⟨rest, hline⟩ := List.head?_eq_some_iff.mp (beq_iff_eq.mp h)
  rw [hasTitle, hline]
  rfl

/-! ## Other lines -/

/-- The line for the title. -/
def titleLine (layout : Layout) : String :=
  let title := " ".intercalate (layout.words.map (·.text))
  s!"%%Title: {escape title}"

theorem hasTitle_titleLine (layout : Layout) : hasTitle (titleLine layout) = true := by
  rw [hasTitle, List.isPrefixOf_iff_prefix, titleLine, String.toList_append]
  exact List.prefix_append _ _

theorem opensLiteral_titleLine (layout : Layout) : opensLiteral (titleLine layout) = false := by
  rw [opensLiteral, titleLine, String.toList_append]
  rfl

theorem printable_titleLine (layout : Layout) : Printable (titleLine layout) :=
  printable_append.mpr ⟨by decide, printable_escape _⟩

/-- A line that neither begins with a literal nor has the title. -/
def Plain (line : String) : Prop :=
  Printable line ∧ opensLiteral line = false ∧ hasTitle line = false

instance : DecidablePred Plain := fun line =>
  inferInstanceAs (Decidable (Printable line ∧ opensLiteral line = false ∧ hasTitle line = false))

theorem plain_bounds (width height : Nat) : Plain s!"%%BoundingBox: 0 0 {width} {height}" := by
  refine ⟨?_, ?_, ?_⟩
  · simp only [printable_append, and_assoc]
    exact ⟨by decide, printable_repr _, by decide, printable_repr _⟩
  · simp only [opensLiteral, String.toList_append, List.append_assoc]
    rfl
  · simp only [hasTitle, String.toList_append, List.append_assoc]
    rfl

/-- The lines between the title and the words. -/
def declarations : List String :=
  ["%%Pages: 1", "%%EndComments", "%%BeginProlog", s!"/STEM {stemY} def"] ++ prolog ++
    ["%%EndProlog", "%%Page: 1 1"]

theorem plain_declarations : ∀ line ∈ declarations, Plain line := by decide +kernel

theorem plain_trailer : ∀ line ∈ trailer, Plain line := by decide

/-! ## The whole document -/

/-- Lines that are neither for words or links nor for the title are plain. -/
theorem exists_lines (layout : Layout) : ∃ before, before.length = 3 ∧
    (∀ line ∈ before, Plain line) ∧ PostScript.lines layout =
      before ++ titleLine layout :: (declarations ++ (drawing layout ++ trailer)) := by
  refine ⟨(header layout).take 3, rfl, ?_, ?_⟩
  · show ∀ line ∈ ["%!PS-Adobe-3.0 EPSF-3.0", s!"%%BoundingBox: 0 0 {_} {_}",
      s!"%%Creator: link-grammar {version}"], Plain line
    simp only [List.forall_mem_cons]
    exact ⟨by decide, plain_bounds _ _, by decide, List.forall_mem_nil _⟩
  · rw [PostScript.lines, drawing, List.append_assoc, List.append_assoc, List.append_assoc]
    rfl

theorem printable_of_mem_lines (hline : line ∈ PostScript.lines layout) : Printable line := by
  obtain ⟨before, -, hbefore, hlines⟩ := exists_lines layout
  rw [hlines, List.mem_append, List.mem_cons, List.mem_append, List.mem_append] at hline
  obtain h | rfl | h | h | h := hline
  · exact (hbefore line h).1
  · exact printable_titleLine layout
  · exact (plain_declarations line h).1
  · exact printable_of_mem_drawing line h
  · exact (plain_trailer line h).1

/-- Plain lines do not begin with literals. -/
theorem filter_opensLiteral (h : ∀ line ∈ lines, Plain line) : lines.filter opensLiteral = [] :=
  List.filter_eq_nil_iff.mpr fun line hline => Bool.eq_false_iff.mp (h line hline).2.1

theorem filter_hasTitle (h : ∀ line ∈ lines, Plain line) : lines.filter hasTitle = [] :=
  List.filter_eq_nil_iff.mpr fun line hline => Bool.eq_false_iff.mp (h line hline).2.2

/-- Just the lines for words and links begin with literals. -/
theorem filter_opensLiteral_lines (layout : Layout) :
    (PostScript.lines layout).filter opensLiteral = drawing layout := by
  obtain ⟨before, -, hbefore, hlines⟩ := exists_lines layout
  have hdrawing : (drawing layout).filter opensLiteral = drawing layout :=
    List.filter_eq_self.mpr opensLiteral_of_mem_drawing
  have htitle := Bool.eq_false_iff.mp (opensLiteral_titleLine layout)
  rw [hlines, List.filter_append, List.filter_cons_of_neg htitle, List.filter_append,
    List.filter_append, filter_opensLiteral hbefore, filter_opensLiteral plain_declarations,
    hdrawing, filter_opensLiteral plain_trailer, List.append_nil]
  rfl

theorem countP_others (layout : Layout) :
    (PostScript.lines layout).countP (!opensLiteral ·) = 22 := by
  obtain ⟨before, hlength, hbefore, hlines⟩ := exists_lines layout
  have hplain {lines : List String} (h : ∀ line ∈ lines, Plain line) :
      lines.countP (!opensLiteral ·) = lines.length :=
    List.countP_eq_length.mpr fun line hline => by
      rw [(h line hline).2.1]
      rfl
  have htitle : (!opensLiteral (titleLine layout)) = true := by
    rw [opensLiteral_titleLine]
    rfl
  have hdrawing : (drawing layout).countP (!opensLiteral ·) = 0 :=
    List.countP_eq_zero.mpr fun line hline => by
      rw [opensLiteral_of_mem_drawing line hline]
      decide
  rw [hlines, List.countP_append,
    List.countP_cons_of_pos (p := fun line => !opensLiteral line) htitle, List.countP_append,
    List.countP_append, hplain hbefore, hplain plain_declarations, hdrawing,
    hplain plain_trailer, hlength]
  rfl

theorem filter_hasTitle_lines (layout : Layout) :
    (PostScript.lines layout).filter hasTitle = [titleLine layout] := by
  obtain ⟨before, -, hbefore, hlines⟩ := exists_lines layout
  have hdrawing : (drawing layout).filter hasTitle = [] :=
    List.filter_eq_nil_iff.mpr fun line hline =>
      Bool.eq_false_iff.mp (hasTitle_of_opensLiteral (opensLiteral_of_mem_drawing line hline))
  rw [hlines, List.filter_append, List.filter_cons_of_pos (hasTitle_titleLine layout),
    List.filter_append, List.filter_append, filter_hasTitle hbefore,
    filter_hasTitle plain_declarations, hdrawing, filter_hasTitle plain_trailer]
  rfl

/-- The document of a layout says what its words and links are. -/
theorem intact_lines (layout : Layout) : Intact (layout.words.map (·.text))
    (layout.links.map (·.label)) (unlines (PostScript.lines layout)) := by
  have hlines : linesOf (unlines (PostScript.lines layout)) = PostScript.lines layout := by
    refine linesOf_unlines fun line hline hnewline => ?_
    exact absurd (printable_iff.mp (printable_of_mem_lines hline) _ hnewline) (by decide)
  constructor
  case characters =>
    intro c hc
    rw [toList_unlines] at hc
    obtain ⟨line, hline, hc⟩ := List.mem_flatMap.mp hc
    obtain hc | hc := List.mem_append.mp hc
    · exact Or.inr (printable_iff.mp (printable_of_mem_lines hline) c hc)
    · exact Or.inl (List.mem_singleton.mp hc)
  case ended =>
    refine getLast?_unlines (List.append_ne_nil_of_right_ne_nil _ ?_)
    exact List.cons_ne_nil _ _
  case drawing =>
    rw [hlines, filter_opensLiteral_lines]
    refine ⟨_, _, rfl, ?_, ?_⟩
    · rw [List.forall₂_map_left_iff, List.forall₂_map_right_iff, List.forall₂_same]
      exact fun w _ => (draws_wordLine w).2
    · rw [List.forall₂_map_left_iff, List.forall₂_map_right_iff, List.forall₂_same]
      exact fun l _ => (draws_linkLine layout l).2
  case others =>
    rw [hlines]
    exact countP_others layout
  case title =>
    rw [hlines, filter_hasTitle_lines]
    refine ⟨_, rfl, ?_⟩
    have hread := readEscaped_escape (" ".intercalate (layout.words.map (·.text))) []
    rw [List.append_nil] at hread
    show readEscaped (escape (" ".intercalate _)).toList = _
    rw [hread]
    show (Text.bytes _ ++ [], []) = _
    rw [List.append_nil]

/-- Whatever linkage is drawn, with its walls or without, no text breaks its document. -/
theorem postscript_intact (linkage : Linkage) (options : Options) :
    ((make linkage options.displayWalls).links.map (·.toArc)).Perm
        (shownArcs options.displayWalls linkage) ∧
      Intact (shownTexts options.displayWalls linkage)
        ((make linkage options.displayWalls).links.map (·.label)) (linkage.postscript options) := by
  refine ⟨map_toArc_make_perm linkage _, ?_⟩
  rw [← map_text_make]
  exact intact_lines (make linkage options.displayWalls)

end PostScript

end LinkParsing
