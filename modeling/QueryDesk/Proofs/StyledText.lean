import QueryDesk.Proofs.FlatText
import QueryDesk.Sql.Highlight

/-!
# Highlighting shows the text

Two cuts of one text meet in a highlighted text: the cut into tokens, each of which has a style, and
the cut into lines. A token may hold line feeds, begin or end with one or be nothing else. Seen
character by character, with each character in its style, this makes no difference: the lines that
are shown are the styled characters of the tokens, cut at the line feeds.
-/
namespace QueryDesk.Sql

open QueryDesk.Screen (Style Span Line)
open QueryDesk.Text (splitLines)

/-- The characters of a token, each in the style of the token's kind. -/
def Token.styled (token : Token) : List (Char × Style) :=
  token.text.map fun c => (c, token.kind.style)

/-- The characters of a line of spans, each in the style of its span. -/
def styledLine (line : Line) : List (Char × Style) :=
  line.flatMap fun span => span.text.toList.map fun c => (c, span.style)

/-- The text of a line of spans. -/
def lineText (line : Line) : List Char := line.flatMap (·.text.toList)

/-- Whether a character is a line feed, whatever its style. -/
def isFeed (shown : Char × Style) : Bool := shown.1 == '\n'

variable {style : Style} {line : Line} {lines : List Line} {piece : List Char}
  {pieces : List (List Char)} {c : Char}

theorem map_fst_styledLine (line : Line) : (styledLine line).map Prod.fst = lineText line := by
  simp [styledLine, lineText, List.map_flatMap, Function.comp_def]

theorem map_fst_styled (tokens : List Token) :
    (tokens.flatMap Token.styled).map Prod.fst = tokens.flatMap Token.text := by
  simp [Token.styled, List.map_flatMap, Function.comp_def]

/-- Text that is cut with its styles is cut as it is without them. -/
theorem map_fst_splitOnP (shown : List (Char × Style)) :
    (shown.splitOnP isFeed).map (List.map Prod.fst) = (shown.map Prod.fst).splitOn '\n' := by
  induction shown with
  | nil => rfl
  | cons first shown ih =>
    rw [List.splitOnP_cons_eq_if_modifyHead, List.map_cons, List.splitOn_cons_eq_if_modifyHead,
      ← ih]
    by_cases hfeed : first.1 = '\n'
    · simp [isFeed, hfeed]
    · obtain ⟨head, tail, hcut⟩ := List.exists_cons_of_ne_nil (List.splitOnP_ne_nil isFeed shown)
      simp [isFeed, hfeed, hcut]

/-! ### Pieces of a token -/

theorem styledLine_append (front back : Line) :
    styledLine (front ++ back) = styledLine front ++ styledLine back := List.flatMap_append

theorem styledLine_pieceSpans (style : Style) (piece : List Char) :
    styledLine (pieceSpans style piece) = piece.map fun c => (c, style) := by
  cases piece <;> simp [styledLine, pieceSpans]

/-- A line feed ends a line before the pieces that follow it. -/
theorem map_styledLine_addPieces_nil (h : pieces ≠ []) :
    (addPieces style lines ([] :: pieces)).map styledLine =
      [] :: (addPieces style lines pieces).map styledLine := by
  obtain ⟨piece, pieces, rfl⟩ := List.exists_cons_of_ne_nil h
  simp [addPieces, styledLine_pieceSpans]

/-- One more character in front of the first piece is one more in the first line. -/
theorem map_styledLine_addPieces_cons (h : lines ≠ []) :
    (addPieces style lines ((c :: piece) :: pieces)).map styledLine =
      ((addPieces style lines (piece :: pieces)).map styledLine).modifyHead ((c, style) :: ·) := by
  cases pieces with
  | nil =>
    obtain ⟨line, lines, rfl⟩ := List.exists_cons_of_ne_nil h
    simp [addPieces, prepend, styledLine_append, styledLine_pieceSpans]
  | cons next pieces => simp [addPieces, styledLine_pieceSpans]

theorem map_styledLine_addPieces (h : lines ≠ []) (shown : List (Char × Style))
    (hlines : lines.map styledLine = shown.splitOnP isFeed) (cs : List Char) :
    (addPieces style lines (splitLines cs)).map styledLine =
      (cs.map (fun c => (c, style)) ++ shown).splitOnP isFeed := by
  induction cs with
  | nil =>
    obtain ⟨line, lines, rfl⟩ := List.exists_cons_of_ne_nil h
    simpa [splitLines, addPieces, prepend, pieceSpans] using hlines
  | cons c cs ih =>
    rw [List.map_cons, List.cons_append, List.splitOnP_cons_eq_if_modifyHead, ← ih, splitLines,
      List.splitOn_cons_eq_if_modifyHead, ← splitLines]
    have hsome : splitLines cs ≠ [] := List.splitOn_ne_nil _ _
    by_cases hfeed : c = '\n'
    · simp [isFeed, hfeed, map_styledLine_addPieces_nil hsome]
    · obtain ⟨piece, pieces, hcut⟩ := List.exists_cons_of_ne_nil hsome
      simp [isFeed, hfeed, hcut, map_styledLine_addPieces_cons h]

/-! ### Spans -/

/-- Spans with something in them, and no line feed in it. -/
def Tidy (line : Line) : Prop := ∀ span ∈ line, span.text ≠ "" ∧ '\n' ∉ span.text.toList

theorem Tidy.append {front back : Line} (hfront : Tidy front) (hback : Tidy back) :
    Tidy (front ++ back) := fun span hspan =>
  (List.mem_append.1 hspan).elim (hfront span) (hback span)

theorem tidy_pieceSpans (h : '\n' ∉ piece) : Tidy (pieceSpans style piece) := by
  intro span hspan
  cases piece with
  | nil => simp [pieceSpans] at hspan
  | cons c piece =>
    obtain rfl : span = _ := by simpa [pieceSpans] using hspan
    exact ⟨by simp [← String.toList_inj], by simpa using h⟩

theorem tidy_addPieces (hlines : ∀ line ∈ lines, Tidy line)
    (hpieces : ∀ piece ∈ pieces, '\n' ∉ piece) :
    ∀ line ∈ addPieces style lines pieces, Tidy line := by
  fun_induction addPieces style lines pieces with
  | case1 => exact hlines
  | case2 piece =>
    have hpiece : Tidy (pieceSpans style piece) := tidy_pieceSpans (hpieces piece (by simp))
    cases lines with
    | nil => simpa [prepend] using hpiece
    | cons line lines =>
      obtain ⟨hline, hlater⟩ := List.forall_mem_cons.1 hlines
      exact List.forall_mem_cons.2 ⟨hpiece.append hline, hlater⟩
  | case3 piece pieces hmore ih =>
    obtain ⟨hpiece, hlater⟩ := List.forall_mem_cons.1 hpieces
    exact List.forall_mem_cons.2 ⟨tidy_pieceSpans hpiece, ih hlater⟩

/-! ### The lines of a text -/

/-- The styled lines of some tokens are their styled characters, cut at the line feeds. -/
theorem map_styledLine_tokenLines (tokens : List Token) :
    (tokenLines tokens).map styledLine = (tokens.flatMap Token.styled).splitOnP isFeed := by
  induction tokens with
  | nil => rfl
  | cons token tokens ih =>
    have hlines : tokenLines tokens ≠ [] := by
      intro hnil
      rw [hnil] at ih
      exact List.splitOnP_ne_nil _ _ ih.symm
    exact map_styledLine_addPieces hlines _ ih token.text

theorem tidy_tokenLines (tokens : List Token) : ∀ line ∈ tokenLines tokens, Tidy line := by
  induction tokens with
  | nil => simp [tokenLines, Tidy]
  | cons token tokens ih => exact tidy_addPieces ih (Editor.not_mem_splitLines token.text)

theorem map_lineText_highlight (text : String) :
    (highlight text).map lineText = text.toList.splitOn '\n' := by
  calc
    (highlight text).map lineText
        = ((highlight text).map styledLine).map (List.map Prod.fst) := by
      rw [List.map_map]
      exact List.map_congr_left fun line _ => (map_fst_styledLine line).symm
    _ = (((tokenize text.toList).flatMap Token.styled).splitOnP isFeed).map (List.map Prod.fst) :=
      congrArg _ (map_styledLine_tokenLines _)
    _ = text.toList.splitOn '\n' := by
      rw [map_fst_splitOnP, map_fst_styled, flatMap_text_tokenize]

/-- A highlighted text has a line for each piece between its line feeds, with the text of that
piece. No span is empty or goes over a line feed, and each character is in the style of the kind of
the token that it belongs to: the styled lines are the styled characters of all tokens, cut at the
line feeds. -/
theorem highlight_shows_text (text : String) :
    (highlight text).map lineText = text.toList.splitOn '\n' ∧
      (∀ line ∈ highlight text, ∀ span ∈ line,
        span.text ≠ "" ∧ '\n' ∉ span.text.toList) ∧
      (highlight text).map styledLine =
        ((tokenize text.toList).flatMap Token.styled).splitOnP isFeed :=
  ⟨map_lineText_highlight text, tidy_tokenLines _, map_styledLine_tokenLines _⟩

/-- A string over two lines is in the style of strings on both of them, and the line feed at the end
of the text begins an empty line. -/
theorem string_styled_on_both_lines :
    let text := "'a\nb' --\n"
    let later : Line := [⟨"b'", .ink .green⟩, ⟨" ", .plain⟩, ⟨"--", .ink .darkGray⟩]
    highlight text = [[⟨"'a", .ink .green⟩], later, []] ∧
    later ∈ highlight text ∧ (∀ span ∈ later, span.text ≠ "" ∧ '\n' ∉ span.text.toList) ∧
    (highlight text).map lineText = ["'a".toList, "b' --".toList, []] := by
  intro text later
  obtain ⟨htexts, htidy, -⟩ := highlight_shows_text text
  have hlines : highlight text = [[⟨"'a", .ink .green⟩], later, []] := by
    simp only [text, later]
    decide +kernel
  have hlater : later ∈ highlight text := by
    rw [hlines]
    exact List.mem_cons_of_mem _ List.mem_cons_self
  exact ⟨hlines, hlater, htidy later hlater, htexts.trans (by decide)⟩

end QueryDesk.Sql
