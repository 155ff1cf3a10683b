import Quartet.Proofs.Text.Lines

namespace Quartet

open Text

/-!
# Line breaks

A text may be taken apart into lines first and the lines into words, or into words at once.  The
words are the same: every line break is a blank, and so is a carriage return before it.

* `Text.lines` — the lines of a text, without the characters that end them.
* `Token.ofText_eq_lines` — the tokens of a text, line by line.
* `Token.map_text_ofChars` — the tokens of a text are its words.
* `Token.pairwise_ofLines` — lines are counted upwards.
-/

namespace Text

/-! ### Lines -/

/-- What stands on a line before its line feed, without a carriage return at its end. -/
def withoutReturn (line : List Char) : List Char :=
  if line.getLast? = some '\r' then line.dropLast else line

/-- The lines of a text.  A line ends with a line feed, or with a carriage return and a line feed.
    The last line may lack its end; then a carriage return belongs to it.  There is no empty line
    behind the last line feed. -/
def lines (chars : List Char) : List (List Char) :=
  let rows := pieces (· == '\n') chars
  rows.dropLast.map withoutReturn ++ rows.getLast?.toList.filter (!·.isEmpty)

/-- A carriage return at the end of a line belongs to no word. -/
theorem words_withoutReturn (line : List Char) :
    words isBlank (withoutReturn line) = words isBlank line := by
  rw [withoutReturn]
  split
  · next h =>
    obtain ⟨init, rfl⟩ := List.getLast?_eq_some_iff.mp h
    rw [List.dropLast_concat, words_append_cons (by decide)]
    exact (List.append_nil _).symm
  · rfl

end Text

namespace Token

/-- Lines may be taken with the carriage returns before their ends or without them. -/
theorem ofLines_map_withoutReturn (line : Nat) (rows : List (List Char)) :
    ofLines line (rows.map withoutReturn) = ofLines line rows := by
  induction rows generalizing line with
  | nil => rfl
  | cons row rest ih =>
    rw [List.map_cons, ofLines_cons, ofLines_cons, ih, ofLine, ofLine, words_withoutReturn]

/-- A line without characters has no tokens. -/
theorem ofLines_filter_singleton (line : Nat) (row : List Char) :
    ofLines line ([row].filter (!·.isEmpty)) = ofLines line [row] := by
  cases row <;> rfl

/-- The tokens of a text are those of its lines, one after the other. -/
theorem ofText_eq_lines (text : String) :
    ofText text = ((Text.lines text.toList).zipIdx 1).flatMap fun (chars, line) =>
      ofLine line chars := by
  show ofLines 1 (pieces (· == '\n') text.toList) = ofLines 1 (Text.lines text.toList)
  -- all rows but the last one end with a line feed
  obtain ⟨init, last, hrows⟩ : ∃ init last, pieces (· == '\n') text.toList = init ++ [last] := by
    obtain ⟨head, tail, hpieces⟩ := exists_pieces_eq_cons (· == '\n') text.toList
    rw [hpieces]
    exact ⟨_, _, (List.dropLast_concat_getLast (List.cons_ne_nil head tail)).symm⟩
  rw [Text.lines, hrows, List.dropLast_concat, List.getLast?_concat, Option.toList_some,
    ofLines_append, ofLines_append, ofLines_map_withoutReturn, List.length_map,
    ofLines_filter_singleton]

/-! ### Words -/

/-- The tokens of a text are its words, wherever lines end. -/
theorem map_text_ofChars (line : Nat) (chars : List Char) :
    (ofChars line chars).map (·.text) = (words isBlank chars).map String.ofList := by
  induction chars using blankwise generalizing line with
  | solid chars hsolid =>
    rw [ofChars_of_forall hsolid]
    split
    · subst_vars
      rfl
    · next hne =>
      rw [words_of_forall hne hsolid]
      rfl
  | blank first c second hblank hfirst hsecond =>
    rw [ofChars_append_cons hblank, words_append_cons hblank, List.map_append, List.map_append,
      hfirst, hsecond]

/-! ### Counting lines -/

/-- No token stands on a line before the first. -/
theorem le_line_of_mem_ofLines {line : Nat} {rows : List (List Char)} {token : Token}
    (h : token ∈ ofLines line rows) : line ≤ token.line := by
  induction rows generalizing line with
  | nil => cases h
  | cons row rest ih =>
    rw [ofLines_cons] at h
    rcases List.mem_append.mp h with hrow | hrest
    · obtain ⟨word, -, rfl⟩ := List.mem_map.mp hrow
      exact Nat.le_refl line
    · exact Nat.le_of_succ_le (ih hrest)

/-- Tokens of consecutive lines stand in the order of the lines. -/
theorem pairwise_ofLines (line : Nat) (rows : List (List Char)) :
    (ofLines line rows).Pairwise (·.line ≤ ·.line) := by
  induction rows generalizing line with
  | nil => exact .nil
  | cons row rest ih =>
    have hrow : ∀ token ∈ ofLine line row, token.line = line := by
      intro token hmem
      obtain ⟨word, -, rfl⟩ := List.mem_map.mp hmem
      rfl
    rw [ofLines_cons, List.pairwise_append]
    refine ⟨List.pairwise_of_forall_mem_list ?_, ih (line + 1), ?_⟩
    · intro first hfirst second hsecond
      rw [hrow first hfirst, hrow second hsecond]
    · intro first hfirst second hsecond
      rw [hrow first hfirst]
      exact Nat.le_of_succ_le (le_line_of_mem_ofLines hsecond)

end Token

end Quartet
