import Quartet.Text.Grid
import Quartet.Proofs.Text.Breaks
import Mathlib.Algebra.BigOperators.Group.List.Basic
import Mathlib.Algebra.GroupWithZero.Nat
import Mathlib.Data.List.Forall2

namespace Quartet.Text

/-!
# Pictures of grids

Each column of a grid is as wide as its widest cell, so that all lines of its picture have the same
length, and the lower rule tells the widths of the columns.  With the widths the lines can be cut
into the pieces they were made of: the picture hides nothing but how its cells end in blanks.

* `Cell.length_lineAt`, `Cell.filter_lineAt` — the lines of a cell, filled up.
* `Grid.IsRegular.fits` — every cell finds room in its column.
* `Grid.length_lines`, `Grid.length_of_mem_lines` — how high and how wide a picture is.
* `Grid.count_lines` — the characters of a picture that its cells hold.
* `Grid.lines_inj` — widths and pieces are known from the lines.
* `Grid.pieces_text`, `Grid.lines_text` — the lines are known from the text.
-/

/-! ### Greatest numbers -/

theorem le_foldr_max {n : Nat} {numbers : List Nat} (h : n ∈ numbers) :
    n ≤ numbers.foldr max 0 := by
  induction numbers with
  | nil => cases h
  | cons first rest ih =>
    rw [List.foldr_cons]
    rcases List.mem_cons.mp h with rfl | h
    · exact Nat.le_max_left _ _
    · exact Nat.le_trans (ih h) (Nat.le_max_right _ _)

theorem foldr_max_eq {n : Nat} {numbers : List Nat} (hne : numbers ≠ [])
    (h : ∀ m ∈ numbers, m = n) : numbers.foldr max 0 = n := by
  obtain ⟨m, hm⟩ := List.exists_mem_of_ne_nil _ hne
  have hle : ∀ numbers : List Nat, (∀ m ∈ numbers, m = n) → numbers.foldr max 0 ≤ n := by
    intro numbers h
    induction numbers with
    | nil => exact Nat.zero_le _
    | cons first rest ih =>
      obtain ⟨hfirst, hrest⟩ := List.forall_mem_cons.mp h
      exact Nat.max_le.mpr ⟨Nat.le_of_eq hfirst, ih hrest⟩
  have hge := le_foldr_max hm
  rw [h m hm] at hge
  exact Nat.le_antisymm (hle numbers h) hge

/-! ### Cells -/

namespace Cell

theorem length_le_width {cell : Cell} {line : Line} (h : line ∈ cell.lines) :
    line.length ≤ cell.width :=
  le_foldr_max (List.mem_map_of_mem h)

/-- The line at a height, which is empty below the last line. -/
def bareLine (cell : Cell) (index : Nat) : Line := (cell.lines[index]?).getD []

theorem length_bareLine_le (cell : Cell) (index : Nat) :
    (cell.bareLine index).length ≤ cell.width := by
  unfold bareLine
  cases hline : cell.lines[index]? with
  | none => exact Nat.zero_le _
  | some line => exact length_le_width (List.mem_of_getElem? hline)

theorem lineAt_eq (cell : Cell) (width index : Nat) :
    cell.lineAt width index =
      let fill := blanks (width - (cell.bareLine index).length)
      match cell.side with
      | .left => cell.bareLine index ++ fill
      | .right => fill ++ cell.bareLine index := rfl

/-- A line that is filled up is as long as its column is wide. -/
theorem length_lineAt {cell : Cell} {width : Nat} (h : cell.width ≤ width) (index : Nat) :
    (cell.lineAt width index).length = width := by
  have hlength := cell.length_bareLine_le index
  rw [lineAt_eq]
  cases cell.side <;>
  · simp only [List.length_append, blanks, List.length_replicate]
    omega

/-- Only blanks are filled in. -/
theorem filter_lineAt (cell : Cell) (width index : Nat) :
    (cell.lineAt width index).filter (· != ' ') = (cell.bareLine index).filter (· != ' ') := by
  rw [lineAt_eq]
  cases cell.side <;> simp [blanks]

theorem count_lineAt {c : Char} (hc : c ≠ ' ') (cell : Cell) (width index : Nat) :
    (cell.lineAt width index).count c = (cell.bareLine index).count c := by
  rw [lineAt_eq]
  cases cell.side <;> simp [blanks, List.count_replicate, hc.symm]

/-- A line that is long enough is not filled up. -/
theorem lineAt_of_length {cell : Cell} {width index : Nat}
    (h : (cell.bareLine index).length = width) : cell.lineAt width index = cell.bareLine index := by
  rw [lineAt_eq, h, Nat.sub_self]
  cases cell.side
  · exact List.append_nil _
  · exact List.nil_append _

/-- The lines of a cell that fill its column are known from what they are filled up to. -/
theorem lines_inj {cell other : Cell} {width : Nat} (h : ∀ line ∈ cell.lines, line.length = width)
    (h' : ∀ line ∈ other.lines, line.length = width) (hheight : cell.height = other.height)
    (hlines : ∀ index < cell.height, cell.lineAt width index = other.lineAt width index) :
    cell.lines = other.lines := by
  have hfull : ∀ {cell : Cell}, (∀ line ∈ cell.lines, line.length = width) →
      ∀ index (hindex : index < cell.lines.length),
        cell.lineAt width index = cell.lines[index] := by
    intro cell h index hindex
    have hbare : cell.bareLine index = cell.lines[index] := by
      rw [bareLine, List.getElem?_eq_getElem hindex, Option.getD_some]
    rw [lineAt_of_length (by rw [hbare]; exact h _ (List.getElem_mem hindex)), hbare]
  refine List.ext_getElem hheight fun index hindex hindex' => ?_
  rw [← hfull h, ← hfull h', hlines index hindex]

/-- The lines of a cell hold its characters, at any height that it finds room in. -/
theorem sum_count_bareLine {cell : Cell} {height : Nat} (h : cell.height ≤ height) (c : Char) :
    ((List.range height).map fun index => (cell.bareLine index).count c).sum
      = cell.lines.flatten.count c := by
  obtain ⟨lines, side⟩ := cell
  show ((List.range height).map fun index => ((lines[index]?).getD []).count c).sum = _
  change lines.length ≤ height at h
  induction lines generalizing height with
  | nil => simp
  | cons line rest ih =>
    obtain ⟨height, rfl⟩ : ∃ more, height = more + 1 := ⟨height - 1, by simp at h; omega⟩
    rw [List.range_succ_eq_map, List.map_cons, List.sum_cons, List.map_map, List.flatten_cons,
      List.count_append, ← ih (Nat.le_of_succ_le_succ h)]
    rfl

end Cell

namespace Grid

/-! ### Frames -/

theorem length_intercalate_singleton (mark : Char) (parts : List Line) :
    ([mark].intercalate parts).length = (parts.map List.length).sum + (parts.length - 1) := by
  induction parts with
  | nil => rfl
  | cons part rest ih =>
    cases rest with
    | nil => simp
    | cons second others =>
      rw [List.intercalate_cons_cons, List.length_append, List.length_append, ih]
      simp
      omega

theorem length_frame (mark : Char) (parts : List Line) :
    (frame mark parts).length = (parts.map List.length).sum + (parts.length - 1) + 2 := by
  rw [frame, List.length_cons, List.length_append, length_intercalate_singleton]
  rfl

/-- A frame adds blanks and marks. -/
theorem count_frame {c mark : Char} (hc : c ≠ ' ') (hmark : c ≠ mark) (parts : List Line) :
    (frame mark parts).count c = (parts.map (List.count c)).sum := by
  have hparts : ([mark].intercalate parts).count c = (parts.map (List.count c)).sum := by
    induction parts with
    | nil => rfl
    | cons part rest ih =>
      cases rest with
      | nil => simp
      | cons second others =>
        rw [List.intercalate_cons_cons, List.count_append, List.count_append, ih,
          List.count_singleton]
        simp [hmark.symm]
  rw [frame, List.count_cons_of_ne hc.symm, List.count_append, hparts, List.count_singleton]
  simp [hc.symm]

/-- The parts of a frame are known from it if their lengths are. -/
theorem frame_inj {mark : Char} {parts others : List Line}
    (hlength : parts.map List.length = others.map List.length)
    (h : frame mark parts = frame mark others) : parts = others := by
  have hjoined : [mark].intercalate parts = [mark].intercalate others :=
    List.append_cancel_right (List.cons.inj h).2
  clear h
  induction parts generalizing others with
  | nil => exact (List.map_eq_nil_iff.mp hlength.symm).symm
  | cons part rest ih =>
    match others with
    | other :: behind =>
      obtain ⟨hpart, hrest⟩ := List.cons.inj hlength
      match rest, behind with
      | [], [] => simpa using hjoined
      | second :: later, second' :: later' =>
        rw [List.intercalate_cons_cons, List.intercalate_cons_cons, List.append_assoc,
          List.append_assoc] at hjoined
        obtain ⟨rfl, hmore⟩ := List.append_inj hjoined hpart
        rw [ih hrest (List.append_cancel_left hmore)]

/-- The widths of columns are known from a rule, which shows where they end. -/
theorem rule_inj {junction : Char} (hjunction : junction ≠ '─') {widths others : List Nat}
    (hne : widths ≠ []) (hne' : others ≠ []) (h : rule junction widths = rule junction others) :
    widths = others := by
  let dashes (width : Nat) : Line := List.replicate (width + 2) '─'
  have hsolid : ∀ widths : List Nat, ∀ part ∈ widths.map dashes, ∀ c ∈ part,
      (c == junction) = false := by
    intro widths part hpart c hc
    obtain ⟨width, -, rfl⟩ := List.mem_map.mp hpart
    rw [List.eq_of_mem_replicate hc]
    exact beq_eq_false_iff_ne.mpr hjunction.symm
  have hcut : ∀ widths : List Nat, widths ≠ [] →
      pieces (· == junction) ([junction].intercalate (widths.map dashes)) = widths.map dashes :=
    fun widths hne => pieces_intercalate (by simp) (hsolid widths) (mt List.map_eq_nil_iff.mp hne)
  have hjoined : [junction].intercalate (widths.map dashes)
      = [junction].intercalate (others.map dashes) :=
    List.append_cancel_right (List.cons.inj h).2
  have hdashes : widths.map dashes = others.map dashes := by
    rw [← hcut widths hne, hjoined, hcut others hne']
  refine List.map_injective_iff.mpr (fun width other hdash => ?_) hdashes
  simpa [dashes] using congrArg List.length hdash

/-! ### Lines of a row -/

/-- A piece with a space on both sides. -/
def spaced (piece : Line) : Line := ' ' :: (piece ++ [' '])

theorem length_spaced (piece : Line) : (spaced piece).length = piece.length + 2 := by
  rw [spaced, List.length_cons, List.length_append, List.length_singleton]

theorem count_spaced {c : Char} (hc : c ≠ ' ') (piece : Line) :
    (spaced piece).count c = piece.count c := by
  simp [spaced, hc.symm]

theorem spaced_injective : Function.Injective spaced := fun _ _ h =>
  List.append_cancel_right (List.cons.inj h).2

theorem map_length_map_spaced (pieces : List Line) :
    (pieces.map spaced).map List.length = (pieces.map List.length).map (· + 2) := by
  rw [List.map_map, List.map_map]
  exact List.map_congr_left fun piece _ => length_spaced piece

/-- Whether each cell of a row finds room in its column. -/
def Fits (widths : List Nat) (cells : List Cell) : Prop :=
  List.Forall₂ (fun width cell => cell.width ≤ width) widths cells

/-- The pieces of a row's line at a height, one for each column. -/
def piecesAt (widths : List Nat) (cells : List Cell) (index : Nat) : List Line :=
  widths.zipWith (fun width cell => cell.lineAt width index) cells

/-- The height of a row. -/
def rowHeight (cells : List Cell) : Nat := (cells.map Cell.height).foldr max 0

theorem rowLines_eq (widths : List Nat) (cells : List Cell) :
    rowLines widths cells
      = (List.range (rowHeight cells)).map fun index =>
          frame '│' ((piecesAt widths cells index).map spaced) := by
  simp only [piecesAt, List.map_zipWith]
  rfl

theorem length_rowLines (widths : List Nat) (cells : List Cell) :
    (rowLines widths cells).length = rowHeight cells := by
  rw [rowLines_eq, List.length_map, List.length_range]

/-- The pieces of a line are as long as the columns are wide. -/
theorem map_length_piecesAt {widths : List Nat} {cells : List Cell} (h : Fits widths cells)
    (index : Nat) : (piecesAt widths cells index).map List.length = widths := by
  induction h with
  | nil => rfl
  | cons hcell _ ih =>
    rw [piecesAt, List.zipWith_cons_cons, List.map_cons, Cell.length_lineAt hcell]
    exact congrArg _ ih

/-- The length of the lines over columns of given widths. -/
def breadth (widths : List Nat) : Nat := (widths.map (· + 2)).sum + (widths.length - 1) + 2

theorem length_rule (junction : Char) (widths : List Nat) :
    (rule junction widths).length = breadth widths := by
  rw [rule, length_frame, List.map_map, List.length_map, breadth]
  simp [Function.comp_def]

theorem length_of_mem_rowLines {widths : List Nat} {cells : List Cell} (h : Fits widths cells)
    {line : Line} (hline : line ∈ rowLines widths cells) : line.length = breadth widths := by
  rw [rowLines_eq] at hline
  obtain ⟨index, -, rfl⟩ := List.mem_map.mp hline
  have hlengths := map_length_piecesAt h index
  have hcount := congrArg List.length hlengths
  rw [List.length_map] at hcount
  rw [length_frame, map_length_map_spaced, hlengths, List.length_map, hcount, breadth]

/-- The pieces of a row are known from its lines. -/
theorem rowLines_inj {widths : List Nat} {cells others : List Cell} (h : Fits widths cells)
    (h' : Fits widths others) (heq : rowLines widths cells = rowLines widths others)
    {index : Nat} (hindex : index < rowHeight cells) :
    piecesAt widths cells index = piecesAt widths others index := by
  have hheight : rowHeight cells = rowHeight others := by
    rw [← length_rowLines widths, heq, length_rowLines]
  have hline := congrArg (·[index]?) heq
  simp only [rowLines_eq, ← hheight, List.getElem?_map, List.getElem?_range hindex,
    Option.map_some, Option.some.injEq] at hline
  refine List.map_injective_iff.mpr spaced_injective (frame_inj ?_ hline)
  rw [map_length_map_spaced, map_length_map_spaced, map_length_piecesAt h, map_length_piecesAt h']

/-- The characters of a row are those of its cells. -/
theorem count_rowLines {c : Char} (hc : c ≠ ' ') (hbar : c ≠ '│') {widths : List Nat}
    {cells : List Cell} (hlength : widths.length = cells.length) :
    (rowLines widths cells).flatten.count c
      = (cells.map fun cell => cell.lines.flatten.count c).sum := by
  have hframe : ∀ index, (frame '│' ((piecesAt widths cells index).map spaced)).count c
      = (cells.map fun cell => (cell.bareLine index).count c).sum := by
    intro index
    rw [count_frame hc hbar, List.map_map, piecesAt]
    clear hbar
    induction widths generalizing cells with
    | nil =>
      obtain rfl : cells = [] := List.length_eq_zero_iff.mp hlength.symm
      rfl
    | cons width widths ih =>
      match cells with
      | cell :: rest =>
        rw [List.zipWith_cons_cons, List.map_cons, List.sum_cons, ih (Nat.succ.inj hlength),
          Function.comp_apply, count_spaced hc, Cell.count_lineAt hc, List.map_cons, List.sum_cons]
  rw [rowLines_eq, List.count_flatten, List.map_map, Function.comp_def]
  simp only [hframe]
  -- the sum over heights and cells is taken cell by cell
  have hroom : ∀ cell ∈ cells, cell.height ≤ rowHeight cells :=
    fun cell hmem => le_foldr_max (List.mem_map_of_mem hmem)
  generalize rowHeight cells = height at hroom
  clear hlength hframe
  induction cells with
  | nil => simp
  | cons cell rest ih =>
    obtain ⟨hcell, hrest⟩ := List.forall_mem_cons.mp hroom
    simp only [List.map_cons, List.sum_cons]
    rw [List.sum_map_add, Cell.sum_count_bareLine hcell, ih hrest]

/-! ### Grids -/

/-- Whether every row has a cell under each title. -/
def IsRegular (grid : Grid) : Prop := ∀ row ∈ grid.rows, row.length = grid.titles.length

theorem length_widths (grid : Grid) : grid.widths.length = grid.titles.length := by
  simp [widths, columns]

theorem IsRegular.length_eq {grid : Grid} (h : grid.IsRegular) {row : List Cell}
    (hrow : row ∈ grid.titles :: grid.rows) : row.length = grid.widths.length := by
  rw [length_widths]
  rcases List.mem_cons.mp hrow with rfl | hrow
  · rfl
  · exact h row hrow

/-- Every cell finds room in its column. -/
theorem IsRegular.fits {grid : Grid} (h : grid.IsRegular) {row : List Cell}
    (hrow : row ∈ grid.titles :: grid.rows) : Fits grid.widths row := by
  refine List.forall₂_iff_get.mpr ⟨(h.length_eq hrow).symm, fun index hindex hindex' => ?_⟩
  have hcolumn : row[index] ∈ (grid.titles :: grid.rows).filterMap (·[index]?) :=
    List.mem_filterMap.mpr ⟨row, hrow, List.getElem?_eq_getElem hindex'⟩
  have hle := le_foldr_max (List.mem_map_of_mem (f := Cell.width) hcolumn)
  simpa [widths, columns] using hle

/-- The picture has two lines besides those of its rows. -/
theorem length_lines (grid : Grid) :
    grid.lines.length = ((grid.titles :: grid.rows).map rowHeight).sum + 2 := by
  have hrows : (grid.rows.flatMap (rowLines grid.widths)).length
      = (grid.rows.map rowHeight).sum := by
    rw [List.length_flatMap]
    exact congrArg List.sum (List.map_congr_left fun row _ => length_rowLines _ row)
  simp only [lines, List.length_append, hrows, length_rowLines, List.length_singleton,
    List.map_cons, List.sum_cons]
  omega

theorem length_of_mem_lines {grid : Grid} (h : grid.IsRegular) {line : Line}
    (hline : line ∈ grid.lines) : line.length = breadth grid.widths := by
  simp only [lines, List.mem_append, List.mem_singleton, List.mem_flatMap] at hline
  rcases hline with ((hline | rfl) | ⟨row, hrow, hline⟩) | rfl
  · exact length_of_mem_rowLines (h.fits List.mem_cons_self) hline
  · exact length_rule _ _
  · exact length_of_mem_rowLines (h.fits (List.mem_cons_of_mem _ hrow)) hline
  · exact length_rule _ _

/-- The picture of a grid as a cell of another. -/
def picture (grid : Grid) : Cell := ⟨grid.lines, .left⟩

theorem width_picture {grid : Grid} (h : grid.IsRegular) :
    grid.picture.width = breadth grid.widths := by
  refine foldr_max_eq (mt List.map_eq_nil_iff.mp ?_) fun n hn => ?_
  · exact List.append_ne_nil_of_right_ne_nil _ (List.cons_ne_nil _ _)
  · obtain ⟨line, hline, rfl⟩ := List.mem_map.mp hn
    exact length_of_mem_lines h hline

/-- A picture fills its column, so it is known from the lines of the grid that it stands in. -/
theorem picture_inj {grid other : Grid} (hgrid : grid.IsRegular) (hother : other.IsRegular)
    (hheight : grid.lines.length = other.lines.length)
    (hwidth : breadth grid.widths = breadth other.widths)
    (hlines : ∀ index < grid.lines.length,
      grid.picture.lineAt (breadth grid.widths) index
        = other.picture.lineAt (breadth grid.widths) index) :
    grid.lines = other.lines := by
  have hfull : ∀ line ∈ grid.picture.lines, line.length = breadth grid.widths :=
    fun _ => length_of_mem_lines hgrid
  have hfull' : ∀ line ∈ other.picture.lines, line.length = breadth grid.widths :=
    fun _ hline => (length_of_mem_lines hother hline).trans hwidth.symm
  exact Cell.lines_inj hfull hfull' hheight hlines

theorem count_rule {c junction : Char} (hc : c ≠ ' ') (hdash : c ≠ '─') (hjunction : c ≠ junction)
    (widths : List Nat) : (rule junction widths).count c = 0 := by
  rw [rule, count_frame hc hjunction, List.map_map, List.sum_eq_zero]
  intro n hn
  obtain ⟨width, -, rfl⟩ := List.mem_map.mp hn
  exact List.count_eq_zero.mpr fun hmem => hdash (List.eq_of_mem_replicate hmem)

/-- The characters that the frame of a picture is made of. -/
def frameChars : List Char := [' ', '│', '─', '┼', '┴']

/-- A picture holds the characters of its cells as often as these do. -/
theorem count_lines {c : Char} (hc : c ∉ frameChars) {grid : Grid} (h : grid.IsRegular) :
    grid.lines.flatten.count c
      = ((grid.titles :: grid.rows).flatten.map fun cell => cell.lines.flatten.count c).sum := by
  simp only [frameChars, List.mem_cons, List.not_mem_nil, or_false, not_or] at hc
  obtain ⟨hblank, hbar, hdash, hcross, hend⟩ := hc
  have hrows : ∀ rows : List (List Cell), (∀ row ∈ rows, row.length = grid.widths.length) →
      (rows.flatMap (rowLines grid.widths)).flatten.count c
        = (rows.flatten.map fun cell => cell.lines.flatten.count c).sum := by
    intro rows hlength
    induction rows with
    | nil => rfl
    | cons row rest ih =>
      obtain ⟨hrow, hrest⟩ := List.forall_mem_cons.mp hlength
      rw [List.flatMap_cons, List.flatten_append, List.count_append, ih hrest,
        count_rowLines hblank hbar hrow.symm, List.flatten_cons, List.map_append, List.sum_append]
  have hlines := hrows _ fun row => h.length_eq
  rw [List.flatMap_cons, List.flatten_append, List.count_append] at hlines
  simp only [lines, List.flatten_append, List.flatten_singleton, List.count_append,
    count_rule hblank hdash hcross, count_rule hblank hdash hend]
  omega

/-- The pieces of all rows are known from their lines, if it is known how high the rows are. -/
theorem flatMap_rowLines_inj {widths : List Nat} {rows others : List (List Cell)}
    (hheights : List.Forall₂ (fun row other => rowHeight row = rowHeight other) rows others)
    (hfits : ∀ row ∈ rows, Fits widths row) (hfits' : ∀ row ∈ others, Fits widths row)
    (h : rows.flatMap (rowLines widths) = others.flatMap (rowLines widths)) :
    List.Forall₂ (fun row other => ∀ index < rowHeight row,
      piecesAt widths row index = piecesAt widths other index) rows others := by
  induction hheights with
  | nil => exact .nil
  | cons hheight _ ih =>
    obtain ⟨hrow, hrest⟩ := List.forall_mem_cons.mp hfits
    obtain ⟨hrow', hrest'⟩ := List.forall_mem_cons.mp hfits'
    rw [List.flatMap_cons, List.flatMap_cons] at h
    obtain ⟨hfirst, hmore⟩ :=
      List.append_inj h (by rw [length_rowLines, length_rowLines, hheight])
    exact .cons (fun index hindex => rowLines_inj hrow hrow' hfirst hindex)
      (ih hrest hrest' hmore)

/-- Whether two grids differ in the characters of their rows only. -/
structure Alike (grid other : Grid) : Prop where
  titles : grid.titles = other.titles
  heights : List.Forall₂ (fun row row' => rowHeight row = rowHeight row') grid.rows other.rows

/-- The widths and the pieces of a grid are known from the lines of its picture. -/
theorem lines_inj {grid other : Grid} (hgrid : grid.IsRegular) (hother : other.IsRegular)
    (halike : Alike grid other) (hne : grid.titles ≠ []) (h : grid.lines = other.lines) :
    grid.widths = other.widths ∧
      List.Forall₂ (fun row row' => ∀ index < rowHeight row,
        piecesAt grid.widths row index = piecesAt other.widths row' index)
        grid.rows other.rows := by
  -- the titles have the same height in both, so the rule after them stands at the same place
  simp only [lines, List.append_assoc, halike.titles] at h
  obtain ⟨-, hbelow⟩ := List.append_inj h (by rw [length_rowLines, length_rowLines])
  obtain ⟨hrule, hrows⟩ := List.append_inj hbelow rfl
  have hwidths : grid.widths = other.widths := by
    refine rule_inj (by decide) ?_ ?_ (List.singleton_inj.mp hrule)
    · exact List.ne_nil_of_length_pos (by rw [length_widths]; exact List.length_pos_iff.mpr hne)
    · rw [halike.titles] at hne
      exact List.ne_nil_of_length_pos (by rw [length_widths]; exact List.length_pos_iff.mpr hne)
  obtain ⟨hlines, -⟩ := List.append_inj' hrows rfl
  rw [← hwidths] at hlines ⊢
  refine ⟨rfl, flatMap_rowLines_inj halike.heights ?_ ?_ hlines⟩
  · exact fun row hrow => hgrid.fits (List.mem_cons_of_mem _ hrow)
  · exact fun row hrow => hwidths ▸ hother.fits (List.mem_cons_of_mem _ hrow)

/-! ### Texts -/

/-- The lines of a picture are known from its text, if no line break stands within them. -/
theorem pieces_text {grid : Grid} (h : '\n' ∉ grid.lines.flatten) :
    pieces (· == '\n') grid.text.toList = grid.lines ++ [[]] := by
  have hlines : ∀ line ∈ grid.lines ++ [[]], ∀ c ∈ line, (c == '\n') = false := by
    intro line hline c hc
    rcases List.mem_append.mp hline with hline | hline
    · refine beq_eq_false_iff_ne.mpr ?_
      rintro rfl
      exact h (List.mem_flatten.mpr ⟨line, hline, hc⟩)
    · rw [List.mem_singleton.mp hline] at hc
      cases hc
  have htext : grid.text.toList = ['\n'].intercalate (grid.lines ++ [[]]) := by
    rw [text, String.toList_ofList]
    clear h hlines
    induction grid.lines with
    | nil => rfl
    | cons line rest ih =>
      have hmore : rest ++ [[]] ≠ [] := List.append_ne_nil_of_right_ne_nil _ (List.cons_ne_nil _ _)
      rw [List.flatMap_cons, ih, List.cons_append, List.intercalate_cons_of_ne_nil hmore]
  rw [htext, pieces_intercalate (by simp) hlines (by simp)]

/-- Every line of a picture is a frame around pieces. -/
theorem exists_frame_of_mem_lines {grid : Grid} {line : Line} (h : line ∈ grid.lines) :
    ∃ mark parts, line = frame mark parts := by
  have hrow : ∀ cells, line ∈ rowLines grid.widths cells →
      ∃ mark parts, line = frame mark parts := by
    intro cells hline
    rw [rowLines_eq] at hline
    obtain ⟨index, -, rfl⟩ := List.mem_map.mp hline
    exact ⟨_, _, rfl⟩
  simp only [lines, List.mem_append, List.mem_singleton, List.mem_flatMap] at h
  rcases h with ((h | rfl) | ⟨row, -, h⟩) | rfl
  · exact hrow _ h
  · exact ⟨_, _, rfl⟩
  · exact hrow _ h
  · exact ⟨_, _, rfl⟩

/-- A picture is read line by line as it was drawn: no line ends with a carriage return. -/
theorem lines_text {grid : Grid} (h : '\n' ∉ grid.lines.flatten) :
    Text.lines grid.text.toList = grid.lines := by
  have hkeep : ∀ line ∈ grid.lines, withoutReturn line = line := by
    intro line hline
    obtain ⟨mark, parts, rfl⟩ := exists_frame_of_mem_lines hline
    have hlast : (frame mark parts).getLast? = some ' ' := by
      rw [frame, ← List.cons_append, List.getLast?_concat]
    exact if_neg (by simp [hlast])
  rw [Text.lines, pieces_text h, List.dropLast_concat, List.getLast?_concat,
    List.map_congr_left hkeep]
  simp

end Grid

end Quartet.Text
