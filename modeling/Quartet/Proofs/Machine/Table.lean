import Quartet.Machine.Table
import Quartet.Proofs.Text.Delimiting
import Quartet.Proofs.Text.Grid
import Mathlib.Data.List.Infix

namespace Quartet

/-!
# What the state table shows

The widths of the columns depend on all that is shown and on where the arrow stands.  They are read
off the lines under the titles, first of the whole and then of each table in it, so that the rows
can be cut into their pieces, and a piece loses nothing but blanks.

* `Machine.pointed?` — the word that the arrow points at, if the table shows it.
* `Machine.wordRow_inj`, `Machine.lines_storeGrid_inj` — a row and a table of words.
* `Machine.lines_grid_inj` — the two tables side by side.
* `Machine.count_storeGrid`, `Machine.count_grid` — arrows and line breaks in the pictures.
* `Machine.pieces_table`, `Machine.table_inj` — the lines of the text.
* `Machine.PlacesArrow`, `Machine.placesArrow` — the row that carries the arrow.
* `Machine.table_shows` — which machines have the same table.
* `Machine.table_aligned` — how many lines the table has, and that they are of one length.
-/

open Text (Cell Grid Line pieces)

/-- Whether the table shows the word at an address. -/
def Address.isShown : Address → Bool
  | .register index => index.toNat < registerCount
  | .memory index => index.toNat < shownCells

namespace Machine

/-- The address that the table points at: that of the word written last, if the table shows it. -/
def pointed? (machine : Machine) : Option Address := machine.lastWrite.filter Address.isShown

/-! ### Rows of words -/

/-- The text of an address, with an arrow if it is `marked`. -/
def placeText (marked : Bool) (letter : Char) (index : Nat) : String :=
  let place := String.singleton letter ++ "[" ++ toString index ++ "] ="
  if marked then "* --> " ++ place else place

theorem wordRow_eq (marked : Bool) (letter : Char) (index : Nat) (value : Word) :
    wordRow marked letter index value
      = [Cell.ofTextRight (placeText marked letter index), Cell.ofText (toString value.toNat)] :=
  rfl

theorem toList_placeText (marked : Bool) (letter : Char) (index : Nat) :
    (placeText marked letter index).toList
      = (if marked then "* --> ".toList else [])
        ++ letter :: '[' :: ((toString index).toList ++ "] =".toList) := by
  cases marked <;> simp [placeText]

theorem rowHeight_wordRow (marked : Bool) (letter : Char) (index : Nat) (value : Word) :
    Grid.rowHeight (wordRow marked letter index value) = 1 := by
  rw [wordRow_eq]
  rfl

/-- The characters of no address and no content. -/
def signs : List Char := ['*', '\n']

@[elab_as_elim] theorem of_mem_signs {P : Char → Prop} {c : Char} (hc : c ∈ signs)
    (hstar : P '*') (hbreak : P '\n') : P c := by
  simp only [signs, List.mem_cons, List.not_mem_nil, or_false] at hc
  rcases hc with rfl | rfl
  · exact hstar
  · exact hbreak

theorem ne_of_mem_signs {c other : Char} (hc : c ∈ signs) (hother : other ∉ signs) : other ≠ c :=
  fun h => hother (h ▸ hc)

theorem isDigit_of_mem_signs {c : Char} (hc : c ∈ signs) : c.isDigit = false :=
  of_mem_signs hc (by decide) (by decide)

theorem not_mem_frameChars {c : Char} (hc : c ∈ signs) : c ∉ Grid.frameChars :=
  of_mem_signs hc (by decide) (by decide)

theorem count_toString {c : Char} (hc : c ∈ signs) (n : Nat) : (toString n).toList.count c = 0 := by
  refine List.count_eq_zero.mpr fun hmem => ?_
  have hdigit := Text.isDigit_of_mem_toString hmem
  rw [isDigit_of_mem_signs hc] at hdigit
  cases hdigit

theorem count_placeText {c : Char} (hc : c ∈ signs) {letter : Char} (hletter : letter ∉ signs)
    (marked : Bool) (index : Nat) :
    (placeText marked letter index).toList.count c
      = if marked then "* --> ".toList.count c else 0 := by
  have hclose : "] =".toList.count c = 0 := of_mem_signs hc (by decide) (by decide)
  rw [toList_placeText, List.count_append, List.count_cons_of_ne (ne_of_mem_signs hc hletter),
    List.count_cons_of_ne (ne_of_mem_signs hc (by decide)), List.count_append,
    count_toString hc, hclose]
  cases marked <;> rfl

/-- Marker and content of a row are known from its pieces. -/
theorem wordRow_inj {letter : Char} (hletter : letter ∉ signs) {marked marked' : Bool}
    {index places contents : Nat} {value value' : Word}
    (h : Grid.piecesAt [places, contents] (wordRow marked letter index value) 0
      = Grid.piecesAt [places, contents] (wordRow marked' letter index value') 0) :
    marked = marked' ∧ value = value' := by
  simp only [wordRow_eq, Grid.piecesAt, List.zipWith_cons_cons, List.zipWith_nil_left,
    List.cons.injEq, and_true] at h
  obtain ⟨hplace, hcontent⟩ := h
  constructor
  · -- the arrow is told by its star, which is not filled in
    have hstar := congrArg (List.count '*') hplace
    have hbare : ∀ marked, (Cell.ofTextRight (placeText marked letter index)).bareLine 0
        = (placeText marked letter index).toList := fun _ => rfl
    rw [Cell.count_lineAt (by decide), Cell.count_lineAt (by decide), hbare, hbare,
      count_placeText (by decide) hletter, count_placeText (by decide) hletter] at hstar
    clear hplace
    revert marked marked'
    decide
  · -- the digits are what is left without the blanks that are filled in
    have hdigits := congrArg (List.filter (· != ' ')) hcontent
    have hbare : ∀ n : Nat, ((Cell.ofText (toString n)).bareLine 0).filter (· != ' ')
        = (toString n).toList := by
      intro n
      refine List.filter_eq_self.mpr fun c hmem => ?_
      have hdigit := Text.isDigit_of_mem_toString hmem
      refine bne_iff_ne.mpr ?_
      rintro rfl
      exact absurd hdigit (by decide)
    rw [Cell.filter_lineAt, Cell.filter_lineAt, hbare, hbare] at hdigits
    exact UInt32.toNat_inj.mp (Text.toString_injective (String.toList_inj.mp hdigits))

/-! ### Tables of words -/

section Store

variable (letter : Char) (marked? : Option Nat) (values : List Word)

theorem titles_storeGrid : (storeGrid letter marked? values).titles
    = [Cell.ofTextRight "Address", Cell.ofText "Contents"] := rfl

theorem length_rows_storeGrid : (storeGrid letter marked? values).rows.length = values.length := by
  rw [storeGrid, List.length_map, List.length_zipIdx]

theorem getElem_rows_storeGrid {index : Nat}
    (hrow : index < (storeGrid letter marked? values).rows.length) (h : index < values.length) :
    (storeGrid letter marked? values).rows[index]
      = wordRow (marked? == some index) letter index values[index] := by
  simp [storeGrid]

theorem exists_of_mem_rows_storeGrid {row : List Cell}
    (h : row ∈ (storeGrid letter marked? values).rows) :
    ∃ marked index value, row = wordRow marked letter index value := by
  obtain ⟨⟨value, index⟩, -, rfl⟩ := List.mem_map.mp h
  exact ⟨_, _, _, rfl⟩

theorem isRegular_storeGrid : (storeGrid letter marked? values).IsRegular := by
  intro row hrow
  obtain ⟨marked, index, value, rfl⟩ := exists_of_mem_rows_storeGrid _ _ _ hrow
  rfl

theorem rowHeight_of_mem_storeGrid {row : List Cell}
    (h : row ∈ (storeGrid letter marked? values).rows) : Grid.rowHeight row = 1 := by
  obtain ⟨marked, index, value, rfl⟩ := exists_of_mem_rows_storeGrid _ _ _ h
  exact rowHeight_wordRow _ _ _ _

/-- The columns are at least as wide as their titles. -/
theorem widths_storeGrid : ∃ places contents,
    (storeGrid letter marked? values).widths = [places, contents] ∧ 7 ≤ places ∧ 8 ≤ contents := by
  have hfits := (isRegular_storeGrid letter marked? values).fits List.mem_cons_self
  -- there is one width for each title
  generalize (storeGrid letter marked? values).widths = widths at hfits ⊢
  cases hfits with
  | cons hplaces hrest =>
    cases hrest with
    | cons hcontents hnone =>
      cases hnone
      exact ⟨_, _, rfl, hplaces, hcontents⟩

theorem length_lines_storeGrid :
    (storeGrid letter marked? values).lines.length = values.length + 3 := by
  have htitles : Grid.rowHeight (storeGrid letter marked? values).titles = 1 := rfl
  have hrows : (storeGrid letter marked? values).rows.map Grid.rowHeight
      = List.replicate values.length 1 := by
    rw [← length_rows_storeGrid letter marked? values, ← List.map_const']
    exact List.map_congr_left fun row => rowHeight_of_mem_storeGrid _ _ _
  rw [Grid.length_lines, List.map_cons, List.sum_cons, htitles, hrows,
    List.sum_replicate_nat, Nat.mul_one]
  omega

end Store

/-- Only a mark at one of the words is seen. -/
theorem storeGrid_congr {letter : Char} {marked? marked?' : Option Nat} {values : List Word}
    (h : ∀ index < values.length, (marked? = some index ↔ marked?' = some index)) :
    storeGrid letter marked? values = storeGrid letter marked?' values := by
  unfold storeGrid
  congr 1
  refine List.map_congr_left fun cell hcell => ?_
  have hlt : cell.2 < values.length := by
    have := List.snd_lt_of_mem_zipIdx hcell
    omega
  have hmark : (marked? == some cell.2) = (marked?' == some cell.2) := by
    rw [Bool.eq_iff_iff, beq_iff_eq, beq_iff_eq]
    exact h _ hlt
  simp only [hmark]

theorem alike_storeGrid {letter : Char} {marked? marked?' : Option Nat} {values others : List Word}
    (h : values.length = others.length) :
    Grid.Alike (storeGrid letter marked? values) (storeGrid letter marked?' others) := by
  have hrows : (storeGrid letter marked? values).rows.length
      = (storeGrid letter marked?' others).rows.length := by
    rw [length_rows_storeGrid, length_rows_storeGrid, h]
  refine ⟨rfl, List.forall₂_iff_get.mpr ⟨hrows, fun index hindex hindex' => ?_⟩⟩
  rw [rowHeight_of_mem_storeGrid _ _ _ (List.get_mem _ _),
    rowHeight_of_mem_storeGrid _ _ _ (List.get_mem _ _)]

/-- The words of a table and the arrow are known from its lines. -/
theorem lines_storeGrid_inj {letter : Char} (hletter : letter ∉ signs)
    {marked? marked?' : Option Nat} {values others : List Word}
    (hlength : values.length = others.length) :
    (storeGrid letter marked? values).lines = (storeGrid letter marked?' others).lines ↔
      values = others ∧
        ∀ index < values.length, (marked? = some index ↔ marked?' = some index) := by
  constructor
  · intro h
    obtain ⟨hwidths, hpieces⟩ := Grid.lines_inj (isRegular_storeGrid _ _ _)
      (isRegular_storeGrid _ _ _) (alike_storeGrid hlength) (List.cons_ne_nil _ _) h
    -- both tables have the same two columns now, so their rows can be compared piece by piece
    obtain ⟨places, contents, hcolumns, -⟩ := widths_storeGrid letter marked? values
    rw [← hwidths, hcolumns] at hpieces
    have hrow : ∀ index (hindex : index < values.length) (hindex' : index < others.length),
        (marked? == some index) = (marked?' == some index) ∧ values[index] = others[index] := by
      intro index hindex hindex'
      have hpiece := (List.forall₂_iff_get.mp hpieces).2 index
        (by rwa [length_rows_storeGrid]) (by rwa [length_rows_storeGrid]) 0
      rw [List.get_eq_getElem, List.get_eq_getElem,
        getElem_rows_storeGrid letter marked? values _ hindex,
        getElem_rows_storeGrid letter marked?' others _ hindex', rowHeight_wordRow] at hpiece
      exact wordRow_inj hletter (hpiece Nat.zero_lt_one)
    refine ⟨List.ext_getElem hlength fun index hindex hindex' => (hrow index hindex hindex').2,
      fun index hindex => ?_⟩
    have hmark := (hrow index hindex (hlength ▸ hindex)).1
    rw [← beq_iff_eq, hmark, beq_iff_eq]
  · rintro ⟨rfl, hmark⟩
    rw [storeGrid_congr hmark]

theorem sum_marks (marked? : Option Nat) (weight length : Nat) :
    ((List.range length).map fun index => if marked? == some index then weight else 0).sum
      = if marked?.any (· < length) then weight else 0 := by
  induction length with
  | zero => cases marked? <;> rfl
  | succ length ih =>
    rw [List.range_succ, List.map_append, List.sum_append, ih]
    cases marked? with
    | none => rfl
    | some marked =>
      simp only [Option.any_some, decide_eq_true_eq, List.map_singleton, List.sum_singleton,
        beq_iff_eq, Option.some.injEq]
      split_ifs <;> omega

/-- An arrow stands in a table if it points at one of its words, and nothing else looks like it. -/
theorem count_storeGrid {c : Char} (hc : c ∈ signs) {letter : Char} (hletter : letter ∉ signs)
    (marked? : Option Nat) (values : List Word) :
    (storeGrid letter marked? values).lines.flatten.count c
      = if marked?.any (· < values.length) then "* --> ".toList.count c else 0 := by
  have htitles : ([Cell.ofTextRight "Address", Cell.ofText "Contents"].map
      fun cell => cell.lines.flatten.count c).sum = 0 := of_mem_signs hc (by decide) (by decide)
  have hrow : ∀ marked index value, ((wordRow marked letter index value).map
      fun cell => cell.lines.flatten.count c).sum
        = if marked then "* --> ".toList.count c else 0 := by
    intro marked index value
    rw [← count_placeText hc hletter marked index]
    simp only [wordRow_eq, Cell.ofText, Cell.ofTextRight, List.map_cons, List.map_nil,
      List.sum_cons, List.sum_nil, List.flatten_singleton, count_toString hc, Nat.add_zero]
  have hindices : values.zipIdx.map Prod.snd = List.range values.length := by
    rw [List.zipIdx_map_snd, List.range_eq_range']
  rw [Grid.count_lines (not_mem_frameChars hc) (isRegular_storeGrid _ _ _), List.flatten_cons,
    titles_storeGrid, List.map_append, List.sum_append, htitles, Nat.zero_add, ← sum_marks,
    ← hindices, List.map_flatten, List.sum_flatten, storeGrid]
  simp only [List.map_map, Function.comp_def, hrow]

/-! ### The two tables side by side -/

/-- The table of the registers. -/
def registerGrid (machine : Machine) : Grid :=
  storeGrid 'R' machine.markedRegister? machine.registers.toList

/-- The table of the first memory cells. -/
def cellGrid (machine : Machine) : Grid :=
  storeGrid 'M' machine.markedCell? (machine.memory.toList.take shownCells)

theorem length_take_memory (machine : Machine) :
    (machine.memory.toList.take shownCells).length = shownCells := by
  rw [List.length_take, Vector.length_toList]
  rfl

theorem titles_grid (machine : Machine) :
    machine.grid.titles = [Cell.ofText "Registers", Cell.ofText "Memory"] := rfl

theorem rows_grid (machine : Machine) :
    machine.grid.rows = [[machine.registerGrid.picture, machine.cellGrid.picture]] := rfl

theorem isRegular_grid (machine : Machine) : machine.grid.IsRegular := by
  intro row hrow
  rw [rows_grid, List.mem_singleton] at hrow
  rw [hrow]
  rfl

theorem isRegular_registerGrid (machine : Machine) : machine.registerGrid.IsRegular :=
  isRegular_storeGrid _ _ _

theorem isRegular_cellGrid (machine : Machine) : machine.cellGrid.IsRegular :=
  isRegular_storeGrid _ _ _

theorem nine_le_breadth_storeGrid (letter : Char) (marked? : Option Nat) (values : List Word) :
    9 ≤ Grid.breadth (storeGrid letter marked? values).widths := by
  obtain ⟨places, contents, hwidths, hplaces, hcontents⟩ :=
    widths_storeGrid letter marked? values
  rw [hwidths]
  simp only [Grid.breadth, List.map_cons, List.map_nil, List.sum_cons, List.sum_nil,
    List.length_cons, List.length_nil]
  omega

/-- The titles find room over the tables. -/
theorem widths_grid (machine : Machine) : machine.grid.widths
    = [Grid.breadth machine.registerGrid.widths, Grid.breadth machine.cellGrid.widths] := by
  have hcolumns : machine.grid.widths
      = [max 9 (max machine.registerGrid.picture.width 0),
        max 6 (max machine.cellGrid.picture.width 0)] := rfl
  -- no title is wider than the table under it, so the lines of the tables are not filled up
  have hregisters : 9 ≤ Grid.breadth machine.registerGrid.widths :=
    nine_le_breadth_storeGrid _ _ _
  have hcells : 9 ≤ Grid.breadth machine.cellGrid.widths := nine_le_breadth_storeGrid _ _ _
  rw [hcolumns, Grid.width_picture machine.isRegular_registerGrid,
    Grid.width_picture machine.isRegular_cellGrid, Nat.max_zero, Nat.max_zero,
    Nat.max_eq_right hregisters, Nat.max_eq_right (Nat.le_trans (by decide) hcells)]

theorem length_lines_registerGrid (machine : Machine) : machine.registerGrid.lines.length = 35 := by
  rw [registerGrid, length_lines_storeGrid, Vector.length_toList]

theorem length_lines_cellGrid (machine : Machine) : machine.cellGrid.lines.length = 19 := by
  rw [cellGrid, length_lines_storeGrid, length_take_memory]
  rfl

theorem rowHeight_grid (machine : Machine) :
    Grid.rowHeight [machine.registerGrid.picture, machine.cellGrid.picture] = 35 := by
  show max machine.registerGrid.lines.length (max machine.cellGrid.lines.length 0) = 35
  rw [length_lines_registerGrid, length_lines_cellGrid]
  rfl

/-- Both tables are known from the lines of the whole. -/
theorem lines_grid_inj {machine other : Machine} :
    machine.grid.lines = other.grid.lines ↔
      machine.registerGrid.lines = other.registerGrid.lines ∧
        machine.cellGrid.lines = other.cellGrid.lines := by
  constructor
  · intro h
    have halike : Grid.Alike machine.grid other.grid :=
      ⟨rfl, .cons ((rowHeight_grid machine).trans (rowHeight_grid other).symm) .nil⟩
    obtain ⟨hwidths, hpieces⟩ := Grid.lines_inj machine.isRegular_grid other.isRegular_grid
      halike (List.cons_ne_nil _ _) h
    rw [rows_grid, rows_grid, List.forall₂_cons, ← hwidths, rowHeight_grid, widths_grid]
      at hpieces
    rw [widths_grid, widths_grid] at hwidths
    obtain ⟨hregisters, hrest⟩ := List.cons.inj hwidths
    obtain ⟨hcells, -⟩ := List.cons.inj hrest
    constructor
    · refine Grid.picture_inj machine.isRegular_registerGrid other.isRegular_registerGrid ?_
        hregisters fun index hindex => ?_
      · rw [length_lines_registerGrid, length_lines_registerGrid]
      · rw [length_lines_registerGrid] at hindex
        exact (List.cons.inj (hpieces.1 index hindex)).1
    · refine Grid.picture_inj machine.isRegular_cellGrid other.isRegular_cellGrid ?_
        hcells fun index hindex => ?_
      · rw [length_lines_cellGrid, length_lines_cellGrid]
      · -- the table of the registers is the higher one, so each line of this one has a piece
        rw [length_lines_cellGrid] at hindex
        have hpiece := (List.cons.inj (hpieces.1 index (Nat.lt_trans hindex (by decide)))).2
        exact (List.cons.inj hpiece).1
  · rintro ⟨hregisters, hcells⟩
    have hrows : machine.grid.rows = other.grid.rows := by
      rw [rows_grid, rows_grid, Grid.picture, Grid.picture, hregisters, hcells]
      rfl
    have hgrid : machine.grid = other.grid := congrArg (Grid.mk machine.grid.titles) hrows
    rw [hgrid]

/-! ### The word pointed at -/

theorem pointed?_register_iff {machine : Machine} {index : UInt64} :
    machine.pointed? = some (.register index) ↔
      machine.markedRegister? = some index.toNat ∧ index.toNat < registerCount := by
  rw [pointed?, Option.filter_eq_some_iff, Address.isShown, decide_eq_true_iff]
  refine and_congr_left fun _ => ?_
  unfold markedRegister?
  cases machine.lastWrite with
  | none => simp
  | some address => cases address <;> simp [UInt64.toNat_inj]

theorem pointed?_memory_iff {machine : Machine} {index : UInt64} :
    machine.pointed? = some (.memory index) ↔
      machine.markedCell? = some index.toNat ∧ index.toNat < shownCells := by
  rw [pointed?, Option.filter_eq_some_iff, Address.isShown, decide_eq_true_iff]
  refine and_congr_left fun _ => ?_
  unfold markedCell?
  cases machine.lastWrite with
  | none => simp
  | some address => cases address <;> simp [UInt64.toNat_inj]

/-- The arrow is the same if it points at the same register or at the same cell. -/
theorem pointed?_eq_iff {machine other : Machine} :
    machine.pointed? = other.pointed? ↔
      (∀ index < registerCount,
        (machine.markedRegister? = some index ↔ other.markedRegister? = some index)) ∧
      ∀ index < shownCells,
        (machine.markedCell? = some index ↔ other.markedCell? = some index) := by
  constructor
  · intro h
    -- an index that is shown is small enough to stand in an address
    have hword : ∀ index < registerCount, (UInt64.ofNat index).toNat = index := fun index hindex =>
      UInt64.toNat_ofNat_of_lt (Nat.lt_trans hindex (by decide))
    constructor
    · intro index hindex
      have hpointed : ∀ machine : Machine, machine.markedRegister? = some index ↔
          machine.pointed? = some (.register (UInt64.ofNat index)) := fun machine => by
        rw [pointed?_register_iff, hword index hindex, and_iff_left hindex]
      rw [hpointed, hpointed, h]
    · intro index hindex
      have hpointed : ∀ machine : Machine, machine.markedCell? = some index ↔
          machine.pointed? = some (.memory (UInt64.ofNat index)) := fun machine => by
        rw [pointed?_memory_iff, hword index (Nat.lt_trans hindex (by decide)),
          and_iff_left hindex]
      rw [hpointed, hpointed, h]
  · rintro ⟨hregisters, hcells⟩
    refine Option.ext fun address => ?_
    cases address with
    | register index =>
      rw [pointed?_register_iff, pointed?_register_iff]
      exact and_congr_left (hregisters index.toNat)
    | memory index =>
      rw [pointed?_memory_iff, pointed?_memory_iff]
      exact and_congr_left (hcells index.toNat)

/-- The signs of the whole are those of the two tables. -/
theorem count_tables {c : Char} (hc : c ∈ signs) (machine : Machine) :
    machine.grid.lines.flatten.count c
      = machine.registerGrid.lines.flatten.count c + machine.cellGrid.lines.flatten.count c := by
  have htitles : ([Cell.ofText "Registers", Cell.ofText "Memory"].map
      fun cell => cell.lines.flatten.count c).sum = 0 := of_mem_signs hc (by decide) (by decide)
  rw [Grid.count_lines (not_mem_frameChars hc) machine.isRegular_grid, titles_grid, rows_grid,
    List.flatten_cons, List.map_append, List.sum_append, htitles]
  simp [Grid.picture]

/-- One arrow stands in the table if there is a word to point at. -/
theorem count_grid {c : Char} (hc : c ∈ signs) (machine : Machine) :
    machine.grid.lines.flatten.count c
      = if machine.pointed?.isSome then "* --> ".toList.count c else 0 := by
  rw [count_tables hc, registerGrid, cellGrid, count_storeGrid hc (by decide),
    count_storeGrid hc (by decide), Vector.length_toList, length_take_memory, markedRegister?,
    markedCell?, pointed?]
  -- a word is in one of the tables only, so not both of them have an arrow
  generalize "* --> ".toList.count c = weight
  cases machine.lastWrite with
  | none => rfl
  | some address =>
    cases address with
    | register index => simp [Option.filter_some, Address.isShown]
    | memory index => simp [Option.filter_some, Address.isShown]

/-! ### Texts -/

/-- No line break stands within a line of the table. -/
theorem newline_not_mem_lines_grid (machine : Machine) : '\n' ∉ machine.grid.lines.flatten := by
  refine List.count_eq_zero.mp ?_
  rw [count_grid (by decide)]
  exact ite_self 0

theorem pieces_table (machine : Machine) :
    pieces (· == '\n') machine.table.toList = machine.grid.lines ++ [[]] :=
  Grid.pieces_text machine.newline_not_mem_lines_grid

theorem lines_table (machine : Machine) :
    Text.lines machine.table.toList = machine.grid.lines :=
  Grid.lines_text machine.newline_not_mem_lines_grid

/-- The lines of the table are known from its text. -/
theorem table_inj {machine other : Machine} :
    machine.table = other.table ↔ machine.grid.lines = other.grid.lines := by
  constructor
  · intro h
    have hpieces := congrArg (fun table : String => pieces (· == '\n') table.toList) h
    simp only [pieces_table] at hpieces
    exact List.append_cancel_right hpieces
  · intro h
    rw [table, table, Grid.text, Grid.text, h]

/-- A star stands in the text of the table if there is a word to point at, and it is the only
    one. -/
theorem count_star_table (machine : Machine) :
    machine.table.toList.count '*' = if machine.pointed?.isSome then 1 else 0 := by
  have hlines : ∀ lines : List Line,
      (lines.flatMap (· ++ ['\n'])).count '*' = lines.flatten.count '*' := by
    intro lines
    induction lines with
    | nil => rfl
    | cons line rest ih =>
      rw [List.flatMap_cons, List.count_append, List.count_append, ih, List.flatten_cons,
        List.count_append]
      rfl
  rw [table, Grid.text, String.toList_ofList, hlines, count_grid (by decide)]
  rfl

/-! ### The arrow -/

/-- Whether a row of words carries the arrow. -/
def carriesArrow (row : List Cell) : Bool :=
  row.any fun cell => cell.lines.any fun line => decide ("* -->".toList <:+: line)

/-- There is a star in the arrow. -/
theorem star_mem_of_arrow {line : Line} (h : "* -->".toList <:+: line) : '*' ∈ line :=
  h.subset (by decide)

/-- A row carries the arrow exactly if it is marked. -/
theorem carriesArrow_wordRow {letter : Char} (hletter : letter ∉ signs) (marked : Bool)
    (index : Nat) (value : Word) :
    carriesArrow (wordRow marked letter index value) = marked := by
  have hvalue : ¬ "* -->".toList <:+: (toString value.toNat).toList :=
    fun h => List.count_eq_zero.mp (count_toString (by decide) _) (star_mem_of_arrow h)
  have hplace : "* -->".toList <:+: (placeText marked letter index).toList ↔ marked = true := by
    cases marked with
    | true =>
      rw [toList_placeText]
      exact iff_of_true ⟨[], _, rfl⟩ rfl
    | false =>
      have hcount := count_placeText (c := '*') (by decide) hletter false index
      exact iff_of_false (fun h => List.count_eq_zero.mp hcount (star_mem_of_arrow h))
        Bool.false_ne_true
  rw [wordRow_eq, carriesArrow]
  simp only [Cell.ofText, Cell.ofTextRight, List.any_cons, List.any_nil, Bool.or_false, hplace,
    hvalue, decide_false, Bool.decide_eq_true]

/-- The row of a word carries the arrow exactly if the arrow points at this word. -/
theorem carriesArrow_storeGrid {letter : Char} (hletter : letter ∉ signs) {marked? : Option Nat}
    {values : List Word} {index : Nat} {row : List Cell}
    (h : (storeGrid letter marked? values).rows[index]? = some row) :
    carriesArrow row = true ↔ marked? = some index ∧ index < values.length := by
  obtain ⟨hindex, rfl⟩ := List.getElem?_eq_some_iff.mp h
  have hlt : index < values.length := by rwa [length_rows_storeGrid] at hindex
  rw [getElem_rows_storeGrid letter marked? values hindex hlt, carriesArrow_wordRow hletter,
    beq_iff_eq, and_iff_left hlt]

/-- There is a star in a row that carries the arrow. -/
theorem stars_pos_of_carriesArrow {row : List Cell} (h : carriesArrow row = true) :
    0 < (row.map fun cell => cell.lines.flatten.count '*').sum := by
  obtain ⟨cell, hcell, hlines⟩ := List.any_eq_true.mp h
  obtain ⟨line, hline, harrow⟩ := List.any_eq_true.mp hlines
  have hstar : '*' ∈ cell.lines.flatten :=
    List.mem_flatten.mpr ⟨line, hline, star_mem_of_arrow (of_decide_eq_true harrow)⟩
  exact List.sum_pos_iff_exists_pos_nat.mpr
    ⟨_, List.mem_map_of_mem hcell, List.count_pos_iff.mpr hstar⟩

/-- The rows that carry an arrow are not more than the stars in the picture. -/
theorem countP_carriesArrow_le {grid : Grid} (h : grid.IsRegular) :
    grid.rows.countP carriesArrow ≤ grid.lines.flatten.count '*' := by
  rw [Grid.count_lines (by decide) h, List.flatten_cons, List.map_append, List.sum_append]
  refine Nat.le_trans ?_ (Nat.le_add_left _ _)
  induction grid.rows with
  | nil => exact Nat.zero_le _
  | cons row rest ih =>
    rw [List.countP_cons, List.flatten_cons, List.map_append, List.sum_append, Nat.add_comm]
    refine Nat.add_le_add ?_ ih
    split
    case isTrue hrow => exact stars_pos_of_carriesArrow hrow
    case isFalse => exact Nat.zero_le _

/-- Where the arrow is in the table of a machine: there is one if a word is pointed at, which
    stands in the row of this word and in no other row. -/
structure PlacesArrow (machine : Machine) : Prop where
  once : machine.table.toList.count '*' = if machine.pointed?.isSome then 1 else 0
  rows : (machine.registerGrid.rows ++ machine.cellGrid.rows).countP carriesArrow ≤ 1
  register : ∀ (index : UInt64) row, machine.registerGrid.rows[index.toNat]? = some row →
    (carriesArrow row ↔ machine.pointed? = some (.register index))
  cell : ∀ (index : UInt64) row, machine.cellGrid.rows[index.toNat]? = some row →
    (carriesArrow row ↔ machine.pointed? = some (.memory index))

theorem placesArrow (machine : Machine) : machine.PlacesArrow := by
  refine ⟨machine.count_star_table, ?_, fun index row h => ?_, fun index row h => ?_⟩
  · have hstars : machine.grid.lines.flatten.count '*' ≤ 1 := by
      rw [count_grid (by decide)]
      split <;> decide
    calc (machine.registerGrid.rows ++ machine.cellGrid.rows).countP carriesArrow
        = machine.registerGrid.rows.countP carriesArrow
          + machine.cellGrid.rows.countP carriesArrow := List.countP_append
      _ ≤ machine.registerGrid.lines.flatten.count '*'
          + machine.cellGrid.lines.flatten.count '*' :=
        Nat.add_le_add (countP_carriesArrow_le machine.isRegular_registerGrid)
          (countP_carriesArrow_le machine.isRegular_cellGrid)
      _ = machine.grid.lines.flatten.count '*' := (count_tables (by decide) machine).symm
      _ ≤ 1 := hstars
  · rw [carriesArrow_storeGrid (by decide) h, pointed?_register_iff, Vector.length_toList]
  · rw [carriesArrow_storeGrid (by decide) h, pointed?_memory_iff, length_take_memory]

/-! ### What is shown -/

theorem lines_registerGrid_inj {machine other : Machine} :
    machine.registerGrid.lines = other.registerGrid.lines ↔
      machine.registers = other.registers ∧ ∀ index < registerCount,
        (machine.markedRegister? = some index ↔ other.markedRegister? = some index) := by
  have hlength : machine.registers.toList.length = other.registers.toList.length := by
    rw [Vector.length_toList, Vector.length_toList]
  rw [registerGrid, registerGrid, lines_storeGrid_inj (by decide) hlength, Vector.toList_inj,
    Vector.length_toList]

theorem lines_cellGrid_inj {machine other : Machine} :
    machine.cellGrid.lines = other.cellGrid.lines ↔
      (∀ index < shownCells, machine.memory[index]? = other.memory[index]?) ∧
        ∀ index < shownCells,
          (machine.markedCell? = some index ↔ other.markedCell? = some index) := by
  have hcells : machine.memory.toList.take shownCells = other.memory.toList.take shownCells ↔
      ∀ index < shownCells, machine.memory[index]? = other.memory[index]? := by
    simp only [List.ext_getElem?_iff, List.getElem?_take, Vector.getElem?_toList]
    refine forall_congr' fun index => ?_
    split
    case isTrue hlt => exact ⟨fun h _ => h, fun h => h hlt⟩
    case isFalse hge => exact ⟨fun _ hlt => absurd hlt hge, fun _ => rfl⟩
  rw [cellGrid, cellGrid, lines_storeGrid_inj (by decide) ((length_take_memory machine).trans
    (length_take_memory other).symm), hcells, length_take_memory]

/-- A register is pointed at when it is written. -/
theorem pointed?_of_set?_register {machine written : Machine} {index : UInt64} {value : Word}
    (h : machine.set? (.register index) value = some written) :
    written.pointed? = some (.register index) := by
  -- a register that there is not is not written
  have hlt : index.toNat < registerCount := by
    by_contra hge
    rw [set?, dif_neg hge] at h
    cases h
  rw [pointed?, lastWrite_of_set? h, Option.filter_some, Address.isShown, decide_eq_true hlt]
  rfl

/-- A memory cell is pointed at when it is written, if it is one of the first. -/
theorem pointed?_of_set?_memory {machine written : Machine} {index : UInt64} {value : Word}
    (h : machine.set? (.memory index) value = some written) :
    written.pointed? = if index.toNat < 16 then some (.memory index) else none := by
  rw [pointed?, lastWrite_of_set? h, Option.filter_some]
  simp only [Address.isShown, decide_eq_true_eq]
  rfl

/-- The table of a machine shows its registers, the first sixteen cells of its memory and which of
    these words was written last, if it was one of them, and nothing else: two tables are the same
    if and only if these are.  At most one row of the two tables side by side has an arrow, even
    where a register and a cell share a line of the text. -/
theorem table_shows (machine other : Machine) :
    (machine.table = other.table ↔
      machine.registers = other.registers ∧
        (∀ index < 16, machine.memory[index]? = other.memory[index]?) ∧
        machine.pointed? = other.pointed?) ∧
      machine.PlacesArrow ∧
      (∀ index value written, machine.set? (.register index) value = some written →
        written.pointed? = some (.register index)) ∧
      ∀ index value written, machine.set? (.memory index) value = some written →
        written.pointed? = if index.toNat < 16 then some (.memory index) else none := by
  refine ⟨?_, machine.placesArrow, fun _ _ _ => pointed?_of_set?_register,
    fun _ _ _ => pointed?_of_set?_memory⟩
  rw [table_inj, lines_grid_inj, lines_registerGrid_inj, lines_cellGrid_inj, pointed?_eq_iff]
  constructor
  · rintro ⟨⟨hregisters, hmarked⟩, hcells, hmarked'⟩
    exact ⟨hregisters, hcells, hmarked, hmarked'⟩
  · rintro ⟨hregisters, hcells, hmarked, hmarked'⟩
    exact ⟨⟨hregisters, hmarked⟩, hcells, hmarked'⟩

/-- A write to the first cell behind those that the table shows is not seen in it. -/
theorem table_set?_hidden : ∃ written : Machine,
    Machine.zero.set? (.memory 16) 7 = some written ∧ written.pointed? = none ∧
      written ≠ Machine.zero ∧ written.table = Machine.zero.table := by
  have hset : ∃ written, Machine.zero.set? (.memory 16) 7 = some written := ⟨_, rfl⟩
  obtain ⟨written, hwritten⟩ := hset
  have hnone : written.pointed? = none := (table_shows .zero .zero).2.2.2 16 7 written hwritten
  have hcell : ∀ index < 16, written.memory[index]? = Machine.zero.memory[index]? := by
    obtain rfl := Option.some.inj hwritten
    intro index hindex
    exact Vector.getElem?_set_ne (by decide) (Nat.ne_of_gt hindex)
  have hregisters : written.registers = Machine.zero.registers := by
    obtain rfl := Option.some.inj hwritten
    rfl
  refine ⟨written, hwritten, hnone, ?_, (table_shows written .zero).1.mpr
    ⟨hregisters, hcell, hnone⟩⟩
  rintro rfl
  exact absurd (lastWrite_of_set? hwritten) nofun

/-! ### Alignment -/

/-- The table has its titles and two rules besides the lines of the registers, which are more than
    those of the cells. -/
theorem length_lines_grid (machine : Machine) : machine.grid.lines.length = 38 := by
  have htitles : Grid.rowHeight machine.grid.titles = 1 := rfl
  rw [Grid.length_lines, List.map_cons, List.sum_cons, htitles, rows_grid, List.map_singleton,
    List.sum_singleton, rowHeight_grid]

/-- The table is aligned, whatever the words are and wherever the arrow stands: all its lines have
    the same length.  There are as many of them in the table of any other machine, and each is ended
    by a line feed. -/
theorem table_aligned (machine : Machine) :
    let lines := Text.lines machine.table.toList
    machine.table.toList = lines.flatMap (· ++ ['\n']) ∧ lines.length = 38 ∧
      ∃ width, ∀ line ∈ lines, line.length = width := by
  intro lines
  have hlines : lines = machine.grid.lines := machine.lines_table
  rw [hlines]
  refine ⟨String.toList_ofList, machine.length_lines_grid, Grid.breadth machine.grid.widths, ?_⟩
  exact fun line => Grid.length_of_mem_lines machine.isRegular_grid

end Machine

end Quartet
