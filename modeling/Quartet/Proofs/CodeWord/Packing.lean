import Quartet.Proofs.Field
import Quartet.Proofs.Check
import Mathlib.Tactic.Ring

namespace Quartet

/-!
# Packing operands

An instruction is encoded by putting its operands into fields that stand one above the other.
Because no two of them overlap, joining bits is adding numbers.

* `Field.Stacked` — fields one above the other, within a code word.
* `CodeWord.amount` — what operands in their fields add up to.
* `CodeWord.amount_div_mod` — each operand is found again in its field.
* `CodeWord.foldlM_insertField_of_fits` — packing adds the amount.
* `CodeWord.checks`, `CodeWord.governs_encodeFields` — what is asked of operands, and in which
  order.
* `CodeWord.exists_encodeFields`, `CodeWord.extract_of_encodeFields` — the code words of operands.
* `CodeWord.encode_eq_ok_iff` — the code words of instructions.
-/

/-! ### Fields one above the other -/

/-- Whether fields stand one above the other, the first at bit `low` or above it, and all of
    them within a code word. -/
def Field.Stacked : Nat → List Field → Prop
  | _, [] => True
  | low, field :: above =>
    low ≤ field.offset ∧ field.offset + field.width ≤ wordBits ∧
      Stacked (field.offset + field.width) above

instance Field.decidableStacked : (low : Nat) → (fields : List Field) →
    Decidable (Field.Stacked low fields)
  | _, [] => isTrue trivial
  | _, field :: above =>
    have := decidableStacked (field.offset + field.width) above
    inferInstanceAs (Decidable (_ ∧ _ ∧ _))

/-- Operand fields stand one above the other, over the tag byte. -/
theorem Layout.stacked_fields (layout : Layout) (opcode : Opcode) :
    Field.Stacked Field.tag.width (layout.fields opcode) := by
  cases layout <;> cases opcode <;> decide

/-- Every operand field is short enough to be read by shifting and masking. -/
theorem Layout.offset_width_lt (layout : Layout) (opcode : Opcode) {field : Field}
    (h : field ∈ layout.fields opcode) : field.offset < 64 ∧ field.width < 64 := by
  have hall : ∀ field ∈ layout.fields opcode, field.offset < 64 ∧ field.width < 64 := by
    cases layout <;> cases opcode <;> decide
  exact hall field h

/-- A number below a field, with a value that fits put into the field, ends below its end. -/
theorem Field.add_lt_of_fits {field : Field} {value : Word} {below : Nat}
    (hbelow : below < 2 ^ field.offset) (hfits : field.Fits value) :
    below + value.toNat * 2 ^ field.offset < 2 ^ (field.offset + field.width) := by
  calc below + value.toNat * 2 ^ field.offset
      < 2 ^ field.offset + value.toNat * 2 ^ field.offset := Nat.add_lt_add_right hbelow _
    _ = (value.toNat + 1) * 2 ^ field.offset := by rw [Nat.add_one_mul, Nat.add_comm]
    _ ≤ 2 ^ field.width * 2 ^ field.offset := Nat.mul_le_mul_right _ hfits
    _ = 2 ^ (field.offset + field.width) := by rw [← Nat.pow_add, Nat.add_comm]

namespace CodeWord

/-- What operands in their fields add up to. -/
def amount (operands : List (Field × Word)) : Nat :=
  (operands.map fun (field, value) => value.toNat * 2 ^ field.offset).sum

@[simp] theorem amount_nil : amount [] = 0 := rfl

@[simp] theorem amount_cons (field : Field) (value : Word) (rest : List (Field × Word)) :
    amount ((field, value) :: rest) = value.toNat * 2 ^ field.offset + amount rest := rfl

/-- Fields at bit `low` or above it only add multiples of its weight. -/
theorem dvd_amount {low : Nat} {operands : List (Field × Word)}
    (hstacked : Field.Stacked low (operands.map Prod.fst)) : 2 ^ low ∣ amount operands := by
  induction operands generalizing low with
  | nil => exact Nat.dvd_zero _
  | cons operand rest ih =>
    obtain ⟨field, value⟩ := operand
    obtain ⟨hoffset, -, hrest⟩ := hstacked
    have hfield : 2 ^ low ∣ 2 ^ field.offset := Nat.pow_dvd_pow 2 hoffset
    have habove : 2 ^ low ∣ 2 ^ (field.offset + field.width) :=
      Nat.pow_dvd_pow 2 (Nat.le_trans hoffset (Nat.le_add_right _ _))
    rw [amount_cons]
    exact Nat.dvd_add (Nat.dvd_mul_left_of_dvd hfield _) (Nat.dvd_trans habove (ih hrest))

/-- Each operand is found again in its field: what is below it is too small to reach it, and
    what is above it is a multiple of the next weight. -/
theorem amount_div_mod {low below : Nat} {operands : List (Field × Word)}
    (hstacked : Field.Stacked low (operands.map Prod.fst)) (hbelow : below < 2 ^ low)
    (hfits : ∀ operand ∈ operands, operand.1.Fits operand.2) :
    ∀ operand ∈ operands, (below + amount operands) / 2 ^ operand.1.offset % 2 ^ operand.1.width
      = operand.2.toNat := by
  induction operands generalizing low below with
  | nil => simp
  | cons first rest ih =>
    obtain ⟨field, value⟩ := first
    obtain ⟨hoffset, -, hrest⟩ := hstacked
    have hfirst : value.toNat < 2 ^ field.width := hfits _ List.mem_cons_self
    have hbelow' : below < 2 ^ field.offset :=
      Nat.lt_of_lt_of_le hbelow (Nat.pow_le_pow_right (by decide) hoffset)
    intro operand hmem
    rcases List.mem_cons.mp hmem with rfl | hmem
    · -- the operand itself: drop what is below by dividing, what is above by the remainder
      obtain ⟨above, habove⟩ := dvd_amount hrest
      have hsplit : below + amount ((field, value) :: rest)
          = below + 2 ^ field.offset * (value.toNat + 2 ^ field.width * above) := by
        rw [amount_cons, habove, Nat.pow_add]
        ring
      show (below + amount ((field, value) :: rest)) / 2 ^ field.offset % 2 ^ field.width
        = value.toNat
      rw [hsplit, Nat.add_mul_div_left _ _ (Nat.two_pow_pos _), Nat.div_eq_of_lt hbelow',
        Nat.zero_add, Nat.add_mul_mod_self_left, Nat.mod_eq_of_lt hfirst]
    · -- a later operand: this one joins what is below
      have hnext := Field.add_lt_of_fits hbelow' hfirst
      rw [amount_cons, ← Nat.add_assoc]
      exact ih hrest hnext (fun operand hmem => hfits operand (List.mem_cons_of_mem _ hmem))
        operand hmem

/-! ### One operand after the other -/

/-- An operand that fits is added to the word, which then ends below the field's end. -/
theorem insertField_of_fits (opcode : Opcode) (word : CodeWord) (field : Field) (value : Word)
    (hword : word.toNat < 2 ^ field.offset) (hfits : field.Fits value)
    (hend : field.offset + field.width ≤ wordBits) :
    ∃ next : CodeWord, insertField opcode word (field, value) = .ok next ∧
      next.toNat = word.toNat + value.toNat * 2 ^ field.offset ∧
      next.toNat < 2 ^ (field.offset + field.width) := by
  have hwidth : field.width < 64 := by unfold wordBits at hend; omega
  have hsum := field.toNat_or_shift word value hword hfits (by unfold wordBits at hend; omega)
  refine ⟨_, if_neg ?_, hsum, ?_⟩
  · show ¬ field.mask < value.toUInt64
    rw [field.mask_lt_iff value hwidth]
    exact not_not_intro hfits
  · rw [hsum]
    exact Field.add_lt_of_fits hword hfits

/-- What is asked of an operand: its field has room for it. -/
def room (opcode : Opcode) (operand : Field × Word) : Check EncodeError :=
  ⟨operand.1.Fits operand.2, .fieldOverflow opcode operand.1.name operand.2 operand.1.width⟩

instance (opcode : Opcode) (operand : Field × Word) : Decidable (room opcode operand).Holds :=
  inferInstanceAs (Decidable (operand.1.Fits operand.2))

/-- An operand is refused exactly if its field has no room for it. -/
theorem governs_insertField (opcode : Opcode) (word : CodeWord) {operand : Field × Word}
    (hwidth : operand.1.width < 64) :
    Check.Governs [room opcode operand] (insertField opcode word operand) := by
  obtain ⟨field, value⟩ := operand
  refine Check.Governs.single fun error => ?_
  show (if field.mask < value.toUInt64 then _ else _) = _ ↔ ¬ field.Fits value ∧ _
  rw [← field.mask_lt_iff value hwidth]
  split <;> simp_all [room, eq_comm]

/-- Operands that all fit are added up. -/
theorem foldlM_insertField_of_fits (opcode : Opcode) (operands : List (Field × Word)) (low : Nat)
    (word : CodeWord) (hstacked : Field.Stacked low (operands.map Prod.fst))
    (hword : word.toNat < 2 ^ low) (hlow : low ≤ wordBits)
    (hfits : ∀ operand ∈ operands, operand.1.Fits operand.2) :
    ∃ packed : CodeWord, operands.foldlM (insertField opcode) word = .ok packed ∧
      packed.toNat = word.toNat + amount operands ∧ packed.toNat < 2 ^ wordBits := by
  induction operands generalizing low word with
  | nil =>
    have hpow : 2 ^ low ≤ 2 ^ wordBits := Nat.pow_le_pow_right (by decide) hlow
    exact ⟨word, rfl, rfl, by omega⟩
  | cons operand rest ih =>
    obtain ⟨field, value⟩ := operand
    obtain ⟨hoffset, hend, hrest⟩ := hstacked
    have hbelow : word.toNat < 2 ^ field.offset :=
      Nat.lt_of_lt_of_le hword (Nat.pow_le_pow_right (by decide) hoffset)
    obtain ⟨next, hnext, hsum, hlt⟩ := insertField_of_fits opcode word field value hbelow
      (hfits _ List.mem_cons_self) hend
    obtain ⟨packed, hpacked, htotal, hbound⟩ := ih _ next hrest hlt hend
      (fun operand hmem => hfits operand (List.mem_cons_of_mem _ hmem))
    refine ⟨packed, ?_, ?_, hbound⟩
    · rw [List.foldlM_cons, hnext]
      exact hpacked
    · rw [htotal, hsum, amount_cons, Nat.add_assoc]

/-! ### Operands of an opcode -/

/-- The fields of an opcode, each with the operand that is written to it. -/
def slots (opcode : Opcode) (values : List Word) : List (Field × Word) :=
  (Layout.canonical.fields opcode).zip values

/-- What is asked of the operands of an opcode: there are as many as fields, and then each
    of them, in the order of the fields, has room in its own. -/
def checks (opcode : Opcode) (values : List Word) : List (Check EncodeError) :=
  ⟨values.length = (Layout.canonical.fields opcode).length,
      .fieldCount opcode (Layout.canonical.fields opcode).length values.length⟩ ::
    (slots opcode values).map (room opcode)

/-- Operands have a code word exactly if they pass all the checks. -/
theorem governs_encodeFields (opcode : Opcode) (values : List Word) :
    Check.Governs (checks opcode values) (encodeFields opcode values) :=
  Check.Governs.stop_unless rfl <| Check.Governs.foldlM _
    (fun _ hmem word => governs_insertField opcode word
      (Layout.offset_width_lt _ _ (List.of_mem_zip hmem).1).2) _

theorem stacked_slots {opcode : Opcode} {values : List Word}
    (hlength : values.length = (Layout.canonical.fields opcode).length) :
    Field.Stacked Field.tag.width ((slots opcode values).map Prod.fst) := by
  rw [slots, List.map_fst_zip (Nat.le_of_eq hlength.symm)]
  exact Layout.stacked_fields _ _

private theorem toNat_tag_lt (opcode : Opcode) :
    opcode.tag.toUInt64.toNat < 2 ^ Field.tag.width := by
  cases opcode <;> decide

/-- As many operands as there are fields, which all fit, have a code word: the tag and the
    operands in their fields, added up. -/
theorem exists_encodeFields {opcode : Opcode} {values : List Word}
    (hlength : values.length = (Layout.canonical.fields opcode).length)
    (hfits : ∀ operand ∈ slots opcode values, operand.1.Fits operand.2) :
    ∃ word : CodeWord, encodeFields opcode values = .ok word ∧
      word.toNat = opcode.tag.toNat + amount (slots opcode values) ∧
      word.toNat < 2 ^ wordBits := by
  obtain ⟨word, hword, hsum, hlt⟩ := foldlM_insertField_of_fits opcode _ _ _
    (stacked_slots hlength) (toNat_tag_lt _) (by decide) hfits
  have hpack : encodeFields opcode values
      = (slots opcode values).foldlM (insertField opcode) opcode.tag.toUInt64 :=
    if_neg (not_not_intro hlength)
  exact ⟨word, hpack.trans hword, by rw [hsum, UInt8.toNat_toUInt64], hlt⟩

/-- Operands with a code word are as many as there are fields, and they all fit. -/
theorem fits_of_encodeFields {opcode : Opcode} {values : List Word} {word : CodeWord}
    (h : encodeFields opcode values = .ok word) :
    values.length = (Layout.canonical.fields opcode).length ∧
      ∀ operand ∈ slots opcode values, operand.1.Fits operand.2 := by
  have hall := (governs_encodeFields opcode values).exists_ok_iff.mp ⟨word, h⟩
  rw [checks, List.forall_mem_cons, List.forall_mem_map] at hall
  exact hall

/-- A code word is the tag and the operands in their fields, added up, and ends within its
    48 bits. -/
theorem toNat_of_encodeFields {opcode : Opcode} {values : List Word} {word : CodeWord}
    (h : encodeFields opcode values = .ok word) :
    word.toNat = opcode.tag.toNat + amount (slots opcode values) ∧ word.toNat < 2 ^ wordBits := by
  obtain ⟨hlength, hfits⟩ := fits_of_encodeFields h
  obtain ⟨word', hword', hsum⟩ := exists_encodeFields hlength hfits
  rw [h] at hword'
  cases hword'
  exact hsum

/-- Each operand of a code word is read back from its field. -/
theorem extract_of_encodeFields {opcode : Opcode} {values : List Word} {word : CodeWord}
    (h : encodeFields opcode values = .ok word) :
    ∀ operand ∈ slots opcode values, operand.1.extract word = operand.2 := by
  obtain ⟨hlength, hfits⟩ := fits_of_encodeFields h
  intro operand hmem
  have hbounds := Layout.offset_width_lt _ _ (List.of_mem_zip hmem).1
  -- the tag is what is below the operands
  have hvalue := amount_div_mod (stacked_slots hlength) opcode.tag.toNat_lt hfits operand hmem
  apply UInt32.toNat_inj.mp
  rw [Field.toNat_extract _ _ hbounds.1 hbounds.2, (toNat_of_encodeFields h).1, hvalue]
  exact Nat.mod_eq_of_lt (UInt32.toNat_lt _)

/-! ### Instructions -/

/-- The operands of an instruction, each with the field it is written to. -/
def placed (instruction : Instruction) : List (Field × Word) :=
  slots instruction.opcode instruction.fields

theorem stacked_placed (instruction : Instruction) :
    Field.Stacked Field.tag.width ((placed instruction).map Prod.fst) :=
  stacked_slots (Layout.length_fields _ _).symm

theorem encode_eq_foldlM (instruction : Instruction) :
    encode instruction = (placed instruction).foldlM (insertField instruction.opcode)
      instruction.opcode.tag.toUInt64 :=
  if_neg (not_not_intro (Layout.length_fields _ _).symm)

/-- Whether each operand of an instruction fits in its field. -/
def Encodable (instruction : Instruction) : Prop :=
  ∀ operand ∈ placed instruction, operand.1.Fits operand.2

/-- An instruction whose operands fit has a code word: its tag and its operands, added up. -/
theorem exists_encode (instruction : Instruction) (h : Encodable instruction) :
    ∃ word : CodeWord, encode instruction = .ok word ∧
      word.toNat = instruction.opcode.tag.toNat + amount (placed instruction) ∧
      word.toNat < 2 ^ wordBits :=
  exists_encodeFields (Layout.length_fields _ _).symm h

/-- Only an instruction whose operands fit has a code word. -/
theorem encodable_of_encode {instruction : Instruction} {word : CodeWord}
    (h : encode instruction = .ok word) : Encodable instruction :=
  (fits_of_encodeFields h).2

/-- The code word of an instruction is its tag and its operands added up, and there is one
    exactly if every operand fits. -/
theorem encode_eq_ok_iff (instruction : Instruction) (word : CodeWord) :
    encode instruction = .ok word ↔
      Encodable instruction ∧
        word.toNat = instruction.opcode.tag.toNat + amount (placed instruction) := by
  constructor
  · intro h
    exact ⟨encodable_of_encode h, (toNat_of_encodeFields h).1⟩
  · rintro ⟨hfits, hsum⟩
    obtain ⟨word', hword', hsum', -⟩ := exists_encode instruction hfits
    rw [hword', UInt64.toNat_inj.mp (hsum.trans hsum'.symm)]

/-- A code word that was written ends within its 48 bits. -/
theorem toNat_lt_of_encode {instruction : Instruction} {word : CodeWord}
    (h : encode instruction = .ok word) : word.toNat < 2 ^ wordBits :=
  (toNat_of_encodeFields h).2

end CodeWord

end Quartet
