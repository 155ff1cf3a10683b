import Quartet.Proofs.CodeWord.Cutting
import Quartet.Proofs.Run.Course

namespace Quartet

/-!
# Faults leave no trace

A word that is at fault is passed over.  So the words that are not at fault do by themselves what
they did in the stream, and words that cannot be read may stand anywhere between the others.

* `CodeWord.select` — some of the words of a stream, put together.
* `CodeWord.Padded` — a stream with words that cannot be read put into it.
* `Machine.visitAll_select`, `Machine.visitAll_padded` — what becomes of such streams.
* `Machine.run_faultless` — a stream with and without its faults.
-/

namespace CodeWord

/-! ### Some of the words -/

/-- The six bytes of the word at a position of a stream. -/
def bytesAt (code : List UInt8) (index : Nat) : List UInt8 :=
  (code.drop (wordBytes * index)).take wordBytes

theorem bytesAt_zero {bytes : List UInt8} (h : bytes.length = wordBytes) (rest : List UInt8) :
    bytesAt (bytes ++ rest) 0 = bytes := by
  rw [bytesAt, Nat.mul_zero, List.drop_zero, List.take_left' h]

/-- Behind the first word, words stand one position earlier. -/
theorem bytesAt_succ {bytes : List UInt8} (h : bytes.length = wordBytes) (rest : List UInt8)
    (index : Nat) : bytesAt (bytes ++ rest) (index + 1) = bytesAt rest index := by
  rw [bytesAt, bytesAt, Nat.mul_succ, Nat.add_comm, ← List.drop_drop, List.drop_left' h]

/-- The words of a stream whose positions are chosen, in their order.  A fragment at the end is
    no word. -/
def select (chosen : Nat → Bool) (code : List UInt8) : List UInt8 :=
  ((List.range (code.length / wordBytes)).filter chosen).flatMap (bytesAt code)

theorem select_fragment (chosen : Nat → Bool) {bytes : List UInt8}
    (h : bytes.length < wordBytes) : select chosen bytes = [] := by
  rw [select, Nat.div_eq_of_lt h]
  rfl

/-- The first word is taken or left out, and the others are chosen from behind it. -/
theorem select_word (chosen : Nat → Bool) {bytes : List UInt8} (h : bytes.length = wordBytes)
    (rest : List UInt8) :
    select chosen (bytes ++ rest)
      = (if chosen 0 then bytes else []) ++ select (fun index => chosen (index + 1)) rest := by
  have hrest : ((List.range (rest.length / wordBytes)).map Nat.succ).filter chosen
      = ((List.range (rest.length / wordBytes)).filter fun index => chosen (index + 1)).map
          Nat.succ := by
    rw [List.filter_map]
    rfl
  rw [select, select, length_div_of_word h, List.range_succ_eq_map, List.filter_cons, hrest]
  split
  · rw [List.flatMap_cons, bytesAt_zero h, List.flatMap_map]
    simp only [Nat.succ_eq_add_one, bytesAt_succ h]
  · rw [List.flatMap_map]
    simp only [Nat.succ_eq_add_one, bytesAt_succ h, List.nil_append]

/-! ### Words that cannot be read -/

/-- Whether a stream comes from another one by putting in words that cannot be read, at the
    boundaries of words, and a fragment at the end of whole words. -/
inductive Padded (layout : Layout) : List UInt8 → List UInt8 → Prop
  | same (code : List UInt8) : Padded layout code code
  /-- A fragment is put in where the stream has ended. -/
  | fragment {bytes : List UInt8} (hshort : bytes.length < wordBytes) : Padded layout [] bytes
  /-- A word of the stream stays. -/
  | word {bytes code padded : List UInt8} (hlength : bytes.length = wordBytes)
      (hrest : Padded layout code padded) : Padded layout (bytes ++ code) (bytes ++ padded)
  /-- A word that cannot be read is put in. -/
  | unreadable {bytes code padded : List UInt8} {error : DecodeError}
      (hlength : bytes.length = wordBytes) (herror : decode layout (ofBytes bytes) = .error error)
      (hrest : Padded layout code padded) : Padded layout code (bytes ++ padded)

/-- A fragment may stand behind whole words. -/
theorem padded_append_fragment (layout : Layout) {code fragment : List UInt8}
    (hwhole : wordBytes ∣ code.length) (hshort : fragment.length < wordBytes) :
    Padded layout code (code ++ fragment) := by
  induction code using wordwise with
  | nil => exact .fragment hshort
  | fragment bytes hne hbytes => exact absurd hwhole (not_dvd_of_fragment hne hbytes)
  | word bytes rest hlength ih =>
    rw [List.append_assoc]
    exact .word hlength (ih (dvd_length_of_word hlength hwhole))

end CodeWord

namespace Machine

/-! ### What becomes of the pieces -/

/-- The words of a stream that nothing was wrong with change the machine as the stream did, and
    nothing is wrong with them by themselves. -/
theorem visitAll_select (layout : Layout) (machine : Machine) {chosen : Nat → Bool}
    {code : List UInt8}
    (h : ∀ index, index < code.length / wordBytes →
      (chosen index = true ↔
        (machine.visitAll layout (CodeWord.ofStream code)).2[index]? = some none)) :
    machine.visitAll layout (CodeWord.ofStream (CodeWord.select chosen code))
      = ((machine.visitAll layout (CodeWord.ofStream code)).1,
          List.replicate ((machine.visitAll layout (CodeWord.ofStream code)).2.count none)
            none) := by
  -- the machine varies, and so do the positions, which are counted from the word that is next
  induction code using CodeWord.wordwise generalizing machine chosen with
  | nil => rfl
  | fragment bytes hne hshort =>
    rw [CodeWord.select_fragment chosen hshort, CodeWord.ofStream_fragment hne hshort]
    rfl
  | word bytes rest hlength ih =>
    rw [CodeWord.ofStream_word hlength, visitAll_cons, CodeWord.length_div_of_word hlength] at h
    rw [CodeWord.select_word chosen hlength, CodeWord.ofStream_word hlength, visitAll_cons]
    have hfirst := h 0 (Nat.succ_pos _)
    have hrest := ih (machine.visit layout (.ok (CodeWord.ofBytes bytes))).1
      fun index hindex => h (index + 1) (Nat.succ_lt_succ hindex)
    rw [List.getElem?_cons_zero] at hfirst
    cases hcause : (machine.visit layout (.ok (CodeWord.ofBytes bytes))).2 with
    | none =>
      have hchosen : chosen 0 = true := hfirst.mpr (by rw [hcause])
      rw [if_pos hchosen, CodeWord.ofStream_word hlength, visitAll_cons, hcause, hrest,
        List.count_cons_self, List.replicate_succ]
    | some cause =>
      have hleft : ¬ chosen 0 = true := fun hchosen => by
        have hnone := hfirst.mp hchosen
        rw [hcause] at hnone
        cases hnone
      -- a word that is left out has changed nothing
      have hsame : (machine.visit layout (.ok (CodeWord.ofBytes bytes))).1 = machine := by
        rw [visit_of_fault hcause]
      rw [hsame] at hrest ⊢
      rw [if_neg hleft, List.nil_append, hrest, List.count_cons_of_ne (by simp)]

/-- Words that cannot be read, and fragments, change nothing and are not executed. -/
theorem visitAll_padded {layout : Layout} {code padded : List UInt8}
    (h : CodeWord.Padded layout code padded) (machine : Machine) :
    (machine.visitAll layout (CodeWord.ofStream padded)).1
        = (machine.visitAll layout (CodeWord.ofStream code)).1 ∧
      (machine.visitAll layout (CodeWord.ofStream padded)).2.count none
        = (machine.visitAll layout (CodeWord.ofStream code)).2.count none := by
  induction h generalizing machine with
  | same code => exact ⟨rfl, rfl⟩
  | @fragment bytes hshort =>
    by_cases hempty : bytes = []
    · rw [hempty]
      exact ⟨rfl, rfl⟩
    · rw [CodeWord.ofStream_fragment hempty hshort]
      exact ⟨rfl, rfl⟩
  | @word bytes code padded hlength _ ih =>
    obtain ⟨hmachine, hcount⟩ := ih (machine.visit layout (.ok (CodeWord.ofBytes bytes))).1
    rw [CodeWord.ofStream_word hlength, CodeWord.ofStream_word hlength, visitAll_cons,
      visitAll_cons, List.count_cons, List.count_cons, hmachine, hcount]
    exact ⟨rfl, rfl⟩
  | @unreadable bytes code padded error hlength herror _ ih =>
    have hread : ((.ok (CodeWord.ofBytes bytes) : Piece) >>= CodeWord.decode layout)
        = .error error := herror
    rw [CodeWord.ofStream_word hlength, visitAll_cons, visit_of_error machine hread,
      List.count_cons_of_ne (by simp)]
    exact ih machine

end Machine

/-! ### Whole streams -/

/-- Whether a run has found no fault at a position of its stream. -/
def Run.isFaultless (run : Run) (index : Nat) : Bool := run.faults.all (·.index != index)

namespace Machine

/-- Of a whole word, nothing was wrong with it exactly if the run has no fault at its position. -/
theorem isFaultless_iff (machine : Machine) (options : RunOptions) (code : List UInt8)
    {index : Nat} (h : index < code.length / wordBytes) :
    (machine.run options code).isFaultless index = true ↔
      (machine.visitAll options.layout (CodeWord.ofStream code)).2[index]? = some none := by
  have hlength : index <
      (machine.visitAll options.layout (CodeWord.ofStream code)).2.length := by
    rw [length_visitAll, CodeWord.length_ofStream]
    rw [wordBytes] at h
    omega
  have hcause := List.getElem?_eq_getElem hlength
  rw [Run.isFaultless, Array.all_eq_true_iff_forall_mem]
  constructor
  · intro hfaultless
    cases hfound : (machine.visitAll options.layout (CodeWord.ofStream code)).2[index] with
    | none => rw [hcause, hfound]
    | some cause =>
      have hmem : ⟨index, cause⟩ ∈ (machine.run options code).faults :=
        mem_faults_iff.mpr (by rw [hcause, hfound])
      simpa using hfaultless _ hmem
  · intro hnone fault hmem
    have hfound := mem_faults_iff.mp hmem
    rw [bne_iff_ne]
    rintro rfl
    rw [hnone] at hfound
    cases hfound

/-- The words of a stream that were not at fault, by themselves, leave the machine as the stream
    did, all of them are executed, and none is at fault.  So words that cannot be read make no
    difference to the machine and to the number of executed words, wherever they are put in, and
    neither does a fragment behind whole words. -/
theorem run_faultless (machine : Machine) (options : RunOptions) (code : List UInt8) :
    let run := machine.run options code
    let kept := machine.run options (CodeWord.select run.isFaultless code)
    (kept.machine = run.machine ∧ kept.words = run.executed ∧ kept.executed = run.executed ∧
        kept.faults = #[]) ∧
      (∀ padded, CodeWord.Padded options.layout code padded →
        (machine.run options padded).machine = run.machine ∧
          (machine.run options padded).executed = run.executed) ∧
      ∀ fragment, wordBytes ∣ code.length → fragment.length < wordBytes →
        (machine.run options (code ++ fragment)).machine = run.machine ∧
          (machine.run options (code ++ fragment)).executed = run.executed := by
  intro run kept
  have hkept := visitAll_select options.layout machine fun index hindex =>
    isFaultless_iff machine options code hindex
  have hpadded : ∀ padded, CodeWord.Padded options.layout code padded →
      (machine.run options padded).machine = run.machine ∧
        (machine.run options padded).executed = run.executed := by
    intro padded h
    obtain ⟨hmachine, hcount⟩ := visitAll_padded h machine
    rw [machine_run, machine_run, executed_run, executed_run]
    exact ⟨hmachine, hcount⟩
  refine ⟨⟨?_, ?_, ?_, ?_⟩, hpadded, fun fragment hwhole hshort =>
    hpadded _ (CodeWord.padded_append_fragment options.layout hwhole hshort)⟩
  · rw [machine_run, machine_run, hkept]
  · rw [words_run, executed_run, ← length_visitAll options.layout machine, hkept,
      List.length_replicate]
  · rw [executed_run, executed_run, hkept, List.count_replicate_self]
  · refine Array.eq_empty_iff_forall_not_mem.mpr fun fault hmem => ?_
    have hfound := mem_faults_iff.mp hmem
    rw [hkept] at hfound
    cases List.eq_of_mem_replicate (List.mem_of_getElem? hfound)

/-- The word that loads 187, with a word that no opcode has before it, or a fragment behind it. -/
theorem run_faultless_load :
    let load : List UInt8 := [0xC3, 0xDC, 0x05, 0x00, 0x00, 0x00]
    let unknown : List UInt8 := [0xFF, 0x01, 0x02, 0x03, 0x04, 0x05]
    let fragment : List UInt8 := [0xC3, 0x00]
    CodeWord.Padded .reference load (unknown ++ load) ∧
      (zero.run {} (unknown ++ load)).machine = (zero.run {} load).machine ∧
      (wordBytes ∣ load.length ∧ fragment.length < wordBytes) ∧
      (zero.run {} (load ++ fragment)).machine.get? (.register 4) = some 187 ∧
      (zero.run {} (load ++ fragment)).executed = 1 := by
  intro load unknown fragment
  have hunread : CodeWord.decode .reference (CodeWord.ofBytes unknown)
      = .error (.unknownOpcode 0xFF) := by decide
  have hpadded : CodeWord.Padded .reference load (unknown ++ load) :=
    .unreadable rfl hunread (.same load)
  have hwhole : wordBytes ∣ load.length := by decide
  have hshort : fragment.length < wordBytes := by decide
  obtain ⟨-, hinserted, happended⟩ := run_faultless zero {} load
  obtain ⟨hmachine, hexecuted⟩ := happended fragment hwhole hshort
  refine ⟨hpadded, (hinserted _ hpadded).1, ⟨hwhole, hshort⟩, ?_, ?_⟩
  · rw [hmachine]
    rfl
  · rw [hexecuted]
    rfl

end Machine

end Quartet
