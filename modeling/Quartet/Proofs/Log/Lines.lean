import Quartet.Log.Line
import Quartet.Proofs.CodeWord.Packing
import Quartet.Proofs.Text.Plain

namespace Quartet

open Text

/-!
# Lines of the log

What is wrong with a word or an operand is told in plain text, so that escaping leaves it as it
is.  Tokens may hold any other characters, but no line break.  So every event takes one line, and
the lines that the standard filter shows can be written down.

* `Fault.Cause.isPlain_message`, `EncodeError.isPlain_message`, `SyntaxError.isUnbroken_message` —
  the characters of messages.
* `Log.isLine_line` — an event takes one line.
* `Log.faultLine`, `Log.strayLine`, `Log.skippedLine`, `Log.stoppedLine` — the lines of warnings
  and errors.
* `Log.text_standard` — what is shown where nothing else is set.
-/

/-! ### Messages -/

theorem Opcode.isPlain_name (opcode : Opcode) : IsPlain opcode.name := by
  cases opcode <;> decide

theorem SyntaxError.Cause.isPlain_message (cause : SyntaxError.Cause) : IsPlain cause.message := by
  cases cause <;> decide

theorem DecodeError.isPlain_message (error : DecodeError) : IsPlain error.message := by
  cases error with
  | unknownOpcode tag =>
    show IsPlain (_ ++ toString tag.toNat)
    rw [isPlain_append_iff]
    exact ⟨by decide, isPlain_toString _⟩
  | invalidOpcode expected found =>
    show IsPlain (_ ++ expected.name ++ _ ++ toString found.toNat)
    simp only [isPlain_append_iff]
    exact ⟨⟨⟨by decide, expected.isPlain_name⟩, by decide⟩, isPlain_toString _⟩
  | truncatedWord length =>
    show IsPlain (_ ++ toString length ++ _)
    simp only [isPlain_append_iff]
    exact ⟨⟨by decide, isPlain_toString _⟩, by decide⟩

theorem Address.isPlain_text (address : Address) : IsPlain address.text := by
  cases address with
  | register index =>
    show IsPlain (_ ++ toString index.toNat ++ _)
    simp only [isPlain_append_iff]
    exact ⟨⟨by decide, isPlain_toString _⟩, by decide⟩
  | memory index =>
    show IsPlain (_ ++ toString index.toNat ++ _)
    simp only [isPlain_append_iff]
    exact ⟨⟨by decide, isPlain_toString _⟩, by decide⟩

theorem Instruction.isPlain_summary (instruction : Instruction) :
    IsPlain instruction.summary := by
  refine isPlain_intercalate (by decide) fun text hmem => ?_
  rw [← List.map_uncurry_zip_eq_zipWith] at hmem
  obtain ⟨⟨letter, value⟩, hpair, rfl⟩ := List.mem_map.mp hmem
  have hletters : ∀ name ∈ fieldLetters.map toString, IsPlain name := by decide
  show IsPlain (toString letter ++ _ ++ toString value.toNat)
  simp only [isPlain_append_iff]
  have hletter := hletters _ (List.mem_map_of_mem (List.of_mem_zip hpair).1)
  exact ⟨⟨hletter, by decide⟩, isPlain_toString _⟩

theorem OutOfBounds.isPlain_message (error : OutOfBounds) : IsPlain error.message := by
  obtain ⟨instruction, address⟩ := error
  show IsPlain (_ ++ address.text ++ _ ++ instruction.opcode.name ++ _ ++ instruction.summary)
  simp only [isPlain_append_iff]
  exact ⟨⟨⟨⟨⟨by decide, address.isPlain_text⟩, by decide⟩, instruction.opcode.isPlain_name⟩,
    by decide⟩, instruction.isPlain_summary⟩

/-- What is wrong with a word is told in printable ASCII characters. -/
theorem Fault.Cause.isPlain_message (cause : Fault.Cause) : IsPlain cause.message := by
  cases cause with
  | decoding error => exact error.isPlain_message
  | execution error => exact error.isPlain_message

/-- Why an instruction has no code word is told in printable ASCII characters. -/
theorem EncodeError.isPlain_message {instruction : Instruction} {error : EncodeError}
    (h : CodeWord.encode instruction = .error error) : IsPlain error.message := by
  -- the error is that of a check, and those name fields by their letters
  obtain ⟨check, hmem, -, rfl⟩ := ((CodeWord.governs_encodeFields _ _ error).mp h).exists_mem
  rcases List.mem_cons.mp hmem with rfl | hmem
  · show IsPlain (instruction.opcode.name ++ _ ++ toString (List.length _) ++ _ ++
      toString (List.length _))
    simp only [isPlain_append_iff]
    exact ⟨⟨⟨⟨instruction.opcode.isPlain_name, by decide⟩, isPlain_toString _⟩, by decide⟩,
      isPlain_toString _⟩
  · obtain ⟨⟨field, value⟩, hslot, rfl⟩ := List.mem_map.mp hmem
    have hletters : ∀ field ∈ Layout.canonical.fields instruction.opcode,
        IsPlain (toString field.name) := by
      cases instruction.opcode <;> decide
    show IsPlain (instruction.opcode.name ++ _ ++ toString field.name ++ _ ++
      toString value.toNat ++ _ ++ toString field.width ++ _)
    simp only [isPlain_append_iff]
    exact ⟨⟨⟨⟨⟨⟨⟨instruction.opcode.isPlain_name, by decide⟩,
      hletters field (List.of_mem_zip hslot).1⟩, by decide⟩, isPlain_toString _⟩, by decide⟩,
      isPlain_toString _⟩, by decide⟩

/-- A malformed statement is told of without a line break, if its tokens hold none. -/
theorem SyntaxError.isUnbroken_message {error : SyntaxError} (hmnemonic : IsUnbroken error.mnemonic)
    (htokens : ∀ token ∈ error.tokens, IsUnbroken token) : IsUnbroken error.message := by
  have hjoined : IsUnbroken (" ".intercalate error.tokens) :=
    isUnbroken_intercalate (by decide) htokens
  have hname := error.opcode.isPlain_name.isUnbroken
  have hcause := error.cause.isPlain_message.isUnbroken
  unfold message
  simp only [isUnbroken_append_iff]
  exact ⟨⟨⟨⟨⟨⟨⟨⟨⟨by decide, isUnbroken_toString _⟩, by decide⟩, hname⟩, by decide⟩, hcause⟩,
    by decide⟩, ⟨by decide, hmnemonic⟩, by decide⟩, hjoined⟩, by decide⟩

namespace Log

/-! ### Events as lines -/

/-- The details of an event as they are shown. -/
def detailsText (details : List (String × Detail)) : String :=
  String.join (details.map fun (name, detail) => s!" {name}={detailText detail}")

theorem detailsText_nil : detailsText [] = "" := rfl

theorem detailsText_cons (name : String) (detail : Detail) (rest : List (String × Detail)) :
    detailsText ((name, detail) :: rest)
      = " " ++ name ++ "=" ++ detailText detail ++ detailsText rest :=
  String.join_cons

/-- The line of an event, put together. -/
theorem line_eq (event : Event) :
    line event = levelText event.level ++ " " ++ harmless event.message ++
      detailsText event.details ++ "\n" := rfl

/-- The names of details are plain. -/
theorem isPlain_of_mem_details {event : Event} {detail : String × Detail}
    (h : detail ∈ event.details) : IsPlain detail.1 := by
  have hname : detail.1 ∈ event.details.map (·.1) := List.mem_map_of_mem h
  have hplain : ∀ name ∈ event.details.map (·.1), IsPlain name := by
    -- the names are those of the kind of event, whatever its values are
    cases event
    all_goals
      simp only [Event.details, List.map_cons, List.map_nil]
      decide
  exact hplain _ hname

theorem isPlain_levelText (level : Level) : IsPlain (levelText level) := by
  cases level <;> decide

/-- An event takes one line if no line break stands in its message and in the values of its
    details. -/
theorem isLine_line {event : Event} (hmessage : IsUnbroken event.message)
    (hdetails : ∀ detail ∈ event.details, IsUnbroken (detailText detail.2)) :
    IsLine (line event) := by
  refine ⟨_, line_eq event, ?_⟩
  have hjoined : IsUnbroken (detailsText event.details) := by
    apply forall_mem_join
    intro text hmem
    obtain ⟨detail, hdetail, rfl⟩ := List.mem_map.mp hmem
    have hname := (isPlain_of_mem_details hdetail).isUnbroken
    show IsUnbroken (" " ++ detail.1 ++ "=" ++ detailText detail.2)
    simp only [isUnbroken_append_iff]
    exact ⟨⟨⟨by decide, hname⟩, by decide⟩, hdetails detail hdetail⟩
  simp only [isUnbroken_append_iff]
  exact ⟨⟨⟨(isPlain_levelText _).isUnbroken, by decide⟩, isUnbroken_harmless hmessage⟩, hjoined⟩

/-- The line of a warning: what it says, and its details. -/
def warning (message details : String) : String := " WARN " ++ message ++ details ++ "\n"

/-- The line of a fault. -/
def faultLine (fault : Fault) : String := warning fault.cause.message s!" index={fault.index}"

/-- The line of a token that is passed over. -/
def strayLine (token : Token) : String :=
  warning "skipping token that is not a mnemonic" s!" line={token.line} token={quoted token.text}"

/-- The line that ends the lines of faults. -/
def skippedLine (faults : Nat) : String :=
  warning "some code words were skipped" s!" faults={faults}"

/-- The line of an assembly that stopped. -/
def stoppedLine (input : String) (error : AssemblyError) (kept : Nat) : String :=
  s!"ERROR {harmless error.message} input={input} assembled={kept}\n"

/-- A warning is told as it is, if nothing in its message has to be written otherwise. -/
theorem line_of_warn (event : Event) (hlevel : event.level = .warn)
    (hmessage : IsPlain event.message) :
    line event = warning event.message (detailsText event.details) := by
  have hwarn : levelText .warn ++ " " = " WARN " := by decide
  rw [line_eq, hlevel, harmless_of_isPlain hmessage, hwarn, warning]

theorem line_faulted (fault : Fault) : line (.faulted fault) = faultLine fault := by
  have hindex : " " ++ "index" ++ "=" = " index=" := by decide
  refine (line_of_warn (.faulted fault) rfl fault.cause.isPlain_message).trans (congrArg _ ?_)
  rw [Event.details, detailsText_cons, detailsText_nil, hindex, String.append_empty]
  rfl

theorem line_strayToken (token : Token) : line (.strayToken token) = strayLine token := by
  have hplain : IsPlain "skipping token that is not a mnemonic" := by decide
  have hline : " " ++ "line" ++ "=" = " line=" := by decide
  have htoken : " " ++ "token" ++ "=" = " token=" := by decide
  refine (line_of_warn (.strayToken token) rfl hplain).trans (congrArg _ ?_)
  rw [Event.details, detailsText_cons, detailsText_cons, detailsText_nil, hline, htoken,
    String.append_empty, ← String.append_assoc]
  rfl

theorem line_wordsSkipped (faults : Nat) : line (.wordsSkipped faults) = skippedLine faults := by
  have hplain : IsPlain "some code words were skipped" := by decide
  have hfaults : " " ++ "faults" ++ "=" = " faults=" := by decide
  refine (line_of_warn (.wordsSkipped faults) rfl hplain).trans (congrArg _ ?_)
  rw [Event.details, detailsText_cons, detailsText_nil, hfaults, String.append_empty]
  rfl

theorem line_fileStopped (input : String) (error : AssemblyError) (kept : Nat) :
    line (.fileStopped input error kept) = stoppedLine input error kept := by
  have hinput : " " ++ "input" ++ "=" = " input=" := by decide
  have hassembled : " " ++ "assembled" ++ "=" = " assembled=" := by decide
  have herror : levelText .error ++ " " = "ERROR " := by decide
  rw [line_eq, Event.level, herror, Event.details, detailsText_cons, detailsText_cons,
    detailsText_nil, hinput, hassembled]
  simp only [String.append_empty, ← String.append_assoc]
  rfl

/-! ### One line each -/

theorem isLine_faultLine (fault : Fault) : IsLine (faultLine fault) := by
  rw [← line_faulted]
  refine isLine_line fault.cause.isPlain_message.isUnbroken (List.forall_mem_singleton.mpr ?_)
  exact isUnbroken_toString _

theorem isLine_strayLine (token : Token) : IsLine (strayLine token) := by
  have hmessage : IsUnbroken "skipping token that is not a mnemonic" := by decide
  rw [← line_strayToken]
  refine isLine_line hmessage (List.forall_mem_cons.mpr ⟨isUnbroken_toString _, ?_⟩)
  exact List.forall_mem_singleton.mpr (isUnbroken_quoted _)

theorem isLine_skippedLine (faults : Nat) : IsLine (skippedLine faults) := by
  have hmessage : IsUnbroken "some code words were skipped" := by decide
  rw [← line_wordsSkipped]
  exact isLine_line hmessage (List.forall_mem_singleton.mpr (isUnbroken_toString _))

/-- Only the error and the path can bring a line break into the line of an error. -/
theorem isLine_stoppedLine {input : String} {error : AssemblyError} (kept : Nat)
    (hinput : IsUnbroken input) (herror : IsUnbroken error.message) :
    IsLine (stoppedLine input error kept) := by
  rw [← line_fileStopped]
  refine isLine_line herror (List.forall_mem_cons.mpr ⟨hinput, ?_⟩)
  exact List.forall_mem_singleton.mpr (isUnbroken_toString _)

/-- The line of an error is broken where the path is, and nowhere else before its end. -/
theorem count_stoppedLine (input : String) {error : AssemblyError} (kept : Nat)
    (herror : IsUnbroken error.message) :
    (stoppedLine input error kept).toList.count '\n' = input.toList.count '\n' + 1 := by
  have hcount : ∀ {text : String}, IsUnbroken text → text.toList.count '\n' = 0 :=
    fun h => List.count_eq_zero.mpr fun hmem => h '\n' hmem rfl
  show ("ERROR " ++ harmless error.message ++ " input=" ++ input ++ " assembled=" ++ toString kept
    ++ "\n").toList.count '\n' = _
  simp only [String.toList_append, List.count_append, hcount (isUnbroken_harmless herror),
    hcount (isUnbroken_toString kept)]
  show 0 + 0 + 0 + input.toList.count '\n' + 0 + 0 + 1 = _
  omega

/-! ### Shown events -/

/-- Where nothing else is set, warnings and errors are shown. -/
theorem Filter.shows_standard_iff (event : Event) :
    Filter.standard.shows event = true ↔ event.level = .warn ∨ event.level = .error := by
  have hshows : Filter.standard.shows event = decide (rank event.level ≤ rank .warn) := rfl
  rw [hshows]
  cases event.level <;> decide

theorem text_append (filter : Filter) (first second : List Event) :
    text filter (first ++ second) = text filter first ++ text filter second := by
  simp only [text, List.filter_append, List.map_append, String.join_append]

theorem text_singleton (filter : Filter) (event : Event) :
    text filter [event] = if filter.shows event then line event else "" := by
  unfold text
  split
  case isTrue hshown =>
    rw [List.filter_cons_of_pos hshown, List.filter_nil, List.map_singleton, String.join_cons,
      String.join_nil, String.append_empty]
  case isFalse hshown =>
    rw [List.filter_cons_of_neg hshown, List.filter_nil, List.map_nil, String.join_nil]

/-- Of events without an error, the warnings are shown. -/
theorem text_standard {events : List Event} (h : ∀ event ∈ events, event.level ≠ .error) :
    text .standard events = String.join ((events.filter (·.level = .warn)).map line) := by
  have hshown : events.filter Filter.standard.shows = events.filter (·.level = .warn) := by
    apply List.filter_congr
    intro event hmem
    rw [Bool.eq_iff_iff, Filter.shows_standard_iff, decide_eq_true_iff]
    exact or_iff_left (h event hmem)
  rw [text, hshown]

end Log

end Quartet
