import Quartet.Proofs.CodeWord.Bytes

namespace Quartet

/-!
# Cutting streams

A stream is cut into pieces of six bytes, whatever they are, and at most one shorter piece at its
end.  So two streams that are put together are cut as they were before, if the first of them
consists of whole words.

* `CodeWord.wordwise` — induction on the words of a stream.
* `CodeWord.ofStream_append` — streams put together at the end of a word.
* `CodeWord.length_ofStream` — the number of pieces.
* `CodeWord.getElem?_ofStream_eq_error_iff` — where a stream has a fragment, and how long it is.
* `CodeWord.flatMap_toBytes_ofStream` — a stream put together again from its pieces.
* `CodeWord.ofStream_lossless` — what cutting leaves of a stream, and of words that were written.
-/

namespace CodeWord

/-! ### Words and fragments -/

/-- Six bytes at the front of a stream come out as their word. -/
theorem ofStream_word {bytes : List UInt8} (h : bytes.length = wordBytes) (rest : List UInt8) :
    ofStream (bytes ++ rest) = .ok (ofBytes bytes) :: ofStream rest := by
  have hcut := ofStream_toBytes_append (ofBytes bytes) rest
  rwa [toBytes_ofBytes h] at hcut

/-- One to five bytes come out as a fragment. -/
theorem ofStream_fragment {fragment : List UInt8} (hne : fragment ≠ [])
    (hshort : fragment.length < wordBytes) :
    ofStream fragment = [.error (.truncatedWord fragment.length)] := by
  rw [ofStream]
  · exact hne
  · rintro b₀ b₁ b₂ b₃ b₄ b₅ rest rfl
    simp only [List.length_cons, wordBytes] at hshort
    omega

/-- What holds of the empty stream, of all fragments, and of a stream with one more word in front
    if it holds of the stream, holds of all streams. -/
@[elab_as_elim]
theorem wordwise {motive : List UInt8 → Prop} (nil : motive [])
    (fragment : ∀ bytes, bytes ≠ [] → bytes.length < wordBytes → motive bytes)
    (word : ∀ bytes rest, bytes.length = wordBytes → motive rest → motive (bytes ++ rest))
    (code : List UInt8) : motive code := by
  by_cases hempty : code = []
  · exact hempty ▸ nil
  by_cases hshort : code.length < wordBytes
  · exact fragment code hempty hshort
  · have hlength : (code.take wordBytes).length = wordBytes :=
      List.length_take_of_le (Nat.not_lt.mp hshort)
    have hrest : motive (code.drop wordBytes) := wordwise nil fragment word (code.drop wordBytes)
    have hwhole := word _ _ hlength hrest
    rwa [List.take_append_drop] at hwhole
termination_by code.length
decreasing_by
  simp only [List.length_drop, wordBytes] at hshort ⊢
  omega

/-- A fragment is not made of whole words. -/
theorem not_dvd_of_fragment {bytes : List UInt8} (hne : bytes ≠ [])
    (hshort : bytes.length < wordBytes) : ¬ wordBytes ∣ bytes.length :=
  Nat.not_dvd_of_pos_of_lt (List.length_pos_iff.mpr hne) hshort

/-- Behind a word of a stream of whole words there are whole words. -/
theorem dvd_length_of_word {bytes rest : List UInt8} (hlength : bytes.length = wordBytes)
    (h : wordBytes ∣ (bytes ++ rest).length) : wordBytes ∣ rest.length := by
  rw [List.length_append, hlength] at h
  exact (Nat.dvd_add_right (Nat.dvd_refl _)).mp h

/-- A word in front of a stream is one whole word more. -/
theorem length_div_of_word {bytes : List UInt8} (hlength : bytes.length = wordBytes)
    (rest : List UInt8) :
    (bytes ++ rest).length / wordBytes = rest.length / wordBytes + 1 := by
  rw [List.length_append, hlength, Nat.add_div_left _ (by decide)]

/-! ### Pieces -/

/-- Streams put together are cut as they were before, if the first ends with a whole word. -/
theorem ofStream_append {first : List UInt8} (h : wordBytes ∣ first.length)
    (second : List UInt8) : ofStream (first ++ second) = ofStream first ++ ofStream second := by
  induction first using wordwise with
  | nil => rfl
  | fragment bytes hne hshort => exact absurd h (not_dvd_of_fragment hne hshort)
  | word bytes rest hlength ih =>
    rw [List.append_assoc, ofStream_word hlength, ofStream_word hlength,
      ih (dvd_length_of_word hlength h)]
    rfl

/-- A stream has a piece for every six bytes that begin in it. -/
theorem length_ofStream (code : List UInt8) : (ofStream code).length = (code.length + 5) / 6 := by
  induction code using wordwise with
  | nil => rfl
  | fragment bytes hne hshort =>
    have hpositive : 0 < bytes.length := List.length_pos_iff.mpr hne
    rw [ofStream_fragment hne hshort, List.length_singleton]
    simp only [wordBytes] at hshort
    omega
  | word bytes rest hlength ih =>
    rw [ofStream_word hlength, List.length_cons, ih, List.length_append, hlength, wordBytes]
    omega

/-- Only a fragment is no word: it stands behind all whole words, and is what their bytes leave
    over. -/
theorem getElem?_ofStream_eq_error_iff (code : List UInt8) (index : Nat) (error : DecodeError) :
    (ofStream code)[index]? = some (.error error) ↔
      index = code.length / 6 ∧ code.length % 6 ≠ 0 ∧
        error = .truncatedWord (code.length % 6) := by
  induction code using wordwise generalizing index with
  | nil => simp [ofStream]
  | fragment bytes hne hshort =>
    have hquotient : bytes.length / 6 = 0 := Nat.div_eq_of_lt hshort
    have hremainder : bytes.length % 6 = bytes.length := Nat.mod_eq_of_lt hshort
    rw [hquotient, hremainder, ofStream_fragment hne hshort]
    cases index with
    | zero => simp [hne, eq_comm]
    | succ index => simp
  | word bytes rest hlength ih =>
    have hquotient : (bytes ++ rest).length / 6 = rest.length / 6 + 1 :=
      length_div_of_word hlength rest
    have hremainder : (bytes ++ rest).length % 6 = rest.length % 6 := by
      rw [List.length_append, hlength, wordBytes, Nat.add_mod_left]
    rw [ofStream_word hlength, hquotient, hremainder]
    cases index with
    | zero => simp
    | succ index => rw [List.getElem?_cons_succ, ih, Nat.add_right_cancel_iff]

/-! ### Put together again -/

/-- The words of a stream are numbers of 48 bits. -/
theorem toNat_lt_of_mem_ofStream {code : List UInt8} {word : CodeWord}
    (h : .ok word ∈ ofStream code) : word.toNat < 2 ^ wordBits := by
  induction code using wordwise with
  | nil => cases h
  | fragment bytes hne hshort =>
    rw [ofStream_fragment hne hshort] at h
    cases List.mem_singleton.mp h
  | word bytes rest hlength ih =>
    rw [ofStream_word hlength] at h
    rcases List.mem_cons.mp h with hfirst | hrest
    · cases hfirst
      exact toNat_ofBytes_lt hlength
    · exact ih hrest

/-- Every piece but the last is a word: a fragment has nothing behind it. -/
theorem exists_word_of_lt {code : List UInt8} {index : Nat}
    (h : index + 1 < (ofStream code).length) :
    ∃ word, (ofStream code)[index]? = some (.ok word) := by
  have hindex : index < (ofStream code).length := Nat.lt_of_succ_lt h
  cases hpiece : (ofStream code)[index] with
  | ok word => exact ⟨word, by rw [List.getElem?_eq_getElem hindex, hpiece]⟩
  | error error =>
    have herror : (ofStream code)[index]? = some (.error error) := by
      rw [List.getElem?_eq_getElem hindex, hpiece]
    obtain ⟨hlast, -, -⟩ := (getElem?_ofStream_eq_error_iff code index error).mp herror
    rw [length_ofStream] at h
    omega

/-- The last piece is a fragment exactly if the bytes do not come out even. -/
theorem getLast?_ofStream_eq_error_iff (code : List UInt8) (error : DecodeError) :
    (ofStream code).getLast? = some (.error error) ↔
      code.length % 6 ≠ 0 ∧ error = .truncatedWord (code.length % 6) := by
  rw [List.getLast?_eq_getElem?, getElem?_ofStream_eq_error_iff, length_ofStream]
  constructor
  · rintro ⟨-, hodd, herror⟩
    exact ⟨hodd, herror⟩
  · rintro ⟨hodd, herror⟩
    exact ⟨by omega, hodd, herror⟩

/-- The bytes of the words of a stream, and those that are left over behind them, are the
    stream. -/
theorem flatMap_toBytes_ofStream (code : List UInt8) :
    ((ofStream code).filterMap Except.toOption).flatMap toBytes
      ++ code.drop (code.length - code.length % 6) = code := by
  induction code using wordwise with
  | nil => rfl
  | fragment bytes hne hshort =>
    have hremainder : bytes.length % 6 = bytes.length := Nat.mod_eq_of_lt hshort
    rw [ofStream_fragment hne hshort, hremainder, Nat.sub_self]
    rfl
  | word bytes rest hlength ih =>
    -- what is left over stands behind the rest as it does behind the whole
    have hleft : (bytes ++ rest).length - (bytes ++ rest).length % 6
        = bytes.length + (rest.length - rest.length % 6) := by
      rw [List.length_append, hlength, wordBytes]
      omega
    have hfirst : (ofStream (bytes ++ rest)).filterMap Except.toOption
        = ofBytes bytes :: (ofStream rest).filterMap Except.toOption := by
      rw [ofStream_word hlength]
      rfl
    rw [hfirst, hleft, List.flatMap_cons, toBytes_ofBytes hlength, List.drop_length_add_append,
      List.append_assoc, ih]

/-- A stream is cut into a piece for every six bytes that begin in it.  All pieces are words of 48
    bits, but for the last one if the bytes do not come out even, which says how many are left
    over.  The bytes of the words and those left over are the stream again.  And words that are
    written one after the other are cut apart again, each without the bits above its low 48. -/
theorem ofStream_lossless (code : List UInt8) (words : List CodeWord) :
    (ofStream code).length = (code.length + 5) / 6 ∧
      (∀ index, index + 1 < (ofStream code).length →
        ∃ word, (ofStream code)[index]? = some (.ok word)) ∧
      (∀ word, .ok word ∈ ofStream code → word.toNat < 2 ^ 48) ∧
      (∀ error, (ofStream code).getLast? = some (.error error) ↔
        code.length % 6 ≠ 0 ∧ error = .truncatedWord (code.length % 6)) ∧
      ((ofStream code).filterMap Except.toOption).flatMap toBytes
        ++ code.drop (code.length - code.length % 6) = code ∧
      ofStream (words.flatMap toBytes)
        = words.map fun word => .ok (UInt64.ofNat (word.toNat % 2 ^ 48)) :=
  ⟨length_ofStream code, fun _ => exists_word_of_lt, fun _ => toNat_lt_of_mem_ofStream,
    getLast?_ofStream_eq_error_iff code, flatMap_toBytes_ofStream code,
    ofStream_flatMap_toBytes_eq_mod words⟩

/-- Two words and two bytes, and a word with bits above its low 48. -/
theorem ofStream_lossless_fragment :
    let code : List UInt8 := [0xC3, 0xDC, 0x05, 0, 0, 0, 0x35, 0x86, 0x14, 0, 0, 0, 0x53, 0x2C]
    ofStream code = [.ok 0x5DCC3, .ok 0x148635, .error (.truncatedWord 2)] ∧
      (∃ word, (ofStream code)[1]? = some (.ok word)) ∧
      (0x148635 : CodeWord).toNat < 2 ^ 48 ∧
      ofStream (toBytes 0xFFFF_FFFF_FFFF_FF4A) = [.ok 0xFFFF_FFFF_FF4A] := by
  intro code
  have hcut : ofStream code = [.ok 0x5DCC3, .ok 0x148635, .error (.truncatedWord 2)] := by decide
  obtain ⟨hlength, hwords, hbits, -, -, hwritten⟩ :=
    ofStream_lossless code [0xFFFF_FFFF_FFFF_FF4A]
  refine ⟨hcut, hwords 1 (by rw [hlength]; decide), hbits _ ?_, hwritten⟩
  rw [hcut]
  exact .tail _ (.head _)

end CodeWord

end Quartet
