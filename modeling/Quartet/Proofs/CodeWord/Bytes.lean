import Quartet.CodeWord.Stream
import Mathlib.Data.Nat.Digits.Defs
import Mathlib.Tactic.Ring

namespace Quartet

/-!
# Words and their bytes

The six bytes of a word are its digits to the base 256, the lowest first.  A word within its
48 bits and six bytes determine each other, and a stream of such words is cut where it was
joined.

* `CodeWord.toNat_ofBytes` — the number that bytes stand for.
* `CodeWord.ofBytes_toBytes`, `CodeWord.toBytes_ofBytes` — words and their bytes.
* `CodeWord.ofStream_flatMap_toBytes_eq_mod`, `CodeWord.ofStream_flatMap_toBytes` — the words of a
  stream that was written.
-/

namespace CodeWord

/-! ### One word -/

private theorem toNat_or_byte (word : CodeWord) (byte : UInt8) (h : word.toNat < 2 ^ 56) :
    (word <<< 8 ||| byte.toUInt64).toNat = byte.toNat + 256 * word.toNat := by
  have hshift : (word <<< 8).toNat = word.toNat <<< 8 := by
    rw [UInt64.toNat_shiftLeft]
    exact Nat.mod_eq_of_lt (by rw [Nat.shiftLeft_eq]; show word.toNat * 2 ^ 8 < _; omega)
  rw [UInt64.toNat_or, hshift, UInt8.toNat_toUInt64,
    ← Nat.shiftLeft_add_eq_or_of_lt byte.toNat_lt, Nat.shiftLeft_eq]
  omega

private theorem digit_lt {bytes : List UInt8} : ∀ digit ∈ bytes.map UInt8.toNat, digit < 256 := by
  intro digit hmem
  obtain ⟨byte, -, rfl⟩ := List.mem_map.mp hmem
  exact byte.toNat_lt

private theorem ofDigits_lt (bytes : List UInt8) :
    Nat.ofDigits 256 (bytes.map UInt8.toNat) < 256 ^ bytes.length := by
  have h := Nat.ofDigits_lt_base_pow_length (by decide : 1 < 256) (@digit_lt bytes)
  rwa [List.length_map] at h

/-- Up to eight bytes stand for the number whose digits they are. -/
theorem toNat_ofBytes (bytes : List UInt8) (h : bytes.length ≤ 8) :
    (ofBytes bytes).toNat = Nat.ofDigits 256 (bytes.map UInt8.toNat) := by
  induction bytes with
  | nil => rfl
  | cons byte rest ih =>
    have hrest : rest.length ≤ 7 := Nat.le_of_succ_le_succ h
    have hvalue := ih (Nat.le_succ_of_le hrest)
    have hlt : (ofBytes rest).toNat < 2 ^ 56 := by
      rw [hvalue]
      calc Nat.ofDigits 256 (rest.map UInt8.toNat)
          < 256 ^ rest.length := ofDigits_lt rest
        _ ≤ 256 ^ 7 := Nat.pow_le_pow_right (by decide) hrest
    show (ofBytes rest <<< 8 ||| byte.toUInt64).toNat = _
    rw [toNat_or_byte _ _ hlt, hvalue, List.map_cons, Nat.ofDigits_cons]

/-- Six bytes stand for a number of 48 bits. -/
theorem toNat_ofBytes_lt {bytes : List UInt8} (h : bytes.length = wordBytes) :
    (ofBytes bytes).toNat < 2 ^ wordBits := by
  have hle : bytes.length ≤ 8 := by rw [h]; decide
  have hlt := ofDigits_lt bytes
  rw [toNat_ofBytes bytes hle]
  rwa [h] at hlt

/-- The bytes of a word stand for its low 48 bits. -/
theorem toNat_ofBytes_toBytes (word : CodeWord) :
    (ofBytes (toBytes word)).toNat = word.toNat % 2 ^ wordBits := by
  rw [toNat_ofBytes _ (by rw [length_toBytes]; decide)]
  simp only [toBytes, List.map_cons, List.map_nil, Nat.ofDigits_cons, Nat.ofDigits_nil,
    UInt64.toNat_toUInt8, UInt64.toNat_shiftRight, Nat.shiftRight_eq_div_pow, wordBits]
  simp
  omega

/-- The bytes of a word stand for the word without the bits above the low 48. -/
theorem ofBytes_toBytes_eq_mod (word : CodeWord) :
    ofBytes (toBytes word) = UInt64.ofNat (word.toNat % 2 ^ wordBits) := by
  apply UInt64.toNat_inj.mp
  have hlt : word.toNat % 2 ^ wordBits < 2 ^ 64 :=
    Nat.lt_of_le_of_lt (Nat.mod_le _ _) word.toNat_lt
  rw [toNat_ofBytes_toBytes, UInt64.toNat_ofNat_of_lt' hlt]

/-- A word within its 48 bits is the one its bytes stand for. -/
theorem ofBytes_toBytes {word : CodeWord} (h : word.toNat < 2 ^ wordBits) :
    ofBytes (toBytes word) = word := by
  rw [ofBytes_toBytes_eq_mod, Nat.mod_eq_of_lt h, UInt64.ofNat_toNat]

/-- Six bytes are those of the word they stand for. -/
theorem toBytes_ofBytes {bytes : List UInt8} (h : bytes.length = wordBytes) :
    toBytes (ofBytes bytes) = bytes := by
  have hlt := toNat_ofBytes_lt h
  have hle : bytes.length ≤ 8 := by rw [h]; decide
  -- both lists are the six digits of one number
  have hdigits : Nat.ofDigits 256 ((toBytes (ofBytes bytes)).map UInt8.toNat)
      = Nat.ofDigits 256 (bytes.map UInt8.toNat) := by
    rw [← toNat_ofBytes bytes hle, ← toNat_ofBytes _ (by rw [length_toBytes]; decide),
      ofBytes_toBytes hlt]
  have hmap := Nat.ofDigits_inj_of_len_eq (by decide) (by simp [h]) digit_lt digit_lt hdigits
  exact (List.map_inj_right fun _ _ => UInt8.toNat_inj.mp).mp hmap

/-! ### Streams -/

theorem ofStream_toBytes_append (word : CodeWord) (rest : List UInt8) :
    ofStream (toBytes word ++ rest) = .ok (ofBytes (toBytes word)) :: ofStream rest := rfl

/-- A stream of words is cut into these words, each without the bits above its low 48. -/
theorem ofStream_flatMap_toBytes_eq_mod (words : List CodeWord) :
    ofStream (words.flatMap toBytes)
      = words.map fun word => .ok (UInt64.ofNat (word.toNat % 2 ^ wordBits)) := by
  induction words with
  | nil => rfl
  | cons word rest ih =>
    rw [List.flatMap_cons, ofStream_toBytes_append, ofBytes_toBytes_eq_mod, ih, List.map_cons]

/-- A stream of words within their 48 bits is cut into these words. -/
theorem ofStream_flatMap_toBytes (words : List CodeWord)
    (h : ∀ word ∈ words, word.toNat < 2 ^ wordBits) :
    ofStream (words.flatMap toBytes) = words.map .ok := by
  rw [ofStream_flatMap_toBytes_eq_mod]
  refine List.map_congr_left fun word hmem => ?_
  rw [Nat.mod_eq_of_lt (h word hmem), UInt64.ofNat_toNat]

end CodeWord

end Quartet
