import Quartet.CodeWord.Decode

namespace Quartet

/-!
# Streams of code words

Code words are stored one after the other, six bytes each, the least significant byte first,
with nothing before, between or after them.

* `CodeWord.toBytes`, `CodeWord.ofBytes` — a word's six bytes, and the number bytes stand for.
* `CodeWord.ofStream` — a stream cut into words, a fragment at its end reported as such.
-/

namespace CodeWord

/-- The six low bytes of a word, the least significant first. -/
def toBytes (word : CodeWord) : List UInt8 :=
  [word.toUInt8, (word >>> 8).toUInt8, (word >>> 16).toUInt8,
    (word >>> 24).toUInt8, (word >>> 32).toUInt8, (word >>> 40).toUInt8]

/-- The number that bytes stand for, the least significant first. -/
def ofBytes (bytes : List UInt8) : CodeWord :=
  bytes.foldr (fun byte word => (word <<< 8) ||| byte.toUInt64) 0

/-- Cuts a stream into its words.  A fragment of one to five bytes at the end comes out as
    an error that says how long it is. -/
def ofStream : List UInt8 → List (Except DecodeError CodeWord)
  | [] => []
  | b₀ :: b₁ :: b₂ :: b₃ :: b₄ :: b₅ :: rest =>
    .ok (ofBytes [b₀, b₁, b₂, b₃, b₄, b₅]) :: ofStream rest
  | fragment => [.error (.truncatedWord fragment.length)]

@[simp] theorem length_toBytes (word : CodeWord) : (toBytes word).length = wordBytes := rfl

end CodeWord

end Quartet
