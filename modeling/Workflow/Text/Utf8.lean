/-!
# Text as bytes

UTF-8 in both directions over lists.

* `encode` writes each character with its one to four bytes.
* `next` reads one character, or drops the longest ill-formed start.
* `decode?` refuses ill-formed input, `decodeLossy` puts U+FFFD in its place.
-/

namespace Workflow

/-- Raw content: the bytes of a file, an object or an encoded value. -/
abbrev Bytes := List UInt8

namespace Utf8

/-- The bytes of a text, character by character. -/
def encodeChars (text : List Char) : Bytes := text.flatMap String.utf8EncodeChar

/-- The bytes of a string. -/
def encode (text : String) : Bytes := encodeChars text.toList

/-- The bytes of a code point, a half of a surrogate pair like a character of three bytes. -/
def encodeCode (code : Nat) : Bytes :=
  if code.isValidChar then String.utf8EncodeChar (Char.ofNat code)
  else [0xE0 + code / 4096, 0x80 + code / 64 % 64, 0x80 + code % 64].map UInt8.ofNat

/-- The bytes of code points, one by one. -/
def encodeCodes (codes : List Nat) : Bytes := codes.flatMap encodeCode

/-- What a first byte announces: how many bytes follow, the range of the second, and its own
bits. -/
structure Lead where
  following : Nat
  low : Nat
  high : Nat
  bits : Nat

/-- The announcement of a first byte; none for a byte that starts no character. -/
def lead? (byte : Nat) : Option Lead :=
  if byte < 0x80 then some ⟨0, 0, 0, byte⟩
  else if byte < 0xC2 then none
  else if byte < 0xE0 then some ⟨1, 0x80, 0xBF, byte - 0xC0⟩
  else if byte = 0xE0 then some ⟨2, 0xA0, 0xBF, 0⟩
  else if byte = 0xED then some ⟨2, 0x80, 0x9F, 13⟩
  else if byte < 0xF0 then some ⟨2, 0x80, 0xBF, byte - 0xE0⟩
  else if byte = 0xF0 then some ⟨3, 0x90, 0xBF, 0⟩
  else if byte < 0xF4 then some ⟨3, 0x80, 0xBF, byte - 0xF0⟩
  else if byte = 0xF4 then some ⟨3, 0x80, 0x8F, 4⟩
  else none

/-- Reads the bytes after a first one. The first of them has a range of its own. -/
def readTail : Nat → Nat → Nat → Nat → Bytes → Option Char × Bytes
  | 0, bits, _, _, rest => (some (Char.ofNat bits), rest)
  | _ + 1, _, _, _, [] => (none, [])
  | n + 1, bits, low, high, byte :: rest =>
    if low ≤ byte.toNat ∧ byte.toNat ≤ high then
      readTail n (bits * 64 + (byte.toNat - 0x80)) 0x80 0xBF rest
    else (none, byte :: rest)

/-- Reads one character after its first byte, or skips the longest ill-formed start. -/
def next (byte : UInt8) (rest : Bytes) : Option Char × Bytes :=
  match lead? byte.toNat with
  | some l => readTail l.following l.bits l.low l.high rest
  | none => (none, rest)

theorem readTail_length_le (n bits low high : Nat) (bytes : Bytes) :
    (readTail n bits low high bytes).2.length ≤ bytes.length := by
  induction n generalizing bits low high bytes with
  | zero => simp [readTail]
  | succ n ih =>
    cases bytes with
    | nil => simp [readTail]
    | cons byte rest =>
      simp only [readTail]
      split
      · exact Nat.le_succ_of_le (ih _ _ _ rest)
      · simp

theorem next_length_le (byte : UInt8) (rest : Bytes) :
    (next byte rest).2.length ≤ rest.length := by
  unfold next
  split
  · exact readTail_length_le _ _ _ _ rest
  · exact Nat.le_refl _

/-- The characters of well-formed bytes. -/
def decodeChars? (bytes : Bytes) : Option (List Char) :=
  match bytes with
  | [] => some []
  | byte :: rest =>
    have := next_length_le byte rest
    match (next byte rest).1 with
    | some c => (decodeChars? (next byte rest).2).map (c :: ·)
    | none => none
termination_by bytes.length
decreasing_by all_goals simp only [List.length_cons]; omega

/-- The text of well-formed bytes. -/
def decode? (bytes : Bytes) : Option String := (decodeChars? bytes).map String.ofList

/-- The characters of any bytes, with U+FFFD for each longest ill-formed start. -/
def decodeCharsLossy (bytes : Bytes) : List Char :=
  match bytes with
  | [] => []
  | byte :: rest =>
    have := next_length_le byte rest
    (next byte rest).1.getD '\uFFFD' :: decodeCharsLossy (next byte rest).2
termination_by bytes.length
decreasing_by all_goals simp only [List.length_cons]; omega

/-- The text of any bytes. -/
def decodeLossy (bytes : Bytes) : String := String.ofList (decodeCharsLossy bytes)

end Utf8

end Workflow
