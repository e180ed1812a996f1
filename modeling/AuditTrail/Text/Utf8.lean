/-!
# UTF-8

Encoding of characters as bytes, and a decoding that accepts every byte sequence: a maximal piece
of an encoded character that its continuation does not complete becomes one replacement character,
and so does every byte that starts no character.
-/

namespace AuditTrail.Text.Utf8

/-- The bytes of a list of characters. -/
def encode (cs : List Char) : List UInt8 :=
  cs.flatMap String.utf8EncodeChar

@[simp] theorem encode_nil : encode [] = [] := rfl

@[simp] theorem encode_cons (c : Char) (cs : List Char) :
    encode (c :: cs) = String.utf8EncodeChar c ++ encode cs := rfl

/-- The character that stands for bytes that encode nothing. -/
def replacement : Char := '\uFFFD'

/-- What a leading byte announces: how many bytes follow it, the bounds of the first of them, and
the bits of the character that the leading byte holds itself. -/
structure Lead where
  following : Nat
  low : Nat
  high : Nat
  bits : Nat
  deriving DecidableEq, Repr

/-- The announcement of a leading byte; nothing for a byte that starts no character. -/
def lead? (b : Nat) : Option Lead :=
  if b < 0x80 then some ⟨0, 0x80, 0xBF, b⟩
  else if b < 0xC2 then none
  else if b < 0xE0 then some ⟨1, 0x80, 0xBF, b - 0xC0⟩
  else if b = 0xE0 then some ⟨2, 0xA0, 0xBF, 0⟩
  else if b = 0xED then some ⟨2, 0x80, 0x9F, 0xD⟩
  else if b < 0xF0 then some ⟨2, 0x80, 0xBF, b - 0xE0⟩
  else if b = 0xF0 then some ⟨3, 0x90, 0xBF, 0⟩
  else if b < 0xF4 then some ⟨3, 0x80, 0xBF, b - 0xF0⟩
  else if b = 0xF4 then some ⟨3, 0x80, 0x8F, 4⟩
  else none

/-- The longest run of at most `n` continuation bytes at the start of `bytes`, the first of them
within `low` and `high`. -/
def continuation (n low high : Nat) : List UInt8 → List UInt8
  | [] => []
  | b :: bytes =>
    match n with
    | 0 => []
    | n + 1 => if low ≤ b.toNat ∧ b.toNat ≤ high then b :: continuation n 0x80 0xBF bytes else []

/-- The code point of a leading byte's bits and its continuation bytes. -/
def codePoint (bits : Nat) (bytes : List UInt8) : Nat :=
  bytes.foldl (fun n b ↦ n * 64 + (b.toNat - 0x80)) bits

/-- The characters of a byte sequence, with `replacement` for what encodes no character. -/
def decodeLossy (bytes : List UInt8) : List Char :=
  match bytes with
  | [] => []
  | b :: rest =>
    match lead? b.toNat with
    | none => replacement :: decodeLossy rest
    | some l =>
      let tail := continuation l.following l.low l.high rest
      (if tail.length = l.following then Char.ofNat (codePoint l.bits tail) else replacement) ::
        decodeLossy (rest.drop tail.length)
  termination_by bytes.length
  decreasing_by
    · simp
    · simp only [List.length_drop, List.length_cons]; omega

@[simp] theorem decodeLossy_nil : decodeLossy [] = [] := by
  simp [decodeLossy]

/-- The characters of a byte sequence that encodes characters and nothing else. -/
def decode? (bytes : List UInt8) : Option (List Char) :=
  match bytes with
  | [] => some []
  | b :: rest =>
    match lead? b.toNat with
    | none => none
    | some l =>
      let tail := continuation l.following l.low l.high rest
      if tail.length = l.following then
        (decode? (rest.drop tail.length)).map (Char.ofNat (codePoint l.bits tail) :: ·)
      else none
  termination_by bytes.length
  decreasing_by simp only [List.length_drop, List.length_cons]; omega

/-- The bytes of a text. -/
def ofString (s : String) : List UInt8 :=
  encode s.toList

/-- The text of a byte sequence, with `replacement` for what encodes no character. -/
def toStringLossy (bytes : List UInt8) : String :=
  String.ofList (decodeLossy bytes)

/-- The text of a byte sequence that encodes one. -/
def toString? (bytes : List UInt8) : Option String :=
  (decode? bytes).map String.ofList

end AuditTrail.Text.Utf8
