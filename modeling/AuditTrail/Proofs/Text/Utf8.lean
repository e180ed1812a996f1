import AuditTrail.Text.Utf8

/-!
# Reading back what is written in UTF-8

The leading byte of an encoded character announces as many bytes as follow, with bounds that the
first of them keeps, and the bits of all bytes together are the code point.  So the strict decoding
takes one character after the other off an encoded text and comes to its end.

The decoding that accepts all bytes goes along with the strict one as far as this succeeds.  Bytes
that begin a character and are cut off inside of it are one replacement character, since all of them
but the first one still continue it.
-/

namespace AuditTrail.Text.Utf8

/-! ## Continuation bytes -/

theorem toNat_ofNat_of_lt {n : Nat} (lt : n < 256) : (UInt8.ofNat n).toNat = n := by
  rw [UInt8.toNat_ofNat']
  exact Nat.mod_eq_of_lt lt

@[simp] theorem continuation_zero (low high : Nat) (bytes : List UInt8) :
    continuation 0 low high bytes = [] := by
  cases bytes <;> rfl

theorem continuation_succ {n low high : Nat} {b : UInt8} {bytes : List UInt8}
    (low_le : low ≤ b.toNat) (le_high : b.toNat ≤ high) :
    continuation (n + 1) low high (b :: bytes) = b :: continuation n 0x80 0xBF bytes :=
  if_pos ⟨low_le, le_high⟩

/-- The bytes that a leading byte does not bound more narrowly are taken as they are. -/
theorem continuation_map {more : List Nat} (within : ∀ n ∈ more, 0x80 ≤ n ∧ n ≤ 0xBF)
    (rest : List UInt8) :
    continuation more.length 0x80 0xBF (more.map UInt8.ofNat ++ rest) = more.map UInt8.ofNat := by
  induction more with
  | nil => exact continuation_zero _ _ _
  | cons n more ih =>
    obtain ⟨⟨le_n, n_le⟩, within⟩ := List.forall_mem_cons.mp within
    have toNat_eq : (UInt8.ofNat n).toNat = n := toNat_ofNat_of_lt (by omega)
    rw [List.map_cons, List.cons_append, List.length_cons,
      continuation_succ (toNat_eq.symm ▸ le_n) (toNat_eq.symm ▸ n_le), ih within]

/-- The code point of bytes that are given as numbers. -/
theorem codePoint_map {ns : List Nat} (ns_lt : ∀ n ∈ ns, n < 256) (bits : Nat) :
    codePoint bits (ns.map UInt8.ofNat) = ns.foldl (fun n b ↦ n * 64 + (b - 0x80)) bits := by
  induction ns generalizing bits with
  | nil => rfl
  | cons n ns ih =>
    obtain ⟨n_lt, ns_lt⟩ := List.forall_mem_cons.mp ns_lt
    have rest_eq := ih ns_lt (bits * 64 + (n - 0x80))
    rw [codePoint] at rest_eq
    rw [codePoint, List.map_cons, List.foldl_cons, List.foldl_cons, toNat_ofNat_of_lt n_lt, rest_eq]

/-! ## One character -/

/-- A byte announces `following` more bytes, of which the first one is the number `next`, and holds
`bits` itself. -/
def Announces (lead following next bits : Nat) : Prop :=
  ∃ low high, lead? lead = some ⟨following, low, high, bits⟩ ∧ low ≤ next ∧ next ≤ high

theorem announces_two {lead next : Nat} (le : 0xC2 ≤ lead) (lt : lead < 0xE0)
    (tail : 0x80 ≤ next ∧ next ≤ 0xBF) : Announces lead 1 next (lead - 0xC0) := by
  refine ⟨0x80, 0xBF, ?_, tail⟩
  rw [lead?, if_neg (by omega), if_neg (by omega), if_pos lt]

theorem announces_three {lead next : Nat} (le : 0xE0 ≤ lead) (lt : lead < 0xF0)
    (tail : 0x80 ≤ next ∧ next ≤ 0xBF) (not_short : lead = 0xE0 → 0xA0 ≤ next)
    (not_surrogate : lead = 0xED → next ≤ 0x9F) : Announces lead 2 next (lead - 0xE0) := by
  rw [Announces, lead?, if_neg (by omega), if_neg (by omega), if_neg (by omega)]
  by_cases short : lead = 0xE0
  · rw [if_pos short, short]
    exact ⟨0xA0, 0xBF, rfl, not_short short, tail.2⟩
  · rw [if_neg short]
    by_cases surrogate : lead = 0xED
    · rw [if_pos surrogate, surrogate]
      exact ⟨0x80, 0x9F, rfl, tail.1, not_surrogate surrogate⟩
    · rw [if_neg surrogate, if_pos lt]
      exact ⟨0x80, 0xBF, rfl, tail⟩

theorem announces_four {lead next : Nat} (le : 0xF0 ≤ lead) (lt : lead < 0xF5)
    (tail : 0x80 ≤ next ∧ next ≤ 0xBF) (not_short : lead = 0xF0 → 0x90 ≤ next)
    (not_beyond : lead = 0xF4 → next ≤ 0x8F) : Announces lead 3 next (lead - 0xF0) := by
  rw [Announces, lead?, if_neg (by omega), if_neg (by omega), if_neg (by omega),
    if_neg (by omega), if_neg (by omega), if_neg (by omega)]
  by_cases short : lead = 0xF0
  · rw [if_pos short, short]
    exact ⟨0x90, 0xBF, rfl, not_short short, tail.2⟩
  · rw [if_neg short]
    by_cases below : lead < 0xF4
    · rw [if_pos below]
      exact ⟨0x80, 0xBF, rfl, tail⟩
    · have last : lead = 0xF4 := by omega
      rw [if_neg below, if_pos last, last]
      exact ⟨0x80, 0x8F, rfl, tail.1, not_beyond last⟩

/-- A leading byte and the bytes that it announces are decoded to the character with their code
point. -/
theorem decode?_announced {lead next bits : Nat} (more : List Nat) {c : Char}
    (announces : Announces lead (more.length + 1) next bits) (lead_lt : lead < 256)
    (next_lt : next < 256) (within : ∀ n ∈ more, 0x80 ≤ n ∧ n ≤ 0xBF)
    (codePoint_eq : (next :: more).foldl (fun n b ↦ n * 64 + (b - 0x80)) bits = c.toNat)
    (rest : List UInt8) :
    decode? (UInt8.ofNat lead :: (next :: more).map UInt8.ofNat ++ rest) =
      (decode? rest).map (c :: ·) := by
  obtain ⟨low, high, lead_eq, low_le, le_high⟩ := announces
  have next_eq : (UInt8.ofNat next).toNat = next := toNat_ofNat_of_lt next_lt
  have tail_eq : continuation (more.length + 1) low high
      ((next :: more).map UInt8.ofNat ++ rest) = (next :: more).map UInt8.ofNat := by
    rw [List.map_cons, List.cons_append, continuation_succ (next_eq.symm ▸ low_le)
      (next_eq.symm ▸ le_high), continuation_map within]
  have small : ∀ n ∈ next :: more, n < 256 :=
    List.forall_mem_cons.mpr ⟨next_lt, fun n n_mem ↦ Nat.lt_of_le_of_lt (within n n_mem).2
      (by decide)⟩
  rw [List.cons_append, decode?, toNat_ofNat_of_lt lead_lt, lead_eq]
  dsimp only
  rw [tail_eq, if_pos (by rw [List.length_map, List.length_cons]), List.drop_left,
    codePoint_map small, codePoint_eq, Char.ofNat_toNat]

/-- Decoding takes an encoded character off. -/
theorem decode?_encodeChar (c : Char) (rest : List UInt8) :
    decode? (String.utf8EncodeChar c ++ rest) = (decode? rest).map (c :: ·) := by
  have valid : c.toNat < 0xD800 ∨ 0xDFFF < c.toNat ∧ c.toNat < 0x110000 := c.valid
  rw [String.utf8EncodeChar, show c.val.toNat = c.toNat from rfl]
  generalize v_eq : c.toNat = v at valid ⊢
  by_cases one : v ≤ 127
  · rw [if_pos one, List.singleton_append, decode?, toNat_ofNat_of_lt (by omega), lead?,
      if_pos (by omega)]
    dsimp only
    rw [continuation_zero, if_pos List.length_nil, List.length_nil, List.drop_zero, codePoint,
      List.foldl_nil, ← v_eq, Char.ofNat_toNat]
  rw [if_neg one]
  by_cases two : v ≤ 2047
  · rw [if_pos two]
    refine decode?_announced []
      (announces_two (by omega) (by omega) (by omega)) (by omega) (by omega)
      (List.forall_mem_nil _) ?_ rest
    rw [List.foldl_cons, List.foldl_nil, v_eq]
    omega
  rw [if_neg two]
  by_cases three : v ≤ 65535
  · rw [if_pos three]
    refine decode?_announced [v % 64 + 128]
      (announces_three (by omega) (by omega) (by omega) (by omega) (by omega)) (by omega)
      (by omega) (List.forall_mem_singleton.mpr (by omega)) ?_ rest
    rw [List.foldl_cons, List.foldl_cons, List.foldl_nil, v_eq]
    omega
  · rw [if_neg three]
    refine decode?_announced [v / 64 % 64 + 128, v % 64 + 128]
      (announces_four (by omega) (by omega) (by omega) (by omega) (by omega)) (by omega)
      (by omega) (List.forall_mem_cons.mpr
        ⟨by omega, List.forall_mem_singleton.mpr (by omega)⟩) ?_ rest
    rw [List.foldl_cons, List.foldl_cons, List.foldl_cons, List.foldl_nil, v_eq]
    omega

/-! ## Texts -/

/-- What is encoded is decoded to what it was. -/
theorem decode?_encode (cs : List Char) : decode? (encode cs) = some cs := by
  induction cs with
  | nil => rw [encode_nil, decode?]
  | cons c cs ih =>
    rw [encode_cons, decode?_encodeChar, ih]
    rfl

/-- The bytes of a text are read as the text. -/
theorem toString?_ofString (s : String) : toString? (ofString s) = some s := by
  rw [toString?, ofString, decode?_encode, Option.map_some, String.ofList_toList]

/-! ## Bytes that are cut off -/

section Cut

variable {n low high : Nat} {bytes : List UInt8} {cs : List Char} {c : Char}

@[simp] theorem continuation_nil (n low high : Nat) : continuation n low high [] = [] := by
  cases n <;> rfl

theorem continuation_cons (n low high : Nat) (b : UInt8) (bytes : List UInt8) :
    continuation (n + 1) low high (b :: bytes) =
      if low ≤ b.toNat ∧ b.toNat ≤ high then b :: continuation n 0x80 0xBF bytes else [] :=
  rfl

theorem continuation_begins (n low high : Nat) (bytes : List UInt8) :
    continuation n low high bytes <+: bytes := by
  induction bytes generalizing n low high with
  | nil => simp only [continuation_nil, List.prefix_refl]
  | cons b bytes ih =>
    cases n with
    | zero => exact List.nil_prefix
    | succ n =>
      rw [continuation_cons]
      split
      · exact List.cons_prefix_cons.mpr ⟨rfl, ih n 0x80 0xBF⟩
      · exact List.nil_prefix

/-- Where the bytes are cut off, so are those that continue a character. -/
theorem continuation_take (n low high k : Nat) (bytes : List UInt8) :
    continuation n low high (bytes.take k) = (continuation n low high bytes).take k := by
  induction bytes generalizing n low high k with
  | nil => simp
  | cons b bytes ih =>
    rcases n with _ | n <;> rcases k with _ | k <;> try rfl
    rw [List.take_succ_cons, continuation_cons, continuation_cons]
    split
    · rw [ih, List.take_succ_cons]
    · rfl

/-- Bytes that continue a character to its end are found whatever follows them. -/
theorem continuation_append (full : (continuation n low high bytes).length = n)
    (rest : List UInt8) :
    continuation n low high (bytes ++ rest) = continuation n low high bytes := by
  induction bytes generalizing n low high with
  | nil =>
    rw [continuation_nil] at full
    obtain rfl : 0 = n := full
    exact continuation_zero low high _
  | cons b bytes ih =>
    cases n with
    | zero => rfl
    | succ n =>
      rw [continuation_cons] at full
      rw [List.cons_append, continuation_cons, continuation_cons]
      split at full
      next within => rw [if_pos within, if_pos within, ih (Nat.succ.inj full)]
      next => cases full

/-- Where the strict decoding succeeds the other one does the same and goes on. -/
theorem decodeLossy_append (decode_eq : decode? bytes = some cs) (rest : List UInt8) :
    decodeLossy (bytes ++ rest) = cs ++ decodeLossy rest := by
  fun_induction decode? bytes generalizing cs with
  | case1 =>
    cases decode_eq
    rfl
  | case2 b more lead_eq => cases decode_eq
  | case3 b more l lead_eq tail full =>
    rename_i ih
    obtain ⟨others, others_eq, rfl⟩ := Option.map_eq_some_iff.mp decode_eq
    have tail_eq : continuation l.following l.low l.high (more ++ rest) = tail :=
      continuation_append full rest
    have length_le : tail.length ≤ more.length := (continuation_begins _ _ _ more).length_le
    rw [List.cons_append, decodeLossy, lead_eq]
    dsimp only
    rw [tail_eq, if_pos full, List.drop_append_of_le_length length_le, ih others_eq]
    rfl
  | case4 b more l lead_eq short => cases decode_eq

theorem eq_nil_of_decode? (decode_eq : decode? bytes = some []) : bytes = [] := by
  cases bytes with
  | nil => rfl
  | cons b more =>
    rw [decode?] at decode_eq
    split at decode_eq
    · cases decode_eq
    · dsimp only at decode_eq
      split at decode_eq <;> simp at decode_eq

/-- A character that is cut off becomes one replacement character. -/
theorem decodeLossy_take (decode_eq : decode? bytes = some [c]) {k : Nat} (k_pos : 0 < k)
    (k_lt : k < bytes.length) : decodeLossy (bytes.take k) = [replacement] := by
  obtain ⟨k, rfl⟩ : ∃ n, k = n + 1 := ⟨k - 1, by omega⟩
  cases bytes with
  | nil => cases k_lt
  | cons b more =>
    rw [decode?] at decode_eq
    split at decode_eq
    · cases decode_eq
    next l lead_eq =>
      dsimp only at decode_eq
      split at decode_eq
      next full =>
        obtain ⟨others, others_eq, cons_eq⟩ := Option.map_eq_some_iff.mp decode_eq
        obtain rfl : others = [] := (List.cons.inj cons_eq).2
        have length_ge : more.length ≤ (continuation l.following l.low l.high more).length :=
          List.drop_eq_nil_iff.mp (eq_nil_of_decode? others_eq)
        have tail_eq : continuation l.following l.low l.high more = more :=
          (continuation_begins _ _ _ more).eq_of_length_le length_ge
        rw [tail_eq] at full
        rw [List.length_cons] at k_lt
        rw [List.take_succ_cons, decodeLossy, lead_eq]
        dsimp only
        rw [continuation_take, tail_eq, List.length_take, if_neg (by omega), ← List.length_take,
          List.drop_length, decodeLossy_nil]
      next => cases decode_eq

/-- There are no more characters than bytes. -/
theorem length_decodeLossy_le (bytes : List UInt8) : (decodeLossy bytes).length ≤ bytes.length := by
  fun_induction decodeLossy bytes with
  | case1 => exact Nat.le_refl 0
  | case2 b more lead_eq ih => exact Nat.succ_le_succ ih
  | case3 b more l lead_eq tail ih =>
    refine Nat.succ_le_succ (Nat.le_trans ih ?_)
    rw [List.length_drop]
    exact Nat.sub_le _ _

end Cut

end AuditTrail.Text.Utf8
