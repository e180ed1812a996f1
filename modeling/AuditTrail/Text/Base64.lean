/-!
# Base64

The standard alphabet with padding: three bytes become four characters, and a last group of one
or two bytes is filled up with `=`. Reading a written form gives the bytes back, and no other text
is read.
-/

namespace AuditTrail.Text.Base64

/-- The character of a value below 64. -/
def digit (n : Nat) : Char :=
  if n < 26 then Char.ofNat ('A'.toNat + n)
  else if n < 52 then Char.ofNat ('a'.toNat + (n - 26))
  else if n < 62 then Char.ofNat ('0'.toNat + (n - 52))
  else if n = 62 then '+'
  else '/'

/-- The value of a character of the alphabet. -/
def value? (c : Char) : Option Nat :=
  if 'A' ≤ c ∧ c ≤ 'Z' then some (c.toNat - 'A'.toNat)
  else if 'a' ≤ c ∧ c ≤ 'z' then some (c.toNat - 'a'.toNat + 26)
  else if '0' ≤ c ∧ c ≤ '9' then some (c.toNat - '0'.toNat + 52)
  else if c = '+' then some 62
  else if c = '/' then some 63
  else none

/-- The written form of a byte sequence. -/
def encodeChars : List UInt8 → List Char
  | [] => []
  | [a] => [digit (a.toNat / 4), digit (a.toNat % 4 * 16), '=', '=']
  | [a, b] =>
    [digit (a.toNat / 4), digit (a.toNat % 4 * 16 + b.toNat / 16), digit (b.toNat % 16 * 4), '=']
  | a :: b :: c :: rest =>
    digit (a.toNat / 4) :: digit (a.toNat % 4 * 16 + b.toNat / 16) ::
      digit (b.toNat % 16 * 4 + c.toNat / 64) :: digit (c.toNat % 64) :: encodeChars rest

/-- The written form of a byte sequence, as a text. -/
def encode (bytes : List UInt8) : String :=
  String.ofList (encodeChars bytes)

/-- The bytes of a last group, which may be padded. -/
def decodeLast? (w x y z : Char) : Option (List UInt8) := do
  let w ← value? w
  let x ← value? x
  if z = '=' then
    if y = '=' then
      if x % 16 = 0 then some [.ofNat (w * 4 + x / 16)] else none
    else
      let y ← value? y
      if y % 4 = 0 then some [.ofNat (w * 4 + x / 16), .ofNat (x % 16 * 16 + y / 4)] else none
  else
    let y ← value? y
    let z ← value? z
    some [.ofNat (w * 4 + x / 16), .ofNat (x % 16 * 16 + y / 4), .ofNat (y % 4 * 64 + z)]

/-- The bytes that a written form stands for. -/
def decodeChars? : List Char → Option (List UInt8)
  | [] => some []
  | [w, x, y, z] => decodeLast? w x y z
  | w :: x :: y :: z :: rest =>
    match value? w, value? x, value? y, value? z with
    | some w, some x, some y, some z =>
      (decodeChars? rest).map fun bytes ↦
        .ofNat (w * 4 + x / 16) :: .ofNat (x % 16 * 16 + y / 4) :: .ofNat (y % 4 * 64 + z) :: bytes
    | _, _, _, _ => none
  | _ => none

/-- The bytes that a written text stands for. -/
def decode? (s : String) : Option (List UInt8) :=
  decodeChars? s.toList

/-! ## Reading what was written -/

theorem value?_digit {n : Nat} (h : n < 64) : value? (digit n) = some n := by
  have all : ∀ n < 64, value? (digit n) = some n := by decide +kernel
  exact all n h

theorem digit_ne_pad {n : Nat} (h : n < 64) : digit n ≠ '=' := by
  have all : ∀ n < 64, digit n ≠ '=' := by decide +kernel
  exact all n h

private theorem ofNat_of_eq {a : UInt8} {n : Nat} (h : n = a.toNat) : UInt8.ofNat n = a := by
  subst h
  exact UInt8.ofNat_toNat

/-- Reading a written form gives the bytes back. -/
theorem decodeChars?_encodeChars (bytes : List UInt8) :
    decodeChars? (encodeChars bytes) = some bytes := by
  fun_induction encodeChars bytes with
  | case1 => rfl
  | case2 a =>
    have := a.toNat_lt
    have high := value?_digit (n := a.toNat / 4) (by omega)
    have low := value?_digit (n := a.toNat % 4 * 16) (by omega)
    simp only [decodeChars?, decodeLast?, high, low, Option.bind_eq_bind, Option.bind_some,
      if_true, Nat.mul_mod_left]
    rw [ofNat_of_eq (a := a) (by omega)]
  | case3 a b =>
    have := a.toNat_lt
    have := b.toNat_lt
    have first := value?_digit (n := a.toNat / 4) (by omega)
    have second := value?_digit (n := a.toNat % 4 * 16 + b.toNat / 16) (by omega)
    have third := value?_digit (n := b.toNat % 16 * 4) (by omega)
    have third_ne := digit_ne_pad (n := b.toNat % 16 * 4) (by omega)
    simp only [decodeChars?, decodeLast?, first, second, third, third_ne, Option.bind_eq_bind,
      Option.bind_some, if_true, if_false, Nat.mul_mod_left]
    rw [ofNat_of_eq (a := a) (by omega), ofNat_of_eq (a := b) (by omega)]
  | case4 a b c rest ih =>
    have := a.toNat_lt
    have := b.toNat_lt
    have := c.toNat_lt
    have first := value?_digit (n := a.toNat / 4) (by omega)
    have second := value?_digit (n := a.toNat % 4 * 16 + b.toNat / 16) (by omega)
    have third := value?_digit (n := b.toNat % 16 * 4 + c.toNat / 64) (by omega)
    have fourth := value?_digit (n := c.toNat % 64) (by omega)
    have fourth_ne := digit_ne_pad (n := c.toNat % 64) (by omega)
    have third_ne := digit_ne_pad (n := b.toNat % 16 * 4 + c.toNat / 64) (by omega)
    cases rest_eq : encodeChars rest with
    | nil =>
      rw [rest_eq] at ih
      cases ih
      simp only [decodeChars?, decodeLast?, first, second, third, fourth, fourth_ne,
        Option.bind_eq_bind, Option.bind_some, if_false]
      rw [ofNat_of_eq (a := a) (by omega), ofNat_of_eq (a := b) (by omega),
        ofNat_of_eq (a := c) (by omega)]
    | cons d ds =>
      rw [rest_eq] at ih
      simp only [decodeChars?, first, second, third, fourth, ih, Option.map_some]
      rw [ofNat_of_eq (a := a) (by omega), ofNat_of_eq (a := b) (by omega),
        ofNat_of_eq (a := c) (by omega)]

theorem decode?_encode (bytes : List UInt8) : decode? (encode bytes) = some bytes := by
  rw [decode?, encode, String.toList_ofList, decodeChars?_encodeChars]

/-! ## Nothing else is read -/

/-- A character of the alphabet is the one of its value. -/
theorem digit_of_mem_value? {c : Char} : ∀ n ∈ value? c, n < 64 ∧ digit n = c := by
  have ofNat_eq {n : Nat} (n_eq : n = c.toNat) : Char.ofNat n = c := by
    rw [n_eq, Char.ofNat_toNat]
  have toNat_eq : 'A'.toNat = 65 ∧ 'Z'.toNat = 90 ∧ 'a'.toNat = 97 ∧ 'z'.toNat = 122 ∧
      '0'.toNat = 48 ∧ '9'.toNat = 57 := by decide
  fun_cases value? c with
  | case1 upper =>
    rintro _ ⟨⟩
    have bounds : 'A'.toNat ≤ c.toNat ∧ c.toNat ≤ 'Z'.toNat := upper
    rw [digit, if_pos (by omega)]
    exact ⟨by omega, ofNat_eq (by omega)⟩
  | case2 _ lower =>
    rintro _ ⟨⟩
    have bounds : 'a'.toNat ≤ c.toNat ∧ c.toNat ≤ 'z'.toNat := lower
    rw [digit, if_neg (by omega), if_pos (by omega)]
    exact ⟨by omega, ofNat_eq (by omega)⟩
  | case3 _ _ numeral =>
    rintro _ ⟨⟩
    have bounds : '0'.toNat ≤ c.toNat ∧ c.toNat ≤ '9'.toNat := numeral
    rw [digit, if_neg (by omega), if_neg (by omega), if_pos (by omega)]
    exact ⟨by omega, ofNat_eq (by omega)⟩
  | case4 _ _ _ plus =>
    rintro _ ⟨⟩
    exact ⟨by decide, plus.symm⟩
  | case5 _ _ _ _ slash =>
    rintro _ ⟨⟩
    exact ⟨by decide, slash.symm⟩
  | case6 => exact nofun

private theorem toNat_ofNat {n : Nat} (lt : n < 256) : (UInt8.ofNat n).toNat = n :=
  UInt8.toNat_ofNat_of_lt lt

/-- The bytes of a whole group are written as its characters. -/
theorem encodeChars_group {w x y z : Char} {n m k l : Nat} (w_eq : value? w = some n)
    (x_eq : value? x = some m) (y_eq : value? y = some k) (z_eq : value? z = some l)
    (rest : List UInt8) :
    encodeChars (.ofNat (n * 4 + m / 16) :: .ofNat (m % 16 * 16 + k / 4) ::
      .ofNat (k % 4 * 64 + l) :: rest) = w :: x :: y :: z :: encodeChars rest := by
  obtain ⟨_, w_digit⟩ := digit_of_mem_value? n w_eq
  obtain ⟨_, x_digit⟩ := digit_of_mem_value? m x_eq
  obtain ⟨_, y_digit⟩ := digit_of_mem_value? k y_eq
  obtain ⟨_, z_digit⟩ := digit_of_mem_value? l z_eq
  have first : (n * 4 + m / 16) / 4 = n := by omega
  have second : (n * 4 + m / 16) % 4 * 16 + (m % 16 * 16 + k / 4) / 16 = m := by omega
  have third : (m % 16 * 16 + k / 4) % 16 * 4 + (k % 4 * 64 + l) / 64 = k := by omega
  have fourth : (k % 4 * 64 + l) % 64 = l := by omega
  rw [encodeChars, toNat_ofNat (by omega), toNat_ofNat (by omega), toNat_ofNat (by omega), first,
    second, third, fourth, w_digit, x_digit, y_digit, z_digit]

theorem encodeChars_of_decodeLast? {w x y z : Char} {bytes : List UInt8}
    (bytes_eq : decodeLast? w x y z = some bytes) : encodeChars bytes = [w, x, y, z] := by
  rw [decodeLast?] at bytes_eq
  obtain ⟨n, w_eq, x_some⟩ := Option.bind_eq_some_iff.mp bytes_eq
  obtain ⟨m, x_eq, group_eq⟩ := Option.bind_eq_some_iff.mp x_some
  clear bytes_eq x_some
  obtain ⟨_, w_digit⟩ := digit_of_mem_value? n w_eq
  obtain ⟨_, x_digit⟩ := digit_of_mem_value? m x_eq
  by_cases z_pad : z = '='
  · rw [if_pos z_pad] at group_eq
    subst z_pad
    by_cases y_pad : y = '='
    · rw [if_pos y_pad] at group_eq
      split at group_eq <;> cases group_eq
      have high : (n * 4 + m / 16) / 4 = n := by omega
      have low : (n * 4 + m / 16) % 4 * 16 = m := by omega
      rw [encodeChars, toNat_ofNat (by omega), high, low, w_digit, x_digit, y_pad]
    · rw [if_neg y_pad] at group_eq
      obtain ⟨k, y_eq, group_eq⟩ := Option.bind_eq_some_iff.mp group_eq
      obtain ⟨_, y_digit⟩ := digit_of_mem_value? k y_eq
      split at group_eq <;> cases group_eq
      have high : (n * 4 + m / 16) / 4 = n := by omega
      have middle : (n * 4 + m / 16) % 4 * 16 + (m % 16 * 16 + k / 4) / 16 = m := by omega
      have low : (m % 16 * 16 + k / 4) % 16 * 4 = k := by omega
      rw [encodeChars, toNat_ofNat (by omega), toNat_ofNat (by omega), high, middle, low, w_digit,
        x_digit, y_digit]
  · rw [if_neg z_pad] at group_eq
    obtain ⟨k, y_eq, group_eq⟩ := Option.bind_eq_some_iff.mp group_eq
    obtain ⟨l, z_eq, group_eq⟩ := Option.bind_eq_some_iff.mp group_eq
    cases group_eq
    exact encodeChars_group w_eq x_eq y_eq z_eq []

/-- Only the written form of some bytes is read as them. -/
theorem encodeChars_of_decodeChars? {cs : List Char} {bytes : List UInt8}
    (bytes_eq : decodeChars? cs = some bytes) : encodeChars bytes = cs := by
  fun_induction decodeChars? cs generalizing bytes with
  | case1 =>
    cases bytes_eq
    rfl
  | case2 w x y z => exact encodeChars_of_decodeLast? bytes_eq
  | case3 w x y z rest _ l k m n z_eq y_eq x_eq w_eq ih =>
    obtain ⟨tail, tail_eq, rfl⟩ := Option.map_eq_some_iff.mp bytes_eq
    rw [encodeChars_group w_eq x_eq y_eq z_eq, ih tail_eq]
  | case4 | case5 => cases bytes_eq

theorem decode?_eq_some_iff {s : String} {bytes : List UInt8} :
    decode? s = some bytes ↔ encode bytes = s := by
  constructor
  · intro bytes_eq
    rw [encode, encodeChars_of_decodeChars? bytes_eq, String.ofList_toList]
  · rintro rfl
    exact decode?_encode bytes

end AuditTrail.Text.Base64
