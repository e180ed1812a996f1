import AuditTrail.Proofs.Preview.Chunks
import AuditTrail.Proofs.Text.Utf8

/-!
# Previews of texts

A preview takes bytes up to its limit and not characters.  Of a text that is delivered in UTF-8 it
shows the characters that fit in the limit as a whole, and one replacement character if the limit
falls inside of the next one.  Whatever the bytes are, each character of the preview stands for one
of them at least, so that a preview never has more characters than its limit.
-/

namespace AuditTrail

namespace Text.Utf8

variable {limit : Nat} {cs whole : List Char} {c : Char}

/-! ## Characters that fit -/

/-- The longest first part of some characters whose bytes are within a limit. -/
structure LongestWithin (limit : Nat) (cs whole : List Char) : Prop where
  begins : whole <+: cs
  fits : (encode whole).length ≤ limit
  longest : ∀ other, other <+: cs → (encode other).length ≤ limit → other <+: whole

/-- The limit falls behind the first byte of one of the characters and before its end. -/
def FallsInside (limit : Nat) (cs : List Char) : Prop :=
  ∃ before c after, cs = before ++ c :: after ∧
    (encode before).length < limit ∧ limit < (encode (before ++ [c])).length

theorem length_encode_cons (c : Char) (cs : List Char) :
    (encode (c :: cs)).length = (String.utf8EncodeChar c).length + (encode cs).length := by
  rw [encode_cons, List.length_append]

theorem LongestWithin.unique {other : List Char} (within : LongestWithin limit cs whole)
    (other_within : LongestWithin limit cs other) : whole = other :=
  (other_within.longest whole within.begins within.fits).eq_of_length_le
    (within.longest other other_within.begins other_within.fits).length_le

theorem LongestWithin.nil : LongestWithin limit [] [] where
  begins := List.prefix_refl []
  fits := Nat.zero_le limit
  longest _ other_begins _ := other_begins

/-- A character that fits stands in front of those that fit behind it. -/
theorem LongestWithin.cons (fits : (String.utf8EncodeChar c).length ≤ limit)
    (within : LongestWithin (limit - (String.utf8EncodeChar c).length) cs whole) :
    LongestWithin limit (c :: cs) (c :: whole) where
  begins := List.cons_prefix_cons.mpr ⟨rfl, within.begins⟩
  fits := by
    have rest_fits := within.fits
    rw [length_encode_cons]
    omega
  longest other other_begins other_fits := by
    cases other with
    | nil => exact List.nil_prefix
    | cons d other =>
      obtain ⟨rfl, rest_begins⟩ := List.cons_prefix_cons.mp other_begins
      rw [length_encode_cons] at other_fits
      exact List.cons_prefix_cons.mpr ⟨rfl, within.longest other rest_begins (by omega)⟩

/-- Nothing fits if the first character does not. -/
theorem LongestWithin.none (exceeds : limit < (String.utf8EncodeChar c).length) :
    LongestWithin limit (c :: cs) [] where
  begins := List.nil_prefix
  fits := Nat.zero_le limit
  longest other other_begins other_fits := by
    cases other with
    | nil => exact List.nil_prefix
    | cons d other =>
      obtain ⟨rfl, -⟩ := List.cons_prefix_cons.mp other_begins
      rw [length_encode_cons] at other_fits
      omega

theorem not_fallsInside_nil : ¬ FallsInside limit [] := by
  rintro ⟨before, c, after, cs_eq, -⟩
  cases before <;> cases cs_eq

/-- The limit falls inside of the first character, or inside of one that is behind it. -/
theorem fallsInside_cons_iff : FallsInside limit (c :: cs) ↔
    (0 < limit ∧ limit < (String.utf8EncodeChar c).length) ∨
      FallsInside (limit - (String.utf8EncodeChar c).length) cs := by
  constructor
  · rintro ⟨before, d, after, cs_eq, before_lt, lt_end⟩
    cases before with
    | nil =>
      cases cs_eq
      rw [List.nil_append, length_encode_cons] at lt_end
      exact .inl ⟨before_lt, lt_end⟩
    | cons first before =>
      cases cs_eq
      rw [List.cons_append, length_encode_cons] at lt_end
      rw [length_encode_cons] at before_lt
      exact .inr ⟨before, d, after, rfl, by omega, by omega⟩
  · rintro (⟨limit_pos, lt_end⟩ | ⟨before, d, after, rfl, before_lt, lt_end⟩)
    · refine ⟨[], c, cs, rfl, limit_pos, ?_⟩
      rw [List.nil_append, length_encode_cons]
      omega
    · refine ⟨c :: before, d, after, rfl, ?_, ?_⟩
      · rw [length_encode_cons]
        omega
      · rw [List.cons_append, length_encode_cons]
        omega

theorem FallsInside.pos (inside : FallsInside limit cs) : 0 < limit := by
  obtain ⟨before, c, after, -, before_lt, -⟩ := inside
  exact Nat.zero_lt_of_lt before_lt

/-- What is decoded of a text whose bytes are cut off: the characters that fit as a whole, and one
replacement character for what there is of the next one. -/
theorem exists_longestWithin (limit : Nat) (cs : List Char) :
    ∃ whole, LongestWithin limit cs whole ∧
      (FallsInside limit cs → decodeLossy ((encode cs).take limit) = whole ++ [replacement]) ∧
      (¬ FallsInside limit cs → decodeLossy ((encode cs).take limit) = whole) := by
  induction cs generalizing limit with
  | nil =>
    refine ⟨[], .nil, fun inside ↦ absurd inside not_fallsInside_nil, fun _ ↦ ?_⟩
    rw [encode_nil, List.take_nil, decodeLossy_nil]
  | cons c cs ih =>
    have first_eq : decode? (String.utf8EncodeChar c) = some [c] := by
      have decode_eq := decode?_encodeChar c []
      rwa [List.append_nil, decode?] at decode_eq
    rw [fallsInside_cons_iff, encode_cons]
    rcases Nat.lt_or_ge limit (String.utf8EncodeChar c).length with exceeds | fits
    · -- Of the first character there are fewer bytes than it has.
      refine ⟨[], .none exceeds, fun inside ↦ ?_, fun outside ↦ ?_⟩
      · have limit_pos : 0 < limit := by
          rcases inside with ⟨limit_pos, -⟩ | later
          · exact limit_pos
          · exact Nat.lt_of_lt_of_le later.pos (Nat.sub_le _ _)
        rw [List.take_append_of_le_length (Nat.le_of_lt exceeds)]
        exact decodeLossy_take first_eq limit_pos exceeds
      · obtain rfl : limit = 0 :=
          Nat.eq_zero_of_not_pos fun limit_pos ↦ outside (.inl ⟨limit_pos, exceeds⟩)
        rw [List.take_zero, decodeLossy_nil]
    · obtain ⟨whole, within, of_inside, of_outside⟩ := ih (limit - (String.utf8EncodeChar c).length)
      have decode_eq : decodeLossy ((String.utf8EncodeChar c ++ encode cs).take limit) =
          c :: decodeLossy ((encode cs).take (limit - (String.utf8EncodeChar c).length)) := by
        rw [List.take_append, List.take_of_length_le fits, decodeLossy_append first_eq]
        rfl
      rw [decode_eq]
      refine ⟨c :: whole, .cons fits within, fun inside ↦ ?_, fun outside ↦ ?_⟩
      · rcases inside with ⟨-, lt_end⟩ | later
        · exact absurd fits (Nat.not_le_of_lt lt_end)
        · rw [of_inside later, List.cons_append]
      · rw [of_outside fun later ↦ outside (.inr later)]

end Text.Utf8

/-! ## Previews -/

namespace Reader.Collects

variable {limit : Nat} {delivered : List UInt8} {ending : Ending} {reader rest : Reader}
  {outcome : Except String (List UInt8)}

/-- Before the end of a stream the bytes up to the limit are collected, or all there are. -/
theorem outcome_eq_take (collects : Collects limit delivered .endOfStream reader outcome rest) :
    outcome = .ok (delivered.take limit) := by
  rcases Nat.lt_or_ge delivered.length limit with short | enough
  · rw [collects.ended short rfl, List.take_of_length_le (Nat.le_of_lt short)]
  · exact collects.reached enough

/-- A preview has no more characters than its limit. -/
theorem length_preview_le (collects : Collects limit delivered ending reader outcome rest) :
    (Preview.ofBytes limit outcome).text.length ≤ limit := by
  have length_le {bytes : List UInt8} (bytes_le : bytes.length ≤ limit) :
      (Preview.ofBytes limit (.ok bytes)).text.length ≤ limit := by
    rw [Preview.ofBytes, Text.Utf8.toStringLossy, String.length_ofList]
    exact Nat.le_trans (Text.Utf8.length_decodeLossy_le bytes) bytes_le
  rcases Nat.lt_or_ge delivered.length limit with short | enough
  · cases ending with
    | endOfStream =>
      rw [collects.ended short rfl]
      exact length_le (Nat.le_of_lt short)
    | failure reason =>
      rw [collects.failed short reason rfl]
      exact Nat.zero_le limit
  · rw [collects.reached enough]
    exact length_le (List.length_take_le limit delivered)

end Reader.Collects

/-- **Previews of texts.**  A reader delivers the bytes of a text, in chunks of any sizes.  Its
preview is the longest first part of the text that fits in the limit as a whole, and one replacement
character more if the limit falls inside of a character, whether the reader is read by somebody who
blocks or by somebody who is polled, and in whatever portions.  The preview of any reader has at
most as many characters as its limit, whether its bytes are those of a text or not. -/
theorem preview_truncates (s : String) {reader : Reader} {chunks : List (List UInt8)}
    (delivers : reader.Delivers chunks .endOfStream)
    (flatten_eq : chunks.flatten = Text.Utf8.ofString s) (portion polledPortion : Nat → Nat)
    (limit : Nat) :
    let preview := Preview.read portion limit reader
    (∃ whole, Text.Utf8.LongestWithin limit s.toList whole ∧
      (Text.Utf8.FallsInside limit s.toList →
        preview = ⟨String.ofList (whole ++ ['\uFFFD']), []⟩) ∧
      (¬ Text.Utf8.FallsInside limit s.toList → preview = ⟨String.ofList whole, []⟩)) ∧
    Preview.readPolled polledPortion limit reader = preview ∧
    ∀ other : Reader, (Preview.read portion limit other).text.length ≤ limit ∧
      (Preview.readPolled polledPortion limit other).text.length ≤ limit := by
  intro preview
  have collects := delivers.collects portion 0 limit
  have polled_collects := delivers.collects_await polledPortion limit
  refine ⟨?_, ?_, fun other ↦ ?_⟩
  · obtain ⟨whole, within, of_inside, of_outside⟩ :=
      Text.Utf8.exists_longestWithin limit s.toList
    have preview_eq : preview =
        ⟨String.ofList (Text.Utf8.decodeLossy ((Text.Utf8.encode s.toList).take limit)), []⟩ := by
      have shown := congrArg (Preview.ofBytes limit) collects.outcome_eq_take
      rwa [flatten_eq] at shown
    rw [preview_eq]
    refine ⟨whole, within, fun inside ↦ ?_, fun outside ↦ ?_⟩
    · rw [of_inside inside, Text.Utf8.replacement]
    · rw [of_outside outside]
  · exact congrArg (Preview.ofBytes limit) (collects.outcome_eq polled_collects)
  · obtain ⟨others, ending, other_delivers⟩ := other.exists_delivers
    exact ⟨(other_delivers.collects portion 0 limit).length_preview_le,
      (other_delivers.collects_await polledPortion limit).length_preview_le⟩

/-- The limit falls behind the second of the three bytes of the sign for euros. -/
theorem preview_truncates_euro :
    let reader : Reader := [.bytes [0x31, 0xe2], .nothingYet, .bytes [0x82, 0xac]]
    reader.Delivers [[0x31, 0xe2], [0x82, 0xac]] .endOfStream ∧
      [[0x31, 0xe2], [0x82, 0xac]].flatten = Text.Utf8.ofString "1€" ∧
      Text.Utf8.FallsInside 3 "1€".toList ∧
      Preview.read (fun _ ↦ 31) 3 reader = ⟨"1\uFFFD", []⟩ := by
  intro reader
  have delivers : reader.Delivers [[0x31, 0xe2], [0x82, 0xac]] .endOfStream :=
    .chunk (by decide) (.later (.chunk (by decide) .exhausted))
  have flatten_eq : [[0x31, 0xe2], [0x82, 0xac]].flatten = Text.Utf8.ofString "1€" := by
    decide +kernel
  have inside : Text.Utf8.FallsInside 3 "1€".toList :=
    ⟨['1'], '€', [], rfl, by decide, by decide⟩
  obtain ⟨⟨whole, within, shown, -⟩, -⟩ :=
    preview_truncates "1€" delivers flatten_eq (fun _ ↦ 31) (fun taken ↦ taken) 3
  have first_only : Text.Utf8.LongestWithin 3 "1€".toList ['1'] :=
    .cons (by decide) (.none (by decide))
  exact ⟨delivers, flatten_eq, inside, by rw [shown inside, within.unique first_only]; rfl⟩

end AuditTrail
