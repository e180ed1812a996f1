import AuditTrail.Preview

/-!
# Previews of chunks

A reader delivers chunks, and then the stream ends or a read fails.  What a preview shows depends on
the bytes of the chunks and on the ending only: neither the places at which the bytes are split nor
the sizes of the portions in which they are asked for make a difference, and who is polled gets what
who blocks gets.

What one read can come to is said once, for both ways of reading.  A read takes bytes off the front
of what is delivered and leaves a reader that delivers the others, so that the bytes that are taken
together are a first part of all bytes, of the length of the limit if there are as many.  An ending
behind the limit is still in front of the reader that is left.
-/

namespace AuditTrail

/-- How the deliveries of a reader come to an end. -/
inductive Ending where
  | endOfStream
  | failure (reason : String)
  deriving DecidableEq, Repr

/-- The bytes of a delivery. -/
def Delivery.data : Delivery → List UInt8
  | bytes data => data
  | _ => []

namespace Reader

/-- The reader delivers some chunks, none of which is empty, and then comes to an end.  At any time
before it may have nothing yet. -/
inductive Delivers : Reader → List (List UInt8) → Ending → Prop
  | exhausted : Delivers [] [] .endOfStream
  | ends {rest : Reader} : Delivers (.bytes [] :: rest) [] .endOfStream
  | fails {reason : String} {rest : Reader} : Delivers (.fails reason :: rest) [] (.failure reason)
  | later {rest : Reader} {chunks : List (List UInt8)} {ending : Ending} :
      Delivers rest chunks ending → Delivers (.nothingYet :: rest) chunks ending
  | chunk {data : List UInt8} {rest : Reader} {chunks : List (List UInt8)} {ending : Ending} :
      data ≠ [] → Delivers rest chunks ending →
      Delivers (.bytes data :: rest) (data :: chunks) ending

/-- All bytes that a reader holds. -/
def content (reader : Reader) : List UInt8 :=
  reader.flatMap Delivery.data

/-- Every reader delivers some chunks before an end. -/
theorem exists_delivers (reader : Reader) : ∃ chunks ending, reader.Delivers chunks ending := by
  induction reader with
  | nil => exact ⟨[], .endOfStream, .exhausted⟩
  | cons delivery rest ih =>
    obtain ⟨chunks, ending, delivers⟩ := ih
    cases delivery with
    | bytes data =>
      by_cases empty : data = []
      · subst empty
        exact ⟨[], .endOfStream, .ends⟩
      · exact ⟨data :: chunks, ending, .chunk empty delivers⟩
    | nothingYet => exact ⟨chunks, ending, .later delivers⟩
    | fails reason => exact ⟨[], .failure reason, .fails⟩

/-! ## One read -/

/-- What one read of at most `room` bytes can come to. -/
inductive Reads (room : Nat) : List (List UInt8) → Ending → Delivery → Reader → Prop
  | ends {rest : Reader} : Reads room [] .endOfStream (.bytes []) rest
  | fails {reason : String} {rest : Reader} :
      Reads room [] (.failure reason) (.fails reason) rest
  | later {rest : Reader} {chunks : List (List UInt8)} {ending : Ending} :
      rest.Delivers chunks ending → Reads room chunks ending .nothingYet rest
  | takes {data : List UInt8} {rest : Reader} {chunks others : List (List UInt8)}
      {ending : Ending} : data ≠ [] → data.length ≤ room →
      chunks.flatten = data ++ others.flatten → rest.Delivers others ending →
      Reads room chunks ending (.bytes data) rest

/-- A read takes a chunk, or as much of it as there is room for. -/
theorem Delivers.reads {reader rest : Reader} {chunks : List (List UInt8)} {ending : Ending}
    (delivers : reader.Delivers chunks ending) {room : Nat} (room_pos : 0 < room)
    {delivery : Delivery} (read_eq : reader.read room = (delivery, rest)) :
    Reads room chunks ending delivery rest := by
  cases delivers with
  | exhausted =>
    cases read_eq
    exact .ends
  | ends =>
    rw [read, List.length_nil, if_pos (Nat.zero_le room)] at read_eq
    cases read_eq
    exact .ends
  | fails =>
    cases read_eq
    exact .fails
  | later rest_delivers =>
    cases read_eq
    exact .later rest_delivers
  | @chunk data rest chunks _ data_ne rest_delivers =>
    rw [read] at read_eq
    by_cases fits : data.length ≤ room
    · rw [if_pos fits] at read_eq
      cases read_eq
      exact .takes data_ne fits rfl rest_delivers
    · rw [if_neg fits] at read_eq
      cases read_eq
      have taken_ne : data.take room ≠ [] := by
        intro taken_eq
        rcases List.take_eq_nil_iff.mp taken_eq with room_eq | data_eq
        · omega
        · exact data_ne data_eq
      have others_ne : data.drop room ≠ [] := by
        intro others_eq
        exact fits (List.drop_eq_nil_iff.mp others_eq)
      refine .takes taken_ne ?_ ?_ (.chunk others_ne rest_delivers)
      · exact List.length_take_le room data
      · rw [List.flatten_cons, List.flatten_cons, ← List.append_assoc, List.take_append_drop]

/-- What a read delivers is taken off the front of the reader. -/
theorem content_eq_of_read {reader rest : Reader} {room : Nat} {delivery : Delivery}
    (read_eq : reader.read room = (delivery, rest)) :
    reader.content = delivery.data ++ rest.content := by
  rcases reader with _ | ⟨first, others⟩
  · cases read_eq
    rfl
  · cases first with
    | nothingYet =>
      cases read_eq
      rfl
    | fails reason =>
      cases read_eq
      rfl
    | bytes data =>
      rw [read] at read_eq
      by_cases fits : data.length ≤ room
      · rw [if_pos fits] at read_eq
        cases read_eq
        rfl
      · rw [if_neg fits] at read_eq
        cases read_eq
        simp only [content, List.flatMap_cons, Delivery.data, ← List.append_assoc,
          List.take_append_drop]

/-! ## Reading up to a limit -/

/-- A reader that delivers some bytes before an ending is left without the bytes up to the limit,
and with all others.  An ending that does not come before the limit is still to come. -/
structure TakesUpTo (limit : Nat) (delivered : List UInt8) (ending : Ending)
    (reader rest : Reader) : Prop where
  taken : reader.content = delivered.take limit ++ rest.content
  unseen : limit ≤ delivered.length →
    ∃ later, rest.Delivers later ending ∧ delivered = delivered.take limit ++ later.flatten

/-- What reading up to a limit comes to.  A failure is the outcome only if it comes before the
limit. -/
structure Collects (limit : Nat) (delivered : List UInt8) (ending : Ending) (reader : Reader)
    (outcome : Except String (List UInt8)) (rest : Reader) : Prop
    extends TakesUpTo limit delivered ending reader rest where
  reached : limit ≤ delivered.length → outcome = .ok (delivered.take limit)
  ended : delivered.length < limit → ending = .endOfStream → outcome = .ok delivered
  failed : delivered.length < limit → ∀ reason, ending = .failure reason → outcome = .error reason

namespace Collects

variable {limit : Nat} {delivered : List UInt8} {chunks : List (List UInt8)} {ending : Ending}
  {reader after rest : Reader} {outcome : Except String (List UInt8)}

/-- At the limit nothing more is read. -/
theorem zero (delivers : reader.Delivers chunks ending) :
    Collects 0 chunks.flatten ending reader (.ok []) reader where
  reached _ := rfl
  ended short := absurd short (Nat.not_lt_zero _)
  failed short := absurd short (Nat.not_lt_zero _)
  taken := rfl
  unseen _ := ⟨chunks, delivers, rfl⟩

/-- Nothing is collected where the stream ends before the limit. -/
theorem ends (limit_pos : 0 < limit) (content_eq : reader.content = rest.content) :
    Collects limit [] .endOfStream reader (.ok []) rest where
  reached enough := absurd limit_pos (Nat.not_lt.mpr enough)
  ended _ _ := rfl
  failed _ reason ending_eq := by cases ending_eq
  taken := by rw [content_eq, List.take_nil, List.nil_append]
  unseen enough := absurd limit_pos (Nat.not_lt.mpr enough)

/-- A failure before the limit is the outcome. -/
theorem fails {reason : String} (limit_pos : 0 < limit)
    (content_eq : reader.content = rest.content) :
    Collects limit [] (.failure reason) reader (.error reason) rest where
  reached enough := absurd limit_pos (Nat.not_lt.mpr enough)
  ended _ ending_eq := by cases ending_eq
  failed _ reason ending_eq := by
    cases ending_eq
    rfl
  taken := by rw [content_eq, List.take_nil, List.nil_append]
  unseen enough := absurd limit_pos (Nat.not_lt.mpr enough)

/-- A read that took nothing changes nothing. -/
theorem later (collects : Collects limit delivered ending after outcome rest)
    (content_eq : reader.content = after.content) :
    Collects limit delivered ending reader outcome rest :=
  { collects with taken := content_eq.trans collects.taken }

/-- What is collected goes behind what a read took before. -/
theorem takes {data : List UInt8}
    (collects : Collects (limit - data.length) delivered ending after outcome rest)
    (fits : data.length ≤ limit) (content_eq : reader.content = data ++ after.content) :
    Collects limit (data ++ delivered) ending reader (outcome.map (data ++ ·)) rest := by
  have length_eq : (data ++ delivered).length = data.length + delivered.length :=
    List.length_append
  have take_eq : (data ++ delivered).take limit = data ++ delivered.take (limit - data.length) := by
    rw [List.take_append, List.take_of_length_le fits]
  refine ⟨⟨?_, ?_⟩, ?_, ?_, ?_⟩
  · rw [content_eq, collects.taken, take_eq, List.append_assoc]
  · intro enough
    obtain ⟨later, delivers, delivered_eq⟩ := collects.unseen (by omega)
    refine ⟨later, delivers, ?_⟩
    rw [take_eq, List.append_assoc, ← delivered_eq]
  · intro enough
    rw [collects.reached (by omega), take_eq]
    rfl
  · intro short ending_eq
    rw [collects.ended (by omega) ending_eq]
    rfl
  · intro short reason ending_eq
    rw [collects.failed (by omega) reason ending_eq]
    rfl

/-- The bytes before an ending, and the ending, leave no choice for what is collected. -/
theorem outcome_eq {other others : Reader} {outcome' : Except String (List UInt8)}
    (collects : Collects limit delivered ending reader outcome rest)
    (collects' : Collects limit delivered ending other outcome' others) : outcome' = outcome := by
  rcases Nat.lt_or_ge delivered.length limit with short | enough
  · cases ending with
    | endOfStream => rw [collects.ended short rfl, collects'.ended short rfl]
    | failure reason => rw [collects.failed short reason rfl, collects'.failed short reason rfl]
  · rw [collects.reached enough, collects'.reached enough]

end Collects

/-- Who blocks collects what is delivered up to the limit, whatever the sizes of the portions. -/
theorem Delivers.collects {reader : Reader} {chunks : List (List UInt8)} {ending : Ending}
    (delivers : reader.Delivers chunks ending) (portion : Nat → Nat) (taken limit : Nat) :
    Collects limit chunks.flatten ending reader (reader.collect portion taken limit).1
      (reader.collect portion taken limit).2 := by
  -- Follows the reads; each case is one of the four things that a read can come to.
  fun_induction collect portion taken limit reader generalizing chunks with
  | case1 taken limit reader limit_pos rest read_eq =>
    have content_eq := content_eq_of_read read_eq
    rcases delivers.reads (by omega) read_eq with _ | _ | _ | ⟨data_ne, -, -, -⟩
    · exact .ends limit_pos content_eq
    · exact absurd rfl data_ne
  | case2 taken limit reader limit_pos b data rest read_eq collected after after_eq ih =>
    have content_eq := content_eq_of_read read_eq
    cases delivers.reads (by omega) read_eq with
    | takes _ fits flatten_eq rest_delivers =>
      have collects := ih rest_delivers
      rw [after_eq] at collects
      rw [flatten_eq]
      exact collects.takes (Nat.le_trans fits (Nat.min_le_left _ _)) content_eq
  | case3 taken limit reader limit_pos rest read_eq ih =>
    have content_eq := content_eq_of_read read_eq
    cases delivers.reads (by omega) read_eq with
    | later rest_delivers => exact (ih rest_delivers).later content_eq
  | case4 taken limit reader limit_pos reason rest read_eq =>
    have content_eq := content_eq_of_read read_eq
    cases delivers.reads (by omega) read_eq with
    | fails => exact .fails limit_pos content_eq
  | case5 taken limit reader limit_zero =>
    obtain rfl : limit = 0 := by omega
    exact .zero delivers

/-! ## Polling -/

/-- What is collected after one read, by what the read came to. -/
theorem collect_eq {portion : Nat → Nat} {taken limit : Nat} {reader rest : Reader}
    {delivery : Delivery} (limit_pos : 0 < limit)
    (read_eq : reader.read (min limit (portion taken + 1)) = (delivery, rest)) :
    reader.collect portion taken limit = match delivery with
      | .bytes [] => (.ok [], rest)
      | .bytes (b :: data) =>
        let later := rest.collect portion (taken + (data.length + 1)) (limit - (data.length + 1))
        (later.1.map (b :: data ++ ·), later.2)
      | .nothingYet => rest.collect portion taken limit
      | .fails reason => (.error reason, rest) := by
  rw [collect, dif_pos limit_pos]
  split
  all_goals
    next read_eq' =>
      cases read_eq.symm.trans read_eq'
      rfl

namespace Unfinished

/-- What a read comes to if it blocks from now on. -/
def finish (portion : Nat → Nat) (read : Unfinished) : Except String (List UInt8) × Reader :=
  let later := read.reader.collect portion read.collected.length read.limit
  (later.1.map (read.collected ++ ·), later.2)

/-- What is collected already goes in front of what is taken more. -/
theorem finish_append {portion : Nat → Nat} {collected data : List UInt8} {limit : Nat}
    {rest : Reader} :
    finish portion ⟨collected ++ data, limit, rest⟩ =
      let later := rest.collect portion (collected.length + data.length) limit
      ((later.1.map (data ++ ·)).map (collected ++ ·), later.2) := by
  have map_append (outcome : Except String (List UInt8)) :
      outcome.map (collected ++ data ++ ·) =
        (outcome.map (data ++ ·)).map (collected ++ ·) := by
    cases outcome with
    | error reason => rfl
    | ok bytes => simp only [Except.map, List.append_assoc]
  simp only [finish, List.length_append, map_append]

end Unfinished

/-- A poll does what a read that blocks would do in the same time. -/
theorem finish_eq_of_poll (portion : Nat → Nat) (read : Unfinished) :
    read.finish portion = match poll portion read with
      | .pending later => later.finish portion
      | .ready outcome rest => (outcome, rest) := by
  fun_induction poll portion read with
  | case1 read limit_pos rest read_eq =>
    rw [Unfinished.finish, collect_eq limit_pos read_eq]
    simp only [Except.map, List.append_nil]
  | case2 read limit_pos b data rest read_eq ih =>
    rw [← ih, Unfinished.finish_append, Unfinished.finish, collect_eq limit_pos read_eq]
    rfl
  | case3 read limit_pos rest read_eq =>
    rw [Unfinished.finish, collect_eq limit_pos read_eq]
    rfl
  | case4 read limit_pos reason rest read_eq =>
    rw [Unfinished.finish, collect_eq limit_pos read_eq]
    rfl
  | case5 read limit_zero =>
    rw [Unfinished.finish, collect, dif_neg limit_zero]
    simp only [Except.map, List.append_nil]

/-- Who is polled to the end gets what who blocks gets. -/
theorem await_eq_finish (portion : Nat → Nat) (read : Unfinished) :
    await portion read = read.finish portion := by
  fun_induction await portion read with
  | case1 read later poll_eq ih => rw [ih, finish_eq_of_poll portion read, poll_eq]
  | case2 read outcome rest poll_eq => rw [finish_eq_of_poll portion read, poll_eq]

/-- Who is polled collects what is delivered up to the limit. -/
theorem Delivers.collects_await {reader : Reader} {chunks : List (List UInt8)} {ending : Ending}
    (delivers : reader.Delivers chunks ending) (portion : Nat → Nat) (limit : Nat) :
    Collects limit chunks.flatten ending reader (await portion ⟨[], limit, reader⟩).1
      (await portion ⟨[], limit, reader⟩).2 := by
  have await_eq : await portion ⟨[], limit, reader⟩ = reader.collect portion 0 limit := by
    rw [await_eq_finish, Unfinished.finish]
    rcases reader.collect portion 0 limit with ⟨_ | bytes, rest⟩ <;> rfl
  rw [await_eq]
  exact delivers.collects portion 0 limit

end Reader

/-! ## Previews -/

/-- **Previews of chunks.**  Two readers deliver the same bytes before the same ending, in chunks of
any sizes.  One of them is read by somebody who blocks and the other one by somebody who is polled,
in portions of any sizes.  The previews are the same: they show the bytes up to the limit if as many
are delivered, all bytes if the stream ends before, and nothing if a read fails before.  No more
bytes than the limit are taken from either reader, and an ending behind the limit is not met. -/
theorem previews_agree {blocking polled : Reader} {chunks others : List (List UInt8)}
    {ending : Ending} (delivers : blocking.Delivers chunks ending)
    (polled_delivers : polled.Delivers others ending) (same : others.flatten = chunks.flatten)
    (portion polledPortion : Nat → Nat) (limit : Nat) :
    let delivered := chunks.flatten
    let preview := Preview.read portion limit blocking
    Preview.readPolled polledPortion limit polled = preview ∧
      (limit ≤ delivered.length →
        preview = ⟨Text.Utf8.toStringLossy (delivered.take limit), []⟩) ∧
      (delivered.length < limit → ending = .endOfStream →
        preview = ⟨Text.Utf8.toStringLossy delivered, []⟩) ∧
      (delivered.length < limit → ∀ reason, ending = .failure reason → preview.text = "") ∧
      Reader.TakesUpTo limit delivered ending blocking (blocking.collect portion 0 limit).2 ∧
      Reader.TakesUpTo limit delivered ending polled
        (Reader.await polledPortion ⟨[], limit, polled⟩).2 := by
  intro delivered preview
  have collects := delivers.collects portion 0 limit
  have polled_collects := polled_delivers.collects_await polledPortion limit
  rw [same] at polled_collects
  refine ⟨?_, ?_, ?_, ?_, collects.toTakesUpTo, polled_collects.toTakesUpTo⟩
  · exact congrArg (Preview.ofBytes limit) (collects.outcome_eq polled_collects)
  · intro enough
    exact congrArg (Preview.ofBytes limit) (collects.reached enough)
  · intro short ending_eq
    exact congrArg (Preview.ofBytes limit) (collects.ended short ending_eq)
  · intro short reason ending_eq
    have preview_eq := congrArg (Preview.ofBytes limit) (collects.failed short reason ending_eq)
    exact congrArg Preview.text preview_eq

/-- A character is split in one reader and not in the other, and both fail at the limit. -/
theorem previews_agree_cafe :
    let blocking : Reader := [.bytes [0x63, 0x61, 0x66, 0xc3], .nothingYet, .bytes [0xa9],
      .fails "gone"]
    let polled : Reader := [.bytes [0x63], .nothingYet, .bytes [0x61, 0x66, 0xc3, 0xa9],
      .fails "gone"]
    blocking.Delivers [[0x63, 0x61, 0x66, 0xc3], [0xa9]] (.failure "gone") ∧
      polled.Delivers [[0x63], [0x61, 0x66, 0xc3, 0xa9]] (.failure "gone") ∧
      Preview.read (fun _ ↦ 31) 5 blocking = ⟨"café", []⟩ ∧
      Preview.readPolled (fun taken ↦ taken) 5 polled = ⟨"café", []⟩ := by
  intro blocking polled
  have delivers : blocking.Delivers [[0x63, 0x61, 0x66, 0xc3], [0xa9]] (.failure "gone") :=
    .chunk (by decide) (.later (.chunk (by decide) .fails))
  have polled_delivers :
      polled.Delivers [[0x63], [0x61, 0x66, 0xc3, 0xa9]] (.failure "gone") :=
    .chunk (by decide) (.later (.chunk (by decide) .fails))
  obtain ⟨same, reached, -⟩ :=
    previews_agree delivers polled_delivers rfl (fun _ ↦ 31) (fun taken ↦ taken) 5
  have text_eq : Text.Utf8.toStringLossy [0x63, 0x61, 0x66, 0xc3, 0xa9] = "café" := by
    decide +kernel
  have shown : Preview.read (fun _ ↦ 31) 5 blocking = ⟨"café", []⟩ := by
    rw [← text_eq]
    exact reached (by decide)
  exact ⟨delivers, polled_delivers, shown, same.trans shown⟩

end AuditTrail
