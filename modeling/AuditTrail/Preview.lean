import AuditTrail.Text.Utf8
import AuditTrail.Log

/-!
# Previews

A preview is the text of the first bytes that a reader delivers. The reader is asked for bytes in
portions of any size; what it delivers is collected up to a limit, and a failing read leaves an
empty preview.

There are two ways to read. Who may block asks again at once when there is nothing yet, and comes
back with everything. Who may not block is polled: it gives up its turn when there is nothing yet,
keeps what it has, and goes on from there at the next poll.
-/

namespace AuditTrail

/-- What a reader does on one occasion. -/
inductive Delivery where
  /-- Delivers bytes; no bytes are the end of the stream. -/
  | bytes (data : List UInt8)
  /-- Has nothing yet and is to be asked again. -/
  | nothingYet
  | fails (reason : String)
  deriving DecidableEq, Repr

/-- A reader, as everything that it is still going to do. -/
abbrev Reader := List Delivery

namespace Reader

/-- An upper bound on the number of times that a reader can be asked. -/
def weight : Reader → Nat
  | [] => 0
  | .bytes data :: rest => data.length + 1 + weight rest
  | _ :: rest => 1 + weight rest

/-- One read of at most `room` bytes. What does not fit stays for the next read. -/
def read (room : Nat) : Reader → Delivery × Reader
  | [] => (.bytes [], [])
  | .bytes data :: rest =>
    if data.length ≤ room then (.bytes data, rest)
    else (.bytes (data.take room), .bytes (data.drop room) :: rest)
  | .nothingYet :: rest => (.nothingYet, rest)
  | .fails reason :: rest => (.fails reason, rest)

theorem weight_read_lt {room : Nat} {reader rest : Reader} {delivery : Delivery}
    (room_pos : 0 < room) (h : reader.read room = (delivery, rest))
    (h' : delivery ≠ .bytes []) : rest.weight < reader.weight := by
  unfold read at h
  split at h
  · simp_all
  · split at h
    · cases h; simp only [weight]; omega
    · cases h; simp only [weight, List.length_drop]; omega
  · cases h; simp only [weight]; omega
  · cases h; simp only [weight]; omega

/-- What a reader delivers up to a limit, in portions whose size `portion` chooses after every
number of bytes, and what the reader is still going to do. -/
def collect (portion : Nat → Nat) (taken limit : Nat) (reader : Reader) :
    Except String (List UInt8) × Reader :=
  if _limit_pos : 0 < limit then
    match _h : reader.read (min limit (portion taken + 1)) with
    | (.bytes [], rest) => (.ok [], rest)
    | (.bytes (b :: data), rest) =>
      let (collected, rest) :=
        collect portion (taken + (data.length + 1)) (limit - (data.length + 1)) rest
      (collected.map (b :: data ++ ·), rest)
    | (.nothingYet, rest) => collect portion taken limit rest
    | (.fails reason, rest) => (.error reason, rest)
  else (.ok [], reader)
  termination_by reader.weight
  decreasing_by
    · exact weight_read_lt (by omega) _h (by simp)
    · exact weight_read_lt (by omega) _h (by simp)

/-! ## Polling -/

/-- A read that has not come to its end: what it has collected, how many more bytes it may take, and
what the reader is still going to do. -/
structure Unfinished where
  collected : List UInt8
  limit : Nat
  reader : Reader

/-- What a poll comes to. -/
inductive Polled where
  /-- There is nothing yet. -/
  | pending (later : Unfinished)
  /-- The read has come to its end. -/
  | ready (outcome : Except String (List UInt8)) (rest : Reader)

/-- One turn of a read, which lasts until there is nothing yet or the read has come to its end. -/
def poll (portion : Nat → Nat) (read : Unfinished) : Polled :=
  if _limit_pos : 0 < read.limit then
    match _h : read.reader.read (min read.limit (portion read.collected.length + 1)) with
    | (.bytes [], rest) => .ready (.ok read.collected) rest
    | (.bytes (b :: data), rest) =>
      poll portion ⟨read.collected ++ b :: data, read.limit - (data.length + 1), rest⟩
    | (.nothingYet, rest) => .pending { read with reader := rest }
    | (.fails reason, rest) => .ready (.error reason) rest
  else .ready (.ok read.collected) read.reader
  termination_by read.reader.weight
  decreasing_by exact weight_read_lt (by omega) _h (by simp)

theorem weight_poll_lt {portion : Nat → Nat} {read later : Unfinished}
    (h : poll portion read = .pending later) : later.reader.weight < read.reader.weight := by
  fun_induction poll portion read with
  | case1 read limit_pos rest read_eq => cases h
  | case2 read limit_pos b data rest read_eq ih =>
    exact Nat.lt_trans (ih h) (weight_read_lt (by omega) read_eq (by simp))
  | case3 read limit_pos rest read_eq =>
    cases h
    exact weight_read_lt (by omega) read_eq (by simp)
  | case4 read limit_pos reason rest read_eq => cases h
  | case5 read limit_zero => cases h

/-- What a read has collected when it comes to its end, and what the reader is still going to do.
The read is polled as often as it takes. -/
def await (portion : Nat → Nat) (read : Unfinished) : Except String (List UInt8) × Reader :=
  match _h : poll portion read with
  | .pending later => await portion later
  | .ready outcome rest => (outcome, rest)
  termination_by read.reader.weight
  decreasing_by exact weight_poll_lt _h

end Reader

/-- The preview of what a reader delivers. -/
structure Preview where
  text : String
  logs : List Log.Event
  deriving DecidableEq, Repr

namespace Preview

/-- The preview of some bytes, or of a failure to read them. -/
def ofBytes (limit : Nat) : Except String (List UInt8) → Preview
  | .ok bytes => ⟨Text.Utf8.toStringLossy bytes, []⟩
  | .error reason =>
    ⟨"", [{
      level := .warn
      target := Log.diagnosticTarget
      message := "Failed to read audit preview: " ++ reason
      fields := [("limit", .number limit)] }]⟩

/-- The preview of at most `limit` bytes, read in portions that `portion` chooses. -/
def read (portion : Nat → Nat) (limit : Nat) (reader : Reader) : Preview :=
  ofBytes limit (reader.collect portion 0 limit).1

/-- The preview of at most `limit` bytes, read without blocking. -/
def readPolled (portion : Nat → Nat) (limit : Nat) (reader : Reader) : Preview :=
  ofBytes limit (Reader.await portion ⟨[], limit, reader⟩).1

end Preview

end AuditTrail
