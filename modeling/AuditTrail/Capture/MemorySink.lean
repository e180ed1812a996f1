import AuditTrail.Capture.Record

/-!
# Records in memory

A store of records with a counter for those who wait for a number of records. A write is two steps:
the record is stored first and counted afterwards, so that the counter never runs ahead of the
records.
-/

namespace AuditTrail

/-- Records in the order in which they were stored, and how many of them have been counted. -/
structure MemorySink where
  records : List AuditRecord
  counted : Nat
  deriving DecidableEq, Repr

namespace MemorySink

/-- The store without records. -/
def empty : MemorySink :=
  ⟨[], 0⟩

/-- The first half of a write. -/
def store (record : AuditRecord) (sink : MemorySink) : MemorySink :=
  { sink with records := sink.records ++ [record] }

/-- The second half of a write. -/
def count (sink : MemorySink) : MemorySink :=
  { sink with counted := sink.counted + 1 }

/-- A whole write. -/
def write (record : AuditRecord) (sink : MemorySink) : MemorySink :=
  (sink.store record).count

/-- The number of records that have been counted. -/
def size (sink : MemorySink) : Nat :=
  sink.counted

/-- No record has been counted. -/
def isEmpty (sink : MemorySink) : Bool :=
  sink.size == 0

/-- The records, if as many as somebody waits for have been counted. -/
def await? (n : Nat) (sink : MemorySink) : Option (List AuditRecord) :=
  if n ≤ sink.counted then some sink.records else none

@[simp] theorem records_write (record : AuditRecord) (sink : MemorySink) :
    (sink.write record).records = sink.records ++ [record] := rfl

@[simp] theorem size_write (record : AuditRecord) (sink : MemorySink) :
    (sink.write record).size = sink.size + 1 := rfl

@[simp] theorem isEmpty_empty : empty.isEmpty = true := rfl

end MemorySink

end AuditTrail
