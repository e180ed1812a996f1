/-!
# Texts that may break off

A text that is put together from parts, of which one may fail after a part of its own text. What
stands before the failure is kept and nothing follows it.
-/

namespace AuditTrail

/-- A text, and whether it was written to its end. -/
structure Written where
  text : String
  complete : Bool
  deriving DecidableEq, Repr

namespace Written

/-- A text that is written to its end. -/
def whole (text : String) : Written :=
  ⟨text, true⟩

/-- A text that breaks off. -/
def broken (text : String) : Written :=
  ⟨text, false⟩

/-- One text after another, which is not written if the first one breaks off. -/
def append (a b : Written) : Written :=
  if a.complete then ⟨a.text ++ b.text, b.complete⟩ else a

instance : Append Written := ⟨append⟩

@[simp] theorem whole_append (s : String) (b : Written) :
    whole s ++ b = ⟨s ++ b.text, b.complete⟩ := rfl

@[simp] theorem broken_append (s : String) (b : Written) : broken s ++ b = broken s := rfl

theorem complete_append (a b : Written) : (a ++ b).complete = (a.complete && b.complete) := by
  obtain ⟨s, complete⟩ := a
  cases complete <;> rfl

theorem text_append (a b : Written) :
    (a ++ b).text = if a.complete then a.text ++ b.text else a.text := by
  obtain ⟨s, complete⟩ := a
  cases complete <;> rfl

/-- Texts with a separator between them. -/
def join (separator : String) : List Written → Written
  | [] => whole ""
  | [a] => a
  | a :: rest => a ++ whole separator ++ join separator rest

@[simp] theorem join_nil (separator : String) : join separator [] = whole "" := rfl

@[simp] theorem join_singleton (separator : String) (a : Written) : join separator [a] = a := rfl

theorem join_cons_cons (separator : String) (a b : Written) (rest : List Written) :
    join separator (a :: b :: rest) = a ++ whole separator ++ join separator (b :: rest) := rfl

end Written

end AuditTrail
