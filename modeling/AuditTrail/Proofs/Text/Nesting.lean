import Mathlib.Data.List.Basic

/-!
# Nested brackets

A text is read with a stack of the brackets that are still to be closed.  It is balanced if nothing
is open before it and nothing behind it.

No reading forgets where it came from: the brackets that are open behind a text and the text itself
give the brackets that were open before it.  So a text that closes what was opened before it is not
balanced, however the rest of it is nested.
-/

namespace AuditTrail.Nesting

/-- What a character does to the brackets that are open. -/
inductive Role where
  /-- Opens a bracket, which the given character closes. -/
  | opens (closing : Char)
  /-- Closes a bracket. -/
  | closes
  /-- Leaves the brackets alone. -/
  | plain
  deriving DecidableEq, Repr

/-- Round, square and angle brackets. -/
def role : Char → Role
  | '(' => .opens ')'
  | '[' => .opens ']'
  | '<' => .opens '>'
  | ')' | ']' | '>' => .closes
  | _ => .plain

/-- The characters that close the open brackets, innermost first, after one more character.  There
are none if the character closes another bracket than the innermost one. -/
def step (stack : List Char) (c : Char) : Option (List Char) :=
  match role c with
  | .opens closing => some (closing :: stack)
  | .closes => if stack.head? = some c then some stack.tail else none
  | .plain => some stack

/-- The characters that close the open brackets after a text. -/
def opened (stack cs : List Char) : Option (List Char) :=
  cs.foldlM step stack

/-- Every bracket is closed by its own kind, and none is closed that was not opened. -/
def IsBalanced (cs : List Char) : Prop :=
  opened [] cs = some []

instance (cs : List Char) : Decidable (IsBalanced cs) :=
  inferInstanceAs (Decidable (opened [] cs = some []))

variable {c d closing : Char} {cs as bs stack other next below : List Char}

/-! ## One character -/

theorem step_opens (opens : role c = .opens closing) :
    step stack c = some (closing :: stack) := by
  rw [step, opens]

theorem step_closes_eq_some_iff (closes : role c = .closes) :
    step stack c = some next ↔ stack = c :: next := by
  rw [step, closes]
  cases stack with
  | nil => exact ⟨nofun, nofun⟩
  | cons closing stack => simp

theorem step_plain (plain : role c = .plain) : step stack c = some stack := by
  rw [step, plain]

/-- The brackets that are open after a character give those that were open before it. -/
theorem step_injective (step_eq : step stack c = some next) (other_eq : step other c = some next) :
    stack = other := by
  cases kind : role c with
  | opens closing =>
    rw [step_opens kind, Option.some_inj] at step_eq other_eq
    exact (List.cons.inj (step_eq.trans other_eq.symm)).2
  | closes =>
    rw [step_closes_eq_some_iff kind] at step_eq other_eq
    exact step_eq.trans other_eq.symm
  | plain =>
    rw [step_plain kind, Option.some_inj] at step_eq other_eq
    exact step_eq.trans other_eq.symm

/-- Brackets further out do not matter. -/
theorem step_append (step_eq : step stack c = some next) (below : List Char) :
    step (stack ++ below) c = some (next ++ below) := by
  cases kind : role c with
  | opens closing =>
    rw [step_opens kind, Option.some_inj] at step_eq
    rw [step_opens kind, ← step_eq, List.cons_append]
  | closes =>
    rw [step_closes_eq_some_iff kind] at step_eq ⊢
    rw [step_eq, List.cons_append]
  | plain =>
    rw [step_plain kind, Option.some_inj] at step_eq
    rw [step_plain kind, step_eq]

/-! ## Texts -/

@[simp] theorem opened_nil (stack : List Char) : opened stack [] = some stack := rfl

@[simp] theorem opened_cons (stack : List Char) (c : Char) (cs : List Char) :
    opened stack (c :: cs) = (step stack c).bind fun next ↦ opened next cs :=
  List.foldlM_cons

theorem opened_append (stack as bs : List Char) :
    opened stack (as ++ bs) = (opened stack as).bind fun next ↦ opened next bs :=
  List.foldlM_append

theorem opened_injective (opened_eq : opened stack cs = some next)
    (other_eq : opened other cs = some next) : stack = other := by
  induction cs generalizing stack other with
  | nil => exact Option.some_inj.mp (opened_eq.trans other_eq.symm)
  | cons c cs ih =>
    rw [opened_cons, Option.bind_eq_some_iff] at opened_eq other_eq
    obtain ⟨after, step_eq, opened_eq⟩ := opened_eq
    obtain ⟨afterOther, step_other, other_eq⟩ := other_eq
    obtain rfl := ih opened_eq other_eq
    exact step_injective step_eq step_other

theorem opened_below (opened_eq : opened stack cs = some next) (below : List Char) :
    opened (stack ++ below) cs = some (next ++ below) := by
  induction cs generalizing stack with
  | nil =>
    cases opened_eq
    rfl
  | cons c cs ih =>
    rw [opened_cons, Option.bind_eq_some_iff] at opened_eq
    obtain ⟨after, step_eq, opened_eq⟩ := opened_eq
    rw [opened_cons, step_append step_eq, Option.bind_some, ih opened_eq]

/-! ## Balanced texts -/

theorem isBalanced_nil : IsBalanced [] := rfl

/-- A text without brackets is balanced. -/
theorem isBalanced_of_plain (plain : ∀ c ∈ cs, role c = .plain) : IsBalanced cs := by
  induction cs with
  | nil => exact isBalanced_nil
  | cons c cs ih =>
    rw [IsBalanced, opened_cons, step_plain (plain c List.mem_cons_self), Option.bind_some]
    exact ih fun d d_mem ↦ plain d (List.mem_cons_of_mem c d_mem)

namespace IsBalanced

/-- A balanced text leaves the brackets as they are that were open before it. -/
theorem opened_eq (balanced : IsBalanced cs) (stack : List Char) : opened stack cs = some stack :=
  opened_below balanced stack

theorem append (balanced : IsBalanced as) (balancedRest : IsBalanced bs) :
    IsBalanced (as ++ bs) := by
  rw [IsBalanced, opened_append, balanced.opened_eq, Option.bind_some, balancedRest.opened_eq]

/-- A character that is no bracket may stand before a balanced text. -/
theorem cons (plain : role c = .plain) (balanced : IsBalanced cs) : IsBalanced (c :: cs) := by
  rw [IsBalanced, opened_cons, step_plain plain, Option.bind_some, balanced.opened_eq]

theorem enclose (opens : role c = .opens d) (closes : role d = .closes)
    (balanced : IsBalanced cs) : IsBalanced (c :: (cs ++ [d])) := by
  have closed : step [d] d = some [] := (step_closes_eq_some_iff closes).mpr rfl
  rw [IsBalanced, opened_cons, step_opens opens, Option.bind_some, opened_append,
    balanced.opened_eq, Option.bind_some, opened_cons, closed, Option.bind_some, opened_nil]

/-- Texts are balanced together if each of them is, and what separates them. -/
theorem intercalate {separator : List Char} {texts : List (List Char)}
    (separating : IsBalanced separator) (balanced : ∀ text ∈ texts, IsBalanced text) :
    IsBalanced (separator.intercalate texts) := by
  induction texts with
  | nil => exact isBalanced_nil
  | cons text rest ih =>
    have text_balanced := balanced text List.mem_cons_self
    have rest_balanced := ih fun text text_mem ↦ balanced text (List.mem_cons_of_mem _ text_mem)
    cases rest with
    | nil => rwa [List.intercalate_singleton]
    | cons next rest =>
      rw [List.intercalate_cons_cons]
      exact (text_balanced.append separating).append rest_balanced

/-- A last part of a balanced text, with a bracket closed behind it, is not balanced: the brackets
that it closes are those that the part before it has opened, and the last one is not among them. -/
theorem not_suffix_concat (balanced : IsBalanced cs) (closes : role d = .closes)
    (ends : bs <:+ cs) : ¬ IsBalanced (bs ++ [d]) := by
  intro suffix_balanced
  obtain ⟨as, rfl⟩ := ends
  have whole : opened [] (as ++ bs) = some [] := balanced
  rw [opened_append, Option.bind_eq_some_iff] at whole
  obtain ⟨inner, -, inner_eq⟩ := whole
  have last : opened [] (bs ++ [d]) = some [] := suffix_balanced
  rw [opened_append, Option.bind_eq_some_iff] at last
  obtain ⟨behind, behind_eq, closed⟩ := last
  rw [opened_cons, Option.bind_eq_some_iff] at closed
  obtain ⟨_, step_eq, ⟨⟩⟩ := closed
  rw [step_closes_eq_some_iff closes] at step_eq
  have from_inner : opened (inner ++ [d]) bs = some behind :=
    step_eq ▸ opened_below inner_eq [d]
  exact List.append_ne_nil_of_right_ne_nil inner (List.cons_ne_nil d [])
    (opened_injective from_inner behind_eq)

end IsBalanced

end AuditTrail.Nesting
