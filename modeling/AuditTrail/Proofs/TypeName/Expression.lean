import AuditTrail.Decimal.Numeral
import AuditTrail.Proofs.Text.Nesting
import Mathlib.Data.Nat.Digits.Defs

/-!
# Types and their names

A type is a named type below a module path, with or without arguments, or a reference, a tuple, an
array or a slice of types.  Its full name writes all of this out, module paths included, and is
balanced whatever the type is.

A type is shortened by removing the module path of one of its outermost named types, and nothing
else.
-/

namespace AuditTrail.TypeName

open Nesting

/-! ## Types -/

/-- A character with a meaning of its own in the name of a type. -/
def isMark (c : Char) : Bool :=
  role c ≠ .plain || c ∈ [':', '&', ',', ';', ' ']

/-- A name of one module or of one type. -/
structure Word where
  chars : List Char
  nonempty : chars ≠ []
  unmarked : ∀ c ∈ chars, isMark c = false

/-- An argument that is no type, as a number or a truth value, by its text. -/
structure Constant where
  chars : List Char
  plain : ∀ c ∈ chars, role c = .plain

mutual

/-- A type, by the parts that its name shows. -/
inductive TypeExpr where
  | named (path : List Word) (name : Word) (arguments : List Argument)
  | reference (exclusive : Bool) (target : TypeExpr)
  | tuple (items : List TypeExpr)
  | array (item : TypeExpr) (length : Nat)
  | slice (item : TypeExpr)

/-- An argument of a type. -/
inductive Argument where
  | type (t : TypeExpr)
  | constant (value : Constant)

end

/-! ## Full names -/

/-- A module path, each module with the separator behind it. -/
def pathChars (path : List Word) : List Char :=
  path.flatMap fun word ↦ word.chars ++ [':', ':']

@[simp] theorem pathChars_nil : pathChars [] = [] := rfl

@[simp] theorem pathChars_cons (word : Word) (path : List Word) :
    pathChars (word :: path) = word.chars ++ ':' :: ':' :: pathChars path := by
  rw [pathChars, List.flatMap_cons, List.append_assoc]
  rfl

/-- Parts with commas between them. -/
def commaChars (parts : List (List Char)) : List Char :=
  [',', ' '].intercalate parts

/-- A list of arguments, if there are any. -/
def argumentChars : List (List Char) → List Char
  | [] => []
  | arguments => '<' :: (commaChars arguments ++ ['>'])

/-- What stands between the parentheses of a tuple: a single item has a comma behind it. -/
def tupleChars (items : List (List Char)) : List Char :=
  commaChars items ++ if items.length = 1 then [','] else []

/-- What stands between the sign of a reference and its target. -/
def exclusiveChars (exclusive : Bool) : List Char :=
  if exclusive then ['m', 'u', 't', ' '] else []

namespace TypeExpr

mutual

/-- The characters of the full name of a type. -/
def chars : TypeExpr → List Char
  | named path name arguments =>
    pathChars path ++ (name.chars ++ argumentChars (charsOfArguments arguments))
  | reference exclusive target => '&' :: (exclusiveChars exclusive ++ target.chars)
  | tuple items => '(' :: (tupleChars (charsOfItems items) ++ [')'])
  | array item length => '[' :: ((item.chars ++ ';' :: ' ' :: Numeral.ofNat length) ++ [']'])
  | slice item => '[' :: (item.chars ++ [']'])

/-- The names of the items of a tuple. -/
def charsOfItems : List TypeExpr → List (List Char)
  | [] => []
  | item :: rest => item.chars :: charsOfItems rest

/-- The texts of arguments. -/
def charsOfArguments : List Argument → List (List Char)
  | [] => []
  | argument :: rest => charsOfArgument argument :: charsOfArguments rest

/-- The text of an argument. -/
def charsOfArgument : Argument → List Char
  | .type t => t.chars
  | .constant value => value.chars

end

/-- The full name of a type. -/
def fullName (t : TypeExpr) : String :=
  String.ofList t.chars

/-- The type is a named one. -/
def isNamed : TypeExpr → Bool
  | named .. => true
  | _ => false

/-- The type that is left when all references around it are taken off. -/
def referent : TypeExpr → TypeExpr
  | reference _ target => target.referent
  | t => t

/-- The second type is the first one with at most one module path removed, that of an outermost
named type: one that is no argument of another. -/
inductive Shortens : TypeExpr → TypeExpr → Prop
  | whole (t : TypeExpr) : Shortens t t
  | named (path : List Word) (name : Word) (arguments : List Argument) :
    Shortens (named path name arguments) (named [] name arguments)
  | reference (exclusive : Bool) {target short : TypeExpr} :
    Shortens target short → Shortens (reference exclusive target) (reference exclusive short)
  | tuple (before after : List TypeExpr) {item short : TypeExpr} :
    Shortens item short →
      Shortens (tuple (before ++ item :: after)) (tuple (before ++ short :: after))
  | array (length : Nat) {item short : TypeExpr} :
    Shortens item short → Shortens (array item length) (array short length)
  | slice {item short : TypeExpr} : Shortens item short → Shortens (slice item) (slice short)

end TypeExpr

/-! ## Characters of names -/

theorem role_eq_plain {c : Char} (unmarked : isMark c = false) : role c = .plain := by
  rw [isMark, Bool.or_eq_false_iff, decide_eq_false_iff_not, not_not] at unmarked
  exact unmarked.1

theorem isMark_of_isDigit {c : Char} (digit : c.isDigit = true) : isMark c = false := by
  have plain : role c = .plain := by
    unfold role
    split <;> first | rfl | exact absurd digit (by decide)
  have not_mem : c ∉ [':', '&', ',', ';', ' '] := by
    intro c_mem
    simp only [List.mem_cons, List.not_mem_nil, or_false] at c_mem
    rcases c_mem with rfl | rfl | rfl | rfl | rfl <;> exact absurd digit (by decide)
  simp only [isMark, plain, not_mem, ne_eq, not_true, decide_false, Bool.or_false]

theorem unmarked_ofNat (n : Nat) : ∀ c ∈ Numeral.ofNat n, isMark c = false :=
  fun _ c_mem ↦ isMark_of_isDigit (Nat.isDigit_of_mem_toDigits (by decide) (by decide) c_mem)

/-- A mark does not occur where no character is marked. -/
theorem not_mem_of_unmarked {c : Char} {cs : List Char} (unmarked : ∀ c ∈ cs, isMark c = false)
    (mark : isMark c = true) : c ∉ cs :=
  fun c_mem ↦ Bool.false_ne_true ((unmarked c c_mem).symm.trans mark)

theorem Word.not_mem {c : Char} (word : Word) (mark : isMark c = true) : c ∉ word.chars :=
  not_mem_of_unmarked word.unmarked mark

/-- A module path has no mark but the colons of its separators. -/
theorem not_mem_pathChars {c : Char} (path : List Word) (mark : isMark c = true)
    (not_colon : c ≠ ':') : c ∉ pathChars path := by
  induction path with
  | nil => exact List.not_mem_nil
  | cons word rest ih => simp [word.not_mem mark, not_colon, ih]

/-! ## Brackets of names -/

theorem isBalanced_of_unmarked {cs : List Char} (unmarked : ∀ c ∈ cs, isMark c = false) :
    IsBalanced cs :=
  isBalanced_of_plain fun c c_mem ↦ role_eq_plain (unmarked c c_mem)

theorem isBalanced_pathChars (path : List Word) : IsBalanced (pathChars path) := by
  induction path with
  | nil => exact isBalanced_nil
  | cons word rest ih =>
    rw [pathChars_cons]
    exact (isBalanced_of_unmarked word.unmarked).append (.cons rfl (.cons rfl ih))

/-- The length of an array may stand behind a balanced text. -/
theorem isBalanced_append_length {cs : List Char} (balanced : IsBalanced cs) (length : Nat) :
    IsBalanced (cs ++ ';' :: ' ' :: Numeral.ofNat length) :=
  balanced.append (.cons rfl (.cons rfl (isBalanced_of_unmarked (unmarked_ofNat length))))

section Parts

variable {parts : List (List Char)} (balanced : ∀ part ∈ parts, IsBalanced part)
include balanced

theorem isBalanced_commaChars : IsBalanced (commaChars parts) :=
  .intercalate (by decide) balanced

theorem isBalanced_argumentChars : IsBalanced (argumentChars parts) := by
  unfold argumentChars
  split
  · exact isBalanced_nil
  · exact (isBalanced_commaChars balanced).enclose rfl rfl

theorem isBalanced_tupleChars : IsBalanced (tupleChars parts) := by
  refine (isBalanced_commaChars balanced).append ?_
  split <;> decide

end Parts

namespace TypeExpr

mutual

/-- Full names are balanced. -/
theorem isBalanced_chars : ∀ t : TypeExpr, IsBalanced t.chars
  | named path name arguments => by
    have name_balanced := isBalanced_of_unmarked name.unmarked
    have arguments_balanced :=
      isBalanced_argumentChars (isBalanced_charsOfArguments arguments)
    rw [chars]
    exact (isBalanced_pathChars path).append (name_balanced.append arguments_balanced)
  | reference exclusive target => by
    have sign_balanced : IsBalanced (exclusiveChars exclusive) := by
      cases exclusive <;> decide
    rw [chars]
    exact .cons rfl (sign_balanced.append (isBalanced_chars target))
  | tuple items => by
    rw [chars]
    exact (isBalanced_tupleChars (isBalanced_charsOfItems items)).enclose rfl rfl
  | array item length => by
    rw [chars]
    exact (isBalanced_append_length (isBalanced_chars item) length).enclose rfl rfl
  | slice item => by
    rw [chars]
    exact (isBalanced_chars item).enclose rfl rfl

theorem isBalanced_charsOfItems :
    ∀ items : List TypeExpr, ∀ part ∈ charsOfItems items, IsBalanced part
  | [] => nofun
  | item :: rest => by
    rw [charsOfItems, List.forall_mem_cons]
    exact ⟨isBalanced_chars item, isBalanced_charsOfItems rest⟩

theorem isBalanced_charsOfArguments :
    ∀ arguments : List Argument, ∀ part ∈ charsOfArguments arguments, IsBalanced part
  | [] => nofun
  | .type t :: rest => by
    rw [charsOfArguments, charsOfArgument, List.forall_mem_cons]
    exact ⟨isBalanced_chars t, isBalanced_charsOfArguments rest⟩
  | .constant value :: rest => by
    rw [charsOfArguments, charsOfArgument, List.forall_mem_cons]
    exact ⟨isBalanced_of_plain value.plain, isBalanced_charsOfArguments rest⟩

end

end TypeExpr

end AuditTrail.TypeName
