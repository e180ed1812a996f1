import AuditTrail.Proofs.TypeName.Expression
import AuditTrail.TypeName
import Mathlib.Data.List.TakeWhile

/-!
# Short names of types

The short name is cut at the last `::` in front of the first argument, wherever in the full name
that is.  For a named type it is the end of the module path, and so the short name is the full name
without the path.

Nothing is cut where no module path comes before the first argument.  In any other type that is not
a named one, the cut goes through what is written around the path: a reference loses its sign, and
the bracket around a tuple, an array or a slice is closed without having been opened.
-/

namespace AuditTrail.TypeName

open Nesting

variable {c d : Char} {cs as bs : List Char}

/-! ## The last segment -/

theorem untilPath_of_absent (absent : ¬ [':', ':'] <:+: cs) : untilPath cs = cs := by
  fun_induction untilPath cs with
  | case1 rest => exact absurd (List.prefix_append [':', ':'] rest).isInfix absent
  | case2 c rest _ ih => rw [ih fun occurs ↦ absent (List.infix_cons occurs)]
  | case3 => rfl

theorem untilPath_append (occurs : [':', ':'] <:+: as) (bs : List Char) :
    untilPath (as ++ bs) = untilPath as := by
  fun_induction untilPath as with
  | case1 => rfl
  | case2 c rest not_separator ih =>
    have later : [':', ':'] <:+: rest := by
      refine (List.infix_cons_iff.mp occurs).resolve_left ?_
      rintro ⟨after, eq⟩
      cases eq
      exact not_separator after rfl rfl
    rw [List.cons_append, untilPath, ih later]
    -- the rest is not empty, and its first character is the one that is compared
    rintro tail rfl eq
    cases rest with
    | nil => exact absurd (List.infix_nil.mp later) (List.cons_ne_nil _ _)
    | cons d rest =>
      obtain ⟨rfl, -⟩ := List.cons.inj eq
      exact not_separator rest rfl rfl
  | case3 => exact absurd (List.infix_nil.mp occurs) (List.cons_ne_nil _ _)

theorem untilPath_cons (not_colon : c ≠ ':') (cs : List Char) :
    untilPath (c :: cs) = c :: untilPath cs := by
  rw [untilPath]
  exact fun _ eq _ ↦ not_colon eq

theorem untilPath_append_separator (absent : ':' ∉ as) (bs : List Char) :
    untilPath (as ++ ':' :: ':' :: bs) = as := by
  induction as with
  | nil => rfl
  | cons c as ih =>
    rw [List.mem_cons, not_or] at absent
    rw [List.cons_append, untilPath_cons (Ne.symm absent.1), ih absent.2]

theorem untilPath_begins (cs : List Char) : untilPath cs <+: cs := by
  fun_induction untilPath cs with
  | case1 => exact List.nil_prefix
  | case2 c rest _ ih => exact (List.prefix_cons_inj c).mpr ih
  | case3 => exact List.nil_prefix

theorem separator_infix_reverse_iff : [':', ':'] <:+: cs.reverse ↔ [':', ':'] <:+: cs :=
  @List.reverse_infix Char [':', ':'] cs

theorem lastSegment_of_absent (absent : ¬ [':', ':'] <:+: cs) : lastSegment cs = cs := by
  rw [lastSegment, untilPath_of_absent (mt separator_infix_reverse_iff.mp absent),
    List.reverse_reverse]

theorem lastSegment_append (as : List Char) (occurs : [':', ':'] <:+: bs) :
    lastSegment (as ++ bs) = lastSegment bs := by
  rw [lastSegment, List.reverse_append,
    untilPath_append (separator_infix_reverse_iff.mpr occurs), lastSegment]

theorem lastSegment_append_separator (as : List Char) (absent : ':' ∉ bs) :
    lastSegment (as ++ ':' :: ':' :: bs) = bs := by
  have reverse_eq :
      (as ++ ':' :: ':' :: bs).reverse = bs.reverse ++ ':' :: ':' :: as.reverse := by
    simp
  rw [lastSegment, reverse_eq, untilPath_append_separator (mt List.mem_reverse.mp absent),
    List.reverse_reverse]

theorem lastSegment_concat (cs : List Char) (not_colon : c ≠ ':') :
    lastSegment (cs ++ [c]) = lastSegment cs ++ [c] := by
  rw [lastSegment, List.reverse_concat, untilPath_cons not_colon, List.reverse_cons, lastSegment]

theorem lastSegment_ends (cs : List Char) : lastSegment cs <:+ cs := by
  have ends := List.reverse_suffix.mpr (untilPath_begins cs.reverse)
  rwa [List.reverse_reverse] at ends

/-- What follows a module path is its last segment. -/
theorem lastSegment_pathChars (path : List Word) (absent : ':' ∉ bs) :
    lastSegment (pathChars path ++ bs) = bs := by
  obtain rfl | ⟨before, word, rfl⟩ := List.eq_nil_or_concat' path
  · exact lastSegment_of_absent fun occurs ↦ absent (occurs.subset List.mem_cons_self)
  · have path_eq : pathChars (before ++ [word]) ++ bs =
        pathChars before ++ word.chars ++ ':' :: ':' :: bs := by
      simp [pathChars]
    rw [path_eq, lastSegment_append_separator _ absent]

/-! ## Short forms of texts -/

/-- The characters of the short form. -/
def shortChars (cs : List Char) : List Char :=
  lastSegment (cs.takeWhile (· ≠ '<')) ++ cs.dropWhile (· ≠ '<')

theorem shorten_ofList (cs : List Char) :
    shorten (String.ofList cs) = String.ofList (shortChars cs) := by
  rw [shorten, String.toList_ofList, shortChars]

section Absent

variable (absent : '<' ∉ as)
include absent

theorem takeWhile_append_of_absent (bs : List Char) :
    (as ++ bs).takeWhile (· ≠ '<') = as ++ bs.takeWhile (· ≠ '<') :=
  List.takeWhile_append_of_pos fun _ mem ↦ decide_eq_true (ne_of_mem_of_not_mem mem absent)

theorem dropWhile_append_of_absent (bs : List Char) :
    (as ++ bs).dropWhile (· ≠ '<') = bs.dropWhile (· ≠ '<') :=
  List.dropWhile_append_of_pos fun _ mem ↦ decide_eq_true (ne_of_mem_of_not_mem mem absent)

theorem shortChars_append_cons (bs : List Char) :
    shortChars (as ++ '<' :: bs) = lastSegment as ++ '<' :: bs := by
  rw [shortChars, takeWhile_append_of_absent absent, dropWhile_append_of_absent absent]
  simp

theorem shortChars_of_absent : shortChars as = lastSegment as := by
  rw [shortChars, ← List.append_nil as, takeWhile_append_of_absent absent,
    dropWhile_append_of_absent absent]
  simp

end Absent

theorem shortChars_concat (cs : List Char) (not_colon : c ≠ ':') (not_angle : c ≠ '<') :
    shortChars (cs ++ [c]) = shortChars cs ++ [c] := by
  by_cases mem : '<' ∈ cs
  · obtain ⟨as, bs, rfl, absent⟩ := List.eq_append_cons_of_mem mem
    rw [List.append_assoc, List.cons_append, shortChars_append_cons absent,
      shortChars_append_cons absent, List.append_assoc, List.cons_append]
  · have absent : '<' ∉ cs ++ [c] := by
      rw [List.mem_append, List.mem_singleton, not_or]
      exact ⟨mem, Ne.symm not_angle⟩
    rw [shortChars_of_absent absent, shortChars_of_absent mem, lastSegment_concat cs not_colon]

theorem shortChars_ends (cs : List Char) : shortChars cs <:+ cs := by
  obtain ⟨before, eq⟩ := lastSegment_ends (cs.takeWhile (· ≠ '<'))
  refine ⟨before, ?_⟩
  rw [shortChars, ← List.append_assoc, eq, List.takeWhile_append_dropWhile]

/-! ## What comes first in a text -/

/-- What a text shows first, read from the left. -/
inductive Lead where
  | path
  | arguments
  /-- Neither a path nor arguments, to the end. -/
  | neither
  deriving DecidableEq, Repr

namespace Lead

/-- What a text with the first lead shows first, if a text with the second one follows it. -/
def before : Lead → Lead → Lead
  | neither, next => next
  | lead, _ => lead

theorem before_neither (lead : Lead) : lead.before neither = lead := by
  cases lead <;> rfl

theorem before_assoc (first second third : Lead) :
    (first.before second).before third = first.before (second.before third) := by
  cases first <;> rfl

/-- What a text shows first: a separator of a path or the bracket of arguments. -/
def ofChars : List Char → Lead
  | [] => neither
  | '<' :: _ => arguments
  | ':' :: ':' :: _ => path
  | _ :: rest => ofChars rest

@[simp] theorem ofChars_arguments (cs : List Char) : ofChars ('<' :: cs) = arguments := rfl

@[simp] theorem ofChars_separator (cs : List Char) : ofChars (':' :: ':' :: cs) = path := rfl

@[simp] theorem ofChars_cons (not_colon : c ≠ ':') (not_angle : c ≠ '<') (cs : List Char) :
    ofChars (c :: cs) = ofChars cs := by
  rw [ofChars]
  · exact not_angle
  · exact fun _ eq _ ↦ not_colon eq

theorem ofChars_append (not_colon : ':' ∉ as) (not_angle : '<' ∉ as) (bs : List Char) :
    ofChars (as ++ bs) = ofChars bs := by
  induction as with
  | nil => rfl
  | cons c as ih =>
    rw [List.mem_cons, not_or] at not_colon not_angle
    rw [List.cons_append, ofChars_cons (Ne.symm not_colon.1) (Ne.symm not_angle.1),
      ih not_colon.2 not_angle.2]

@[simp] theorem ofChars_word (word : Word) (cs : List Char) :
    ofChars (word.chars ++ cs) = ofChars cs :=
  ofChars_append (word.not_mem rfl) (word.not_mem rfl) cs

@[simp] theorem ofChars_exclusiveChars (exclusive : Bool) (cs : List Char) :
    ofChars (exclusiveChars exclusive ++ cs) = ofChars cs := by
  cases exclusive <;> exact ofChars_append (by decide) (by decide) cs

@[simp] theorem ofChars_ofNat (n : Nat) (cs : List Char) :
    ofChars (Numeral.ofNat n ++ cs) = ofChars cs :=
  ofChars_append (not_mem_of_unmarked (unmarked_ofNat n) rfl)
    (not_mem_of_unmarked (unmarked_ofNat n) rfl) cs

/-- A path is shown first if a separator stands before the first bracket of arguments. -/
theorem ofChars_eq_path_iff :
    ofChars cs = path ↔ [':', ':'] <:+: cs.takeWhile (· ≠ '<') := by
  fun_induction ofChars cs with
  | case1 => simp
  | case2 => simp
  | case3 => simp [List.infix_cons_iff]
  | case4 c rest not_angle not_separator ih =>
    have kept : (c :: rest).takeWhile (· ≠ '<') = c :: rest.takeWhile (· ≠ '<') :=
      List.takeWhile_cons_of_pos (decide_eq_true not_angle)
    have within : rest.takeWhile (· ≠ '<') <+: rest := List.takeWhile_prefix _
    rw [ih, kept, List.infix_cons_iff]
    refine (or_iff_right fun here ↦ ?_).symm
    obtain ⟨after, eq⟩ := here.trans ((List.prefix_cons_inj c).mpr within)
    cases eq
    exact not_separator after rfl rfl

end Lead

/-- A text that does not show a path first is its own short form. -/
theorem shortChars_of_lead_ne (lead_ne : Lead.ofChars cs ≠ .path) : shortChars cs = cs := by
  rw [shortChars, lastSegment_of_absent (mt Lead.ofChars_eq_path_iff.mpr lead_ne),
    List.takeWhile_append_dropWhile]

/-- What stands before a text that shows a path first does not get into the short form. -/
theorem shortChars_append (absent : '<' ∉ as) (lead_eq : Lead.ofChars bs = .path) :
    shortChars (as ++ bs) = shortChars bs := by
  rw [shortChars, takeWhile_append_of_absent absent, dropWhile_append_of_absent absent,
    lastSegment_append as (Lead.ofChars_eq_path_iff.mp lead_eq), shortChars]

/-- The short form of a text in brackets that shows a path first closes a bracket that it does not
open. -/
theorem not_isBalanced_shortChars (opens : role c = .opens d) (closes : role d = .closes)
    (not_angle : c ≠ '<') (balanced : IsBalanced cs)
    (lead_eq : Lead.ofChars (c :: (cs ++ [d])) = .path) :
    ¬ IsBalanced (shortChars (c :: (cs ++ [d]))) := by
  have c_not_colon : c ≠ ':' := by
    rintro rfl
    cases opens
  have d_not_colon : d ≠ ':' := by
    rintro rfl
    cases closes
  have d_not_angle : d ≠ '<' := by
    rintro rfl
    cases closes
  rw [Lead.ofChars_cons c_not_colon not_angle] at lead_eq
  have short_eq : shortChars ([c] ++ (cs ++ [d])) = shortChars (cs ++ [d]) :=
    shortChars_append (mt List.mem_singleton.mp (Ne.symm not_angle)) lead_eq
  rw [← List.singleton_append, short_eq, shortChars_concat cs d_not_colon d_not_angle]
  exact balanced.not_suffix_concat closes (shortChars_ends cs)

namespace TypeExpr

/-! ## What comes first in a name -/

mutual

/-- What the name of a type shows first. -/
def lead : TypeExpr → Lead
  | named (_ :: _) _ _ => .path
  | named [] _ (_ :: _) => .arguments
  | named [] _ [] => .neither
  | reference _ target => target.lead
  | tuple items => leadOfItems items
  | array item _ => item.lead
  | slice item => item.lead

/-- What the names of the items of a tuple show first. -/
def leadOfItems : List TypeExpr → Lead
  | [] => .neither
  | item :: rest => item.lead.before (leadOfItems rest)

end

mutual

theorem ofChars_chars_append : ∀ (t : TypeExpr) (rest : List Char),
    Lead.ofChars (t.chars ++ rest) = t.lead.before (Lead.ofChars rest)
  | named (word :: path) name arguments, rest => by
    simp [chars, lead, Lead.before]
  | named [] name (argument :: arguments), rest => by
    simp [chars, lead, charsOfArguments, argumentChars, Lead.before]
  | named [] name [], rest => by
    simp [chars, lead, charsOfArguments, argumentChars, Lead.before]
  | reference exclusive target, rest => by
    simp [chars, lead, ofChars_chars_append target]
  | tuple items, rest => by
    have comma_lead (cs : List Char) :
        Lead.ofChars ((if (charsOfItems items).length = 1 then [','] else []) ++ cs) =
          Lead.ofChars cs := by
      split <;> exact Lead.ofChars_append (by decide) (by decide) cs
    simp [chars, lead, tupleChars, ofChars_commaChars_append items, comma_lead]
  | array item length, rest => by
    simp [chars, lead, ofChars_chars_append item]
  | slice item, rest => by
    simp [chars, lead, ofChars_chars_append item]

theorem ofChars_commaChars_append : ∀ (items : List TypeExpr) (rest : List Char),
    Lead.ofChars (commaChars (charsOfItems items) ++ rest) =
      (leadOfItems items).before (Lead.ofChars rest)
  | [], rest => rfl
  | [item], rest => by
    rw [charsOfItems, charsOfItems, commaChars, List.intercalate_singleton, leadOfItems,
      leadOfItems, Lead.before_neither, ofChars_chars_append item]
  | item :: next :: items, rest => by
    have rest_eq := ofChars_commaChars_append (next :: items) rest
    rw [charsOfItems, commaChars] at rest_eq
    rw [charsOfItems, charsOfItems, commaChars, List.intercalate_cons_cons, leadOfItems,
      List.append_assoc, List.append_assoc, ofChars_chars_append item,
      Lead.ofChars_append (by decide) (by decide), rest_eq, Lead.before_assoc]

end

theorem ofChars_chars (t : TypeExpr) : Lead.ofChars t.chars = t.lead := by
  have append_eq := ofChars_chars_append t []
  rwa [List.append_nil, Lead.ofChars, Lead.before_neither] at append_eq

/-! ## Short names -/

/-- A named type loses its module path. -/
theorem shortChars_named (path : List Word) (name : Word) (arguments : List Argument) :
    shortChars (named path name arguments).chars = (named [] name arguments).chars := by
  have not_colon : ':' ∉ name.chars := name.not_mem rfl
  have not_angle : '<' ∉ pathChars path ++ name.chars := by
    rw [List.mem_append, not_or]
    exact ⟨not_mem_pathChars path rfl (by decide), name.not_mem rfl⟩
  rw [chars, chars, pathChars_nil, List.nil_append, ← List.append_assoc]
  cases arguments with
  | nil =>
    rw [charsOfArguments, argumentChars, List.append_nil, shortChars_of_absent not_angle,
      lastSegment_pathChars path not_colon, List.append_nil]
  | cons argument rest =>
    rw [charsOfArguments, argumentChars, shortChars_append_cons not_angle,
      lastSegment_pathChars path not_colon]
    exact nofun

/-- A reference to a type that shows a path first loses its sign. -/
theorem shortChars_reference (exclusive : Bool) {target : TypeExpr}
    (lead_eq : target.lead = .path) :
    shortChars (reference exclusive target).chars = shortChars target.chars := by
  have not_angle : '<' ∉ '&' :: exclusiveChars exclusive := by
    cases exclusive <;> decide
  rw [chars, ← List.cons_append, shortChars_append not_angle]
  rwa [ofChars_chars]

/-- A type that does not show a path first keeps its name. -/
theorem shortChars_of_lead {t : TypeExpr} (lead_ne : t.lead ≠ .path) :
    shortChars t.chars = t.chars :=
  shortChars_of_lead_ne (t.ofChars_chars ▸ lead_ne)

/-- If a path is shown first, references to a named type leave its own short name. -/
theorem exists_shortChars_eq : ∀ t : TypeExpr, t.lead = .path → t.referent.isNamed = true →
    ∃ path name arguments, t.referent = named path name arguments ∧
      shortChars t.chars = (named [] name arguments).chars
  | named path name arguments, _, _ =>
    ⟨path, name, arguments, rfl, shortChars_named path name arguments⟩
  | reference exclusive target, lead_eq, isNamed => by
    rw [lead] at lead_eq
    rw [shortChars_reference exclusive lead_eq]
    exact exists_shortChars_eq target lead_eq isNamed

/-- If a type written in brackets shows a path first, its short name is not balanced. -/
theorem not_isBalanced_of_enclosed {t : TypeExpr} (chars_eq : t.chars = c :: (cs ++ [d]))
    (opens : role c = .opens d) (closes : role d = .closes) (not_angle : c ≠ '<')
    (balanced : IsBalanced cs) (lead_eq : t.lead = .path) : ¬ IsBalanced (shortChars t.chars) := by
  rw [← ofChars_chars, chars_eq] at lead_eq
  rw [chars_eq]
  exact not_isBalanced_shortChars opens closes not_angle balanced lead_eq

/-- If a path is shown first, only references leave the short name balanced. -/
theorem isNamed_of_isBalanced : ∀ t : TypeExpr, t.lead = .path →
    IsBalanced (shortChars t.chars) → t.referent.isNamed = true
  | named .., _, _ => rfl
  | reference exclusive target, lead_eq, balanced => by
    rw [lead] at lead_eq
    rw [shortChars_reference exclusive lead_eq] at balanced
    exact isNamed_of_isBalanced target lead_eq balanced
  | tuple items, lead_eq, balanced => by
    have inner := isBalanced_tupleChars (isBalanced_charsOfItems items)
    exact absurd balanced (not_isBalanced_of_enclosed rfl rfl rfl (by decide) inner lead_eq)
  | array item length, lead_eq, balanced => by
    have inner := isBalanced_append_length item.isBalanced_chars length
    exact absurd balanced (not_isBalanced_of_enclosed rfl rfl rfl (by decide) inner lead_eq)
  | slice item, lead_eq, balanced => by
    have inner := item.isBalanced_chars
    exact absurd balanced (not_isBalanced_of_enclosed rfl rfl rfl (by decide) inner lead_eq)

theorem isBalanced_shortChars_iff (t : TypeExpr) :
    IsBalanced (shortChars t.chars) ↔ t.referent.isNamed = true ∨ t.lead ≠ .path := by
  by_cases lead_eq : t.lead = .path
  · rw [or_iff_left (not_not_intro lead_eq)]
    refine ⟨isNamed_of_isBalanced t lead_eq, fun isNamed ↦ ?_⟩
    obtain ⟨path, name, arguments, -, short_eq⟩ := exists_shortChars_eq t lead_eq isNamed
    rw [short_eq]
    exact isBalanced_chars _
  · rw [shortChars_of_lead lead_eq]
    exact iff_of_true t.isBalanced_chars (.inr lead_eq)

/-- A shortened reference is a reference. -/
theorem exists_chars_eq_of_shortens {exclusive : Bool} {target short : TypeExpr}
    (shortens : Shortens (reference exclusive target) short) :
    ∃ rest, short.chars = '&' :: rest := by
  cases shortens with
  | whole => exact ⟨_, chars.eq_2 exclusive target⟩
  | @reference _ _ short _ => exact ⟨_, chars.eq_2 exclusive short⟩

/-- If a path is shown first, a type that is not named has lost more than a path: either its
brackets do not match any more, or it begins with a word, and the sign of a reference is missing. -/
theorem isNamed_of_shortens {t short : TypeExpr} (lead_eq : t.lead = .path)
    (shortens : t.Shortens short) (chars_eq : shortChars t.chars = short.chars) :
    t.isNamed = true := by
  have balanced : IsBalanced (shortChars t.chars) := chars_eq ▸ short.isBalanced_chars
  have referent_named := isNamed_of_isBalanced t lead_eq balanced
  cases t with
  | named => rfl
  | reference exclusive target =>
    obtain ⟨path, name, arguments, -, named_eq⟩ :=
      exists_shortChars_eq _ lead_eq referent_named
    obtain ⟨rest, reference_eq⟩ := exists_chars_eq_of_shortens shortens
    obtain ⟨first, others, name_eq⟩ := List.exists_cons_of_ne_nil name.nonempty
    have first_mem : first ∈ name.chars := name_eq ▸ List.mem_cons_self
    have eq := (named_eq.symm.trans chars_eq).trans reference_eq
    rw [chars, pathChars_nil, List.nil_append, name_eq] at eq
    obtain ⟨rfl, -⟩ := List.cons.inj eq
    exact absurd first_mem (name.not_mem rfl)
  | tuple | array | slice => exact referent_named

theorem exists_shortens_iff (t : TypeExpr) :
    (∃ short, t.Shortens short ∧ shortChars t.chars = short.chars) ↔
      t.isNamed = true ∨ t.lead ≠ .path := by
  constructor
  · rintro ⟨short, shortens, chars_eq⟩
    by_cases lead_eq : t.lead = .path
    · exact .inl (isNamed_of_shortens lead_eq shortens chars_eq)
    · exact .inr lead_eq
  · rintro (isNamed | lead_ne)
    · cases t with
      | named path name arguments =>
        exact ⟨_, .named path name arguments, shortChars_named path name arguments⟩
      | reference | tuple | array | slice => cases isNamed
    · exact ⟨t, .whole t, shortChars_of_lead lead_ne⟩

end TypeExpr

/-- **Short names.**  The short name of a type has balanced brackets if and only if the type is a
named one, with or without references around it, or its full name shows no module path before the
first argument.  It is the full name with at most the module path of an outermost named type removed
if and only if the type is a named one itself or, again, no path comes before the first argument. -/
theorem shorten_fits_iff (t : TypeExpr) :
    (IsBalanced (shorten t.fullName).toList ↔ t.referent.isNamed = true ∨ t.lead ≠ .path) ∧
    ((∃ short, t.Shortens short ∧ shorten t.fullName = short.fullName) ↔
      t.isNamed = true ∨ t.lead ≠ .path) := by
  rw [TypeExpr.fullName, shorten_ofList, String.toList_ofList]
  simp only [TypeExpr.fullName, String.ofList_inj]
  exact ⟨t.isBalanced_shortChars_iff, t.exists_shortens_iff⟩

/-- A tuple loses everything up to the end of its last path, and a reference its sign. -/
example : shorten "(u8, trail::Event)" = "Event)" ∧ ¬ IsBalanced "Event)".toList ∧
    shorten "&trail::Event" = "Event" := by
  decide +kernel

end AuditTrail.TypeName
