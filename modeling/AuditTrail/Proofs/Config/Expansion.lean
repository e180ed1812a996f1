import AuditTrail.Proofs.Config.PlaceholderText

/-!
# Expansion in one pass

The placeholders of a text are found before any of them is replaced, as if values were never
searched for placeholders.  But a placeholder is replaced wherever its text has come to stand by
then: in the values of earlier placeholders, and where a value and what surrounds it make up its
text.

What a text is expanded to is therefore compared with one pass over its parts, in which every
placeholder gets its own value.  The two are the same where no dollar sign gets before a brace
except to open a placeholder of the text.  Without this they need not be: as soon as there are two
placeholders, there are variables for which the expanded text is too long.  For this it is enough
that all variables have the doubled text for their value, since each placeholder after the first one
is then replaced at least twice.
-/

namespace AuditTrail

/-! ## One pass -/

namespace Placeholder

/-- What replaces a placeholder. -/
def replacement (environment : Environment) (placeholder : Placeholder) : List Char :=
  ((placeholder.value? environment).getD "").toList

end Placeholder

namespace TextPart

/-- A part with its own value in its place. -/
def valued (environment : Environment) : TextPart → List Char
  | char c => [c]
  | placeholder found => found.replacement environment

/-- A part when only some placeholders are replaced. -/
def filled (environment : Environment) (done : List Placeholder) : TextPart → List Char
  | char c => [c]
  | placeholder found => if found ∈ done then found.replacement environment else found.text

variable {environment : Environment} {done : List Placeholder} {parts : List TextPart}

/-- The parts of a text make up the text. -/
theorem flatMap_filled_nil (cs : List Char) :
    (ofChars cs).flatMap (filled environment []) = cs := by
  fun_induction ofChars cs with
  | case1 => rfl
  | case2 c rest found at_eq ih =>
    obtain ⟨after, cs_eq⟩ := Placeholder.prefix_of_at? at_eq
    rw [List.flatMap_cons, ih, ← cs_eq, List.drop_left]
    rfl
  | case3 c rest _ ih =>
    rw [List.flatMap_cons, ih]
    rfl

/-- When all placeholders are replaced, each part has its value in its place. -/
theorem flatMap_filled_of_done (all_done : ∀ found, .placeholder found ∈ parts → found ∈ done) :
    parts.flatMap (filled environment done) = parts.flatMap (valued environment) := by
  refine List.flatMap_congr fun part part_mem ↦ ?_
  cases part with
  | char c => rfl
  | placeholder found => exact if_pos (all_done found part_mem)

end TextPart

namespace Placeholder

/-- A text with each of its placeholders replaced by its own value, in one pass. -/
def substituted (environment : Environment) (s : String) : String :=
  String.ofList ((TextPart.ofChars s.toList).flatMap (TextPart.valued environment))

variable {environment : Environment} {s expanded : String} {placeholders : List Placeholder}

/-- The characters of a text with one placeholder replaced wherever its text occurs. -/
def replaceIn (environment : Environment) (cs : List Char) (placeholder : Placeholder) :
    List Char :=
  Text.replaceChars placeholder.text (placeholder.replacement environment) cs

/-- No dollar sign stands before a brace, and none at the end. -/
inductive OpensNone : List Char → Prop
  | nil : OpensNone []
  | char {c rest} : c ≠ '$' → OpensNone rest → OpensNone (c :: rest)
  | dollar {c rest} : c ≠ '\x7b' → OpensNone (c :: rest) → OpensNone ('$' :: c :: rest)

theorem exists_text_eq (placeholder : Placeholder) :
    ∃ body, placeholder.text = '$' :: '\x7b' :: body := ⟨_, rfl⟩

section ReplaceIn

variable {placeholder : Placeholder} {c : Char} {cs rest passed : List Char}

theorem replaceIn_text : replaceIn environment (placeholder.text ++ rest) placeholder =
    placeholder.replacement environment ++ replaceIn environment rest placeholder :=
  Text.replaceChars_pattern placeholder.text_ne

theorem replaceIn_cons (not_found : ¬ placeholder.text <+: c :: rest) :
    replaceIn environment (c :: rest) placeholder = c :: replaceIn environment rest placeholder :=
  Text.replaceChars_cons not_found

theorem not_prefix_of_ne_dollar (ne : c ≠ '$') : ¬ placeholder.text <+: c :: rest := by
  obtain ⟨body, text_eq⟩ := placeholder.exists_text_eq
  rw [text_eq]
  intro text_begins
  exact ne (List.cons_prefix_cons.mp text_begins).1.symm

theorem not_prefix_of_ne_brace (ne : c ≠ '\x7b') : ¬ placeholder.text <+: '$' :: c :: rest := by
  obtain ⟨body, text_eq⟩ := placeholder.exists_text_eq
  rw [text_eq]
  intro text_begins
  exact ne (List.cons_prefix_cons.mp (List.cons_prefix_cons.mp text_begins).2).1.symm

/-- Where no placeholder opens none is replaced. -/
theorem OpensNone.replaceIn_append (opens_none : OpensNone passed) :
    replaceIn environment (passed ++ rest) placeholder =
      passed ++ replaceIn environment rest placeholder := by
  induction opens_none with
  | nil => rfl
  | char ne _ ih =>
    exact (replaceIn_cons (not_prefix_of_ne_dollar ne)).trans (congrArg _ ih)
  | dollar ne _ ih =>
    exact (replaceIn_cons (not_prefix_of_ne_brace ne)).trans (congrArg _ ih)

/-- The text of another placeholder is passed by if no other one opens in it. -/
theorem WellFormed.replaceIn_text_append (foundFormed : found.WellFormed)
    (otherFormed : other.WellFormed) (ne : found ≠ other) (clear : OpensNone found.text.tail) :
    replaceIn environment (found.text ++ rest) other =
      found.text ++ replaceIn environment rest other := by
  have not_found : ¬ other.text <+: found.text ++ rest := by
    intro other_begins
    have found_begins := List.prefix_append found.text rest
    exact ne (foundFormed.eq_of_begins otherFormed found_begins other_begins)
  obtain ⟨body, found_eq⟩ := found.exists_text_eq
  rw [found_eq] at not_found clear ⊢
  exact (replaceIn_cons not_found).trans (congrArg ('$' :: ·) clear.replaceIn_append)

end ReplaceIn

/-- Placeholders are replaced one after the other if all have values. -/
theorem replaceEach_eq_ok_iff : replaceEach environment placeholders s = .ok expanded ↔
    (∀ placeholder ∈ placeholders, ∃ value, placeholder.value? environment = some value) ∧
      expanded = String.ofList (placeholders.foldl (replaceIn environment) s.toList) := by
  induction placeholders generalizing s with
  | nil =>
    rw [replaceEach_nil, Except.ok.injEq, eq_comm]
    simp
  | cons placeholder rest ih =>
    rw [List.forall_mem_cons, List.foldl_cons, replaceEach]
    cases value_eq : placeholder.value? environment with
    | none => simp
    | some value =>
      have replace_eq : (Text.replaceAll s (String.ofList placeholder.text) value).toList =
          replaceIn environment s.toList placeholder := by
        simp [Text.replaceAll, replaceIn, replacement, value_eq]
      simp [ih, replace_eq]

theorem expand_eq_ok_iff : expand environment s = .ok expanded ↔
    (∀ placeholder ∈ all s, ∃ value, placeholder.value? environment = some value) ∧
      expanded = String.ofList ((all s).foldl (replaceIn environment) s.toList) :=
  replaceEach_eq_ok_iff

end Placeholder

/-! ## Texts that are not disturbed -/

namespace TextPart

/-- No dollar sign gets before a brace unless it opens a placeholder of the text: nothing opens in
the values, nor in the placeholders behind their first character, and behind the other dollar signs
there is a character that is no brace, or nothing. -/
inductive Clear (environment : Environment) : List TextPart → Prop
  | nil : Clear environment []
  | char {c rest} : c ≠ '$' → Clear environment rest → Clear environment (.char c :: rest)
  | lastDollar : Clear environment [.char '$']
  | dollar {c rest} : c ≠ '\x7b' → Clear environment (.char c :: rest) →
      Clear environment (.char '$' :: .char c :: rest)
  | placeholder {found rest} : Placeholder.OpensNone found.text.tail →
      Placeholder.OpensNone (found.replacement environment) → Clear environment rest →
      Clear environment (.placeholder found :: rest)

variable {environment : Environment} {done : List Placeholder} {parts : List TextPart}
  {next : Placeholder}

/-- In a clear text the next placeholder is replaced where it stands, and nowhere else. -/
theorem Clear.replaceIn_flatMap_filled (clear : Clear environment parts)
    (wellFormed : ∀ found, .placeholder found ∈ parts → found.WellFormed)
    (nextFormed : next.WellFormed) :
    next.replaceIn environment (parts.flatMap (filled environment done)) =
      parts.flatMap (filled environment (next :: done)) := by
  -- a character is passed by if the placeholder does not stand here
  have passed {c : Char} {rest : List TextPart}
      (not_found : ¬ next.text <+: c :: rest.flatMap (filled environment done))
      (rest_eq : next.replaceIn environment (rest.flatMap (filled environment done)) =
        rest.flatMap (filled environment (next :: done))) :
      next.replaceIn environment ((.char c :: rest).flatMap (filled environment done)) =
        (.char c :: rest).flatMap (filled environment (next :: done)) :=
    (Placeholder.replaceIn_cons not_found).trans (congrArg (c :: ·) rest_eq)
  induction clear with
  | nil => exact Text.replaceChars_nil _ _
  | char ne clear ih =>
    exact passed (Placeholder.not_prefix_of_ne_dollar ne)
      (ih fun found mem ↦ wellFormed found (List.mem_cons_of_mem _ mem))
  | lastDollar =>
    refine passed (fun next_begins ↦ ?_) (Text.replaceChars_nil _ _)
    obtain ⟨body, next_eq⟩ := next.exists_text_eq
    rw [next_eq] at next_begins
    cases List.prefix_nil.mp (List.cons_prefix_cons.mp next_begins).2
  | dollar ne clear ih =>
    exact passed (Placeholder.not_prefix_of_ne_brace ne)
      (ih fun found mem ↦ wellFormed found (List.mem_cons_of_mem _ mem))
  | @placeholder found rest text_clear value_clear clear ih =>
    have rest_eq := ih fun found mem ↦ wellFormed found (List.mem_cons_of_mem _ mem)
    have foundFormed := wellFormed found List.mem_cons_self
    rw [List.flatMap_cons, List.flatMap_cons, ← rest_eq, filled, filled]
    by_cases before : found ∈ done
    · rw [if_pos before, if_pos (List.mem_cons_of_mem next before),
        value_clear.replaceIn_append]
    rw [if_neg before]
    by_cases same : found = next
    · rw [if_pos (same ▸ List.mem_cons_self), same, Placeholder.replaceIn_text]
    · rw [if_neg fun mem ↦ (List.mem_cons.mp mem).elim same before]
      exact foundFormed.replaceIn_text_append nextFormed same text_clear

/-- In a clear text placeholders are replaced where they stand, one after the other. -/
theorem Clear.foldl_replaceIn {placeholders : List Placeholder} (clear : Clear environment parts)
    (wellFormed : ∀ found, .placeholder found ∈ parts → found.WellFormed)
    (eachFormed : ∀ found ∈ placeholders, found.WellFormed) :
    placeholders.foldl (Placeholder.replaceIn environment)
        (parts.flatMap (filled environment done)) =
      parts.flatMap (filled environment (placeholders.reverse ++ done)) := by
  induction placeholders generalizing done with
  | nil => rfl
  | cons next rest ih =>
    obtain ⟨nextFormed, restFormed⟩ := List.forall_mem_cons.mp eachFormed
    rw [List.foldl_cons, clear.replaceIn_flatMap_filled wellFormed nextFormed, ih restFormed,
      List.reverse_cons, List.append_assoc, List.singleton_append]

/-- Where a text has no placeholder but one, this is replaced where it stands. -/
theorem replaceIn_ofChars {cs : List Char} (nextFormed : next.WellFormed)
    (only : ∀ found, .placeholder found ∈ ofChars cs → found = next) :
    next.replaceIn environment cs = (ofChars cs).flatMap (valued environment) := by
  fun_induction ofChars cs with
  | case1 => exact Text.replaceChars_nil _ _
  | case2 c rest found at_eq ih =>
    obtain rfl := only found List.mem_cons_self
    obtain ⟨after, cs_eq⟩ := Placeholder.prefix_of_at? at_eq
    rw [← cs_eq, List.drop_left] at ih only ⊢
    rw [Placeholder.replaceIn_text, List.flatMap_cons,
      ih fun other mem ↦ only other (List.mem_cons_of_mem _ mem), valued]
  | case3 c rest at_eq ih =>
    have not_found : ¬ next.text <+: c :: rest := by
      intro next_begins
      cases at_eq.symm.trans (Placeholder.at?_eq_some_iff.mpr ⟨nextFormed, next_begins⟩)
    rw [Placeholder.replaceIn_cons not_found, List.flatMap_cons,
      ih fun other mem ↦ only other (List.mem_cons_of_mem _ mem)]
    rfl

end TextPart

namespace Placeholder

variable {environment : Environment} {s expanded : String}

/-- A clear text is expanded in one pass. -/
theorem expand_of_clear (clear : TextPart.Clear environment (TextPart.ofChars s.toList))
    (expand_eq : expand environment s = .ok expanded) : expanded = substituted environment s := by
  have wellFormed (found : Placeholder)
      (mem : .placeholder found ∈ TextPart.ofChars s.toList) : found.WellFormed :=
    wellFormed_of_mem_ofChars mem
  have eachFormed (found : Placeholder) (mem : found ∈ all s) : found.WellFormed :=
    wellFormed found (mem_all_iff.mp mem)
  have fold_eq : (all s).foldl (replaceIn environment) s.toList =
      (TextPart.ofChars s.toList).flatMap
        (TextPart.filled environment ((all s).reverse ++ [])) := by
    rw [← clear.foldl_replaceIn wellFormed eachFormed, TextPart.flatMap_filled_nil]
  rw [(expand_eq_ok_iff.mp expand_eq).2, fold_eq, substituted,
    TextPart.flatMap_filled_of_done fun found mem ↦ ?_]
  rw [List.append_nil, List.mem_reverse]
  exact mem_all_iff.mpr mem

/-- A text with at most one placeholder is expanded in one pass. -/
theorem expand_of_length_le_one (length_le : (all s).length ≤ 1)
    (expand_eq : expand environment s = .ok expanded) : expanded = substituted environment s := by
  rw [(expand_eq_ok_iff.mp expand_eq).2, substituted]
  match all_eq : all s with
  | [] =>
    have none_found (found : Placeholder)
        (mem : .placeholder found ∈ TextPart.ofChars s.toList) : found ∈ [] :=
      all_eq ▸ mem_all_iff.mpr mem
    rw [List.foldl_nil, ← TextPart.flatMap_filled_of_done none_found, TextPart.flatMap_filled_nil]
  | [only] =>
    have onlyFormed : only.WellFormed := by
      have mem : only ∈ all s := all_eq ▸ List.mem_cons_self
      exact wellFormed_of_mem_ofChars (mem_all_iff.mp mem)
    refine congrArg String.ofList (TextPart.replaceIn_ofChars onlyFormed fun found mem ↦ ?_)
    have mem_all : found ∈ all s := mem_all_iff.mpr mem
    rw [all_eq] at mem_all
    exact List.mem_singleton.mp mem_all
  | _ :: _ :: _ =>
    rw [all_eq] at length_le
    cases Nat.le_of_succ_le_succ length_le

end Placeholder

/-! ## Texts that are disturbed -/

namespace Placeholder

/-- The variables that give one value to some placeholders. -/
def uniform (value : String) : List Placeholder → Environment
  | [] => []
  | placeholder :: rest => (uniform value rest).insert (String.ofList placeholder.name) value

/-- A text, and once more behind a brace. -/
def doubled (s : String) : List Char :=
  s.toList ++ '\x7d' :: s.toList

variable {environment : Environment} {s : String} {value : String} {placeholder : Placeholder}
  {placeholders : List Placeholder}

theorem value?_uniform (mem : placeholder ∈ placeholders) :
    placeholder.value? (uniform value placeholders) = some value := by
  have get?_eq : (uniform value placeholders).get? (String.ofList placeholder.name) =
      some value := by
    induction placeholders with
    | nil => cases mem
    | cons first rest ih =>
      rw [uniform, Entries.get?_insert]
      split
      · rfl
      next ne =>
        refine ih ((List.mem_cons.mp mem).resolve_left ?_)
        rintro rfl
        exact ne rfl
  rw [value?, get?_eq]
  rfl

/-- A doubled text is longer than any placeholder of the text. -/
theorem length_text_lt_doubled (occurs : placeholder.text <:+: s.toList) :
    placeholder.text.length < (doubled s).length := by
  have text_le := occurs.length_le
  rw [doubled, List.length_append, List.length_cons]
  omega

section Step

variable {cs : List Char} (replacement_eq : placeholder.replacement environment = doubled s)

include replacement_eq

theorem doubled_infix_replaceIn (occurs_in : placeholder.text <:+: cs) :
    doubled s <:+: replaceIn environment cs placeholder := by
  rw [replaceIn, ← replacement_eq]
  exact Text.replacement_occurs placeholder.text_ne occurs_in

variable (occurs : placeholder.text <:+: s.toList)

include occurs

/-- A placeholder of the text is replaced at least once where it occurs. -/
theorem length_add_le_length_replaceIn (occurs_in : placeholder.text <:+: cs) :
    cs.length + (doubled s).length ≤
      (replaceIn environment cs placeholder).length + placeholder.text.length := by
  rw [replaceIn, replacement_eq]
  exact Text.length_add_le_length_replaceChars placeholder.text_ne
    (length_text_lt_doubled occurs).le occurs_in

variable (wellFormed : placeholder.WellFormed) (doubled_occurs : doubled s <:+: cs)

include wellFormed doubled_occurs

/-- In a text in which the doubled text stands, a placeholder of the text is replaced twice, and the
doubled text stands in the result. -/
theorem replaceIn_of_doubled :
    cs.length + (doubled s).length <
        (replaceIn environment cs placeholder).length + placeholder.text.length ∧
      doubled s <:+: replaceIn environment cs placeholder := by
  obtain ⟨before, after, cs_eq⟩ := doubled_occurs
  have cs_eq : cs = (before ++ s.toList) ++ '\x7d' :: (s.toList ++ after) := by
    rw [← cs_eq, doubled]
    simp
  have parts_eq : replaceIn environment cs placeholder =
      replaceIn environment (before ++ s.toList ++ ['\x7d']) placeholder ++
        replaceIn environment (s.toList ++ after) placeholder := by
    rw [cs_eq]
    exact Text.replaceChars_append_of_closing placeholder.text_ne wellFormed.closing
  have left_occurs : placeholder.text <:+: before ++ s.toList ++ ['\x7d'] :=
    occurs.trans ⟨before, ['\x7d'], rfl⟩
  have right_occurs : placeholder.text <:+: s.toList ++ after :=
    occurs.trans (List.prefix_append s.toList after).isInfix
  constructor
  · have left_le := length_add_le_length_replaceIn replacement_eq occurs left_occurs
    have right_le := length_add_le_length_replaceIn replacement_eq occurs right_occurs
    have text_lt := length_text_lt_doubled occurs
    rw [parts_eq, cs_eq]
    simp only [List.length_append, List.length_cons, List.length_nil] at left_le right_le ⊢
    omega
  · rw [parts_eq]
    exact (doubled_infix_replaceIn replacement_eq right_occurs).trans
      (List.suffix_append _ _).isInfix

end Step

/-- Of all placeholders after the first one, each makes the text longer than one pass would. -/
theorem length_foldl_replaceIn {cs : List Char}
    (eachFormed : ∀ found ∈ placeholders, found.WellFormed)
    (each_occurs : ∀ found ∈ placeholders, found.text <:+: s.toList)
    (replacement_eq : ∀ found ∈ placeholders, found.replacement environment = doubled s)
    (doubled_occurs : doubled s <:+: cs) :
    cs.length + placeholders.length * (doubled s).length + placeholders.length ≤
      (placeholders.foldl (replaceIn environment) cs).length +
        (placeholders.flatMap text).length := by
  induction placeholders generalizing cs with
  | nil => simp
  | cons next rest ih =>
    obtain ⟨nextFormed, restFormed⟩ := List.forall_mem_cons.mp eachFormed
    obtain ⟨next_occurs, rest_occurs⟩ := List.forall_mem_cons.mp each_occurs
    obtain ⟨next_eq, rest_eq⟩ := List.forall_mem_cons.mp replacement_eq
    obtain ⟨next_lt, next_doubled⟩ :=
      replaceIn_of_doubled next_eq next_occurs nextFormed doubled_occurs
    have rest_le := ih restFormed rest_occurs rest_eq next_doubled
    rw [List.foldl_cons, List.flatMap_cons, List.length_append, List.length_cons, Nat.succ_mul]
    omega

end Placeholder

namespace TextPart

/-- The length of a text in which all placeholders are replaced by values of one length. -/
theorem length_flatMap_valued {environment : Environment} {parts : List TextPart} {n : Nat}
    (each_length : ∀ found, .placeholder found ∈ parts →
      (found.replacement environment).length = n) :
    (parts.flatMap (valued environment)).length +
        ((parts.filterMap placeholder?).flatMap Placeholder.text).length =
      (parts.flatMap (filled environment [])).length +
        (parts.filterMap placeholder?).length * n := by
  induction parts with
  | nil => simp
  | cons part rest ih =>
    have rest_eq := ih fun found mem ↦ each_length found (List.mem_cons_of_mem _ mem)
    rw [List.flatMap_cons, List.flatMap_cons, List.length_append, List.length_append]
    cases part with
    | char c =>
      rw [List.filterMap_cons_none rfl, valued, filled]
      omega
    | placeholder found =>
      have found_length := each_length found List.mem_cons_self
      have cons_eq : (TextPart.placeholder found :: rest).filterMap placeholder? =
          found :: rest.filterMap placeholder? := rfl
      rw [cons_eq, valued, filled, if_neg List.not_mem_nil, List.flatMap_cons, List.length_append,
        List.length_cons, Nat.succ_mul]
      omega

end TextPart

namespace Placeholder

section Several

variable {s : String} {environment : Environment}
  (replacement_eq : ∀ found ∈ all s, found.replacement environment = doubled s)

include replacement_eq

theorem length_substituted :
    (substituted environment s).toList.length + ((all s).flatMap text).length =
      s.toList.length + (all s).length * (doubled s).length := by
  have length_eq : ((TextPart.ofChars s.toList).flatMap (TextPart.valued environment)).length +
        ((all s).flatMap text).length =
      ((TextPart.ofChars s.toList).flatMap (TextPart.filled environment [])).length +
        (all s).length * (doubled s).length := by
    refine TextPart.length_flatMap_valued fun found mem ↦ ?_
    rw [replacement_eq found (mem_all_iff.mpr mem)]
  rw [TextPart.flatMap_filled_nil] at length_eq
  rw [substituted, String.toList_ofList, length_eq]

/-- What several placeholders make of a text is too long. -/
theorem length_substituted_lt (several : 1 < (all s).length) :
    (substituted environment s).toList.length <
      ((all s).foldl (replaceIn environment) s.toList).length := by
  have length_eq := length_substituted replacement_eq
  have formed (found : Placeholder) (mem : found ∈ all s) : found.WellFormed :=
    wellFormed_of_mem_ofChars (mem_all_iff.mp mem)
  have occurs (found : Placeholder) (mem : found ∈ all s) : found.text <:+: s.toList :=
    infix_of_mem_all mem
  cases all_eq : all s with
  | nil => simp [all_eq] at several
  | cons first rest =>
    rw [all_eq] at formed occurs replacement_eq several length_eq
    obtain ⟨-, restFormed⟩ := List.forall_mem_cons.mp formed
    obtain ⟨first_occurs, rest_occurs⟩ := List.forall_mem_cons.mp occurs
    obtain ⟨first_eq, rest_eq⟩ := List.forall_mem_cons.mp replacement_eq
    have first_le := length_add_le_length_replaceIn first_eq first_occurs first_occurs
    have rest_le := length_foldl_replaceIn restFormed rest_occurs rest_eq
      (doubled_infix_replaceIn first_eq first_occurs)
    rw [List.flatMap_cons, List.length_append, List.length_cons, Nat.succ_mul] at length_eq
    rw [List.foldl_cons]
    rw [List.length_cons] at several
    omega

end Several

variable {s : String}

/-- If the values of several placeholders are the doubled text, one pass would make another text. -/
theorem exists_expand_ne_substituted (several : 1 < (all s).length) :
    ∃ environment expanded, expand environment s = .ok expanded ∧
      expanded ≠ substituted environment s := by
  have value_eq (found : Placeholder) (mem : found ∈ all s) :
      found.value? (uniform (String.ofList (doubled s)) (all s)) =
        some (String.ofList (doubled s)) :=
    value?_uniform mem
  have length_lt := length_substituted_lt (fun found mem ↦ by
    rw [replacement, value_eq found mem, Option.getD_some, String.toList_ofList]) several
  refine ⟨_, _, expand_eq_ok_iff.mpr ⟨fun found mem ↦ ⟨_, value_eq found mem⟩, rfl⟩, fun same ↦ ?_⟩
  rw [← same, String.toList_ofList] at length_lt
  exact Nat.lt_irrefl _ length_lt

/-- **Expansion in one pass.**  A text is expanded if and only if each of its placeholders has a
value.  What it is expanded to is the text with each placeholder replaced by its own value in one
pass, provided that the text and these values are clear.  In general the values are searched for the
placeholders of the text that come later, so that a text is expanded in one pass whatever the
variables are if and only if it has at most one placeholder. -/
theorem expand_inOnePass (s : String) :
    (∀ environment, (∃ expanded, expand environment s = .ok expanded) ↔
      ∀ found ∈ all s, ∃ value, found.value? environment = some value) ∧
    (∀ environment expanded, TextPart.Clear environment (TextPart.ofChars s.toList) →
      expand environment s = .ok expanded → expanded = substituted environment s) ∧
    ((∀ environment expanded, expand environment s = .ok expanded →
      expanded = substituted environment s) ↔ (all s).length ≤ 1) := by
  refine ⟨fun environment ↦ ?_, fun environment expanded ↦ expand_of_clear, ?_, ?_⟩
  · simp only [expand_eq_ok_iff, exists_and_left, exists_eq, and_true]
  · intro onePass
    by_contra several
    obtain ⟨environment, expanded, expand_eq, ne⟩ :=
      exists_expand_ne_substituted (Nat.lt_of_not_le several)
    exact ne (onePass environment expanded expand_eq)
  · intro length_le environment expanded
    exact expand_of_length_le_one length_le

/-- The value of the first variable is taken for the second placeholder. -/
example :
    expand [("A", "$\x7bB\x7d"), ("B", "x")] "$\x7bA\x7d $\x7bB\x7d" = .ok "x x" ∧
      substituted [("A", "$\x7bB\x7d"), ("B", "x")] "$\x7bA\x7d $\x7bB\x7d" = "$\x7bB\x7d x" := by
  decide +kernel

end Placeholder

end AuditTrail
