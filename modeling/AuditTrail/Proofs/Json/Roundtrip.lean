import Mathlib.Data.List.DropRight
import AuditTrail.Proofs.Json.Number

/-!
# Documents read back

The compact text of a document is read back as the document, with its members in their order and
with those that share a name.  A document must be of the kind that has a text of its own: an integer
beyond 64 bits would be read as a float, and a float that is no number is written as null.

The reader is given fuel by the length of the text.  A value takes at most two calls for each of its
characters, one for itself and one for its place in a list.
-/

namespace AuditTrail.Json

/-! ## Strings -/

section Strings

variable {fuel : Nat} {cs rest : List Char}

/-- A control is read back from its code. -/
theorem escape?_control {c : Char} (control : c.toNat < 0x20) (cs : List Char) :
    escape? ('u' :: '0' :: '0' :: Nat.digitChar (c.toNat / 16) :: Nat.digitChar (c.toNat % 16) ::
      cs) = some (c, cs) := by
  have code_eq : ∀ n < 0x20, Numeral.read? 16
      ['0', '0', Nat.digitChar (n / 16), Nat.digitChar (n % 16)] = some n := by decide
  rw [escape?, unicodeEscape?, hex4?, code_eq _ control]
  simp only [Option.map_some, Option.bind_eq_bind, Option.bind_some]
  rw [if_neg (by omega), if_neg (by omega), Char.ofNat_toNat]

theorem stringBody?_escape {c : Char} (escape_eq : escape? cs = some (c, rest)) :
    stringBody? (fuel + 1) ('\\' :: cs) =
      (stringBody? fuel rest).map fun (body, rest) ↦ (c :: body, rest) := by
  rw [stringBody?, escape_eq]
  exact Option.map_eq_bind.symm

theorem stringBody?_plain {c : Char} (quote : c ≠ '"') (backslash : c ≠ '\\')
    (no_control : ¬ c.toNat < 0x20) :
    stringBody? (fuel + 1) (c :: cs) =
      (stringBody? fuel cs).map fun (body, rest) ↦ (c :: body, rest) := by
  rw [stringBody?.eq_def]
  split
  next fuel_eq => cases fuel_eq
  next cs_eq => cases cs_eq
  next cs_eq => exact absurd (List.cons.inj cs_eq).1 quote
  next cs_eq => exact absurd (List.cons.inj cs_eq).1 backslash
  next fuel_eq cs_eq =>
    cases fuel_eq
    cases cs_eq
    rw [if_neg no_control]

/-- A character is read back, whether it is escaped or not. -/
theorem stringBody?_escapeChar (c : Char) (fuel : Nat) (cs : List Char) :
    stringBody? (fuel + 1) (escapeChar c ++ cs) =
      (stringBody? fuel cs).map fun (body, rest) ↦ (c :: body, rest) := by
  rw [escapeChar.eq_def]
  split
  case h_8 quote backslash _ _ _ _ _ =>
    split_ifs with control
    · exact stringBody?_escape (escape?_control control cs)
    · exact stringBody?_plain quote backslash control
  all_goals exact stringBody?_escape rfl

/-- The characters of a string are read back up to the closing quotation mark. -/
theorem stringBody?_flatMap (body : List Char) (lt : body.length < fuel) (rest : List Char) :
    stringBody? fuel (body.flatMap escapeChar ++ '"' :: rest) = some (body, rest) := by
  induction body generalizing fuel with
  | nil =>
    obtain ⟨fuel, rfl⟩ := Nat.exists_eq_succ_of_ne_zero (Nat.ne_of_gt lt)
    rfl
  | cons c body ih =>
    obtain ⟨fuel, rfl⟩ := Nat.exists_eq_succ_of_ne_zero (Nat.ne_of_gt (Nat.zero_lt_of_lt lt))
    rw [List.flatMap_cons, List.append_assoc, stringBody?_escapeChar,
      ih (Nat.lt_of_succ_lt_succ lt)]
    rfl

theorem escapeChar_ne_nil (c : Char) : escapeChar c ≠ [] := by
  rw [escapeChar.eq_def]
  split
  case h_8 => split_ifs <;> exact List.cons_ne_nil _ _
  all_goals exact List.cons_ne_nil _ _

theorem length_le_flatMap (body : List Char) :
    body.length ≤ (body.flatMap escapeChar).length := by
  rw [List.length_flatMap, ← List.length_map fun c ↦ (escapeChar c).length]
  refine List.length_le_sum_of_one_le _ fun n n_mem ↦ ?_
  obtain ⟨c, -, rfl⟩ := List.mem_map.mp n_mem
  exact List.length_pos_of_ne_nil (escapeChar_ne_nil c)

/-- The fuel that a text gives is enough for a string at its start. -/
theorem stringBody?_succ_length (body rest : List Char) :
    stringBody? (body.flatMap escapeChar ++ '"' :: rest).length.succ
      (body.flatMap escapeChar ++ '"' :: rest) = some (body, rest) := by
  refine stringBody?_flatMap body ?_ rest
  have le := length_le_flatMap body
  rw [List.length_append]
  omega

theorem stringChars_append (s : String) (rest : List Char) :
    stringChars s ++ rest = '"' :: (s.toList.flatMap escapeChar ++ '"' :: rest) := by
  rw [stringChars, List.append_assoc]
  rfl

end Strings

/-! ## Single values -/

section Values

variable {fuel : Nat} {cs after rest : List Char}

theorem skipSpace_skipSpace (cs : List Char) : skipSpace (skipSpace cs) = skipSpace cs :=
  List.dropWhile_idempotent isSpace cs

/-- What is read as a number is read as a value. -/
theorem value?_number {outcome : Json × List Char} (number_eq : number? cs = some outcome) :
    value? (fuel + 1) cs = some outcome := by
  -- No number begins with a space, nor with what begins any other value.
  have skip_eq : skipSpace cs = cs := by
    cases cs with
    | nil => rfl
    | cons c cs =>
      refine List.dropWhile_cons_of_neg fun space ↦ ?_
      simp only [isSpace, Bool.or_eq_true, decide_eq_true_eq] at space
      obtain ((rfl | rfl) | rfl) | rfl := space <;> cases number_eq
  rw [value?, skip_eq]
  split
  case h_7 => exact number_eq
  all_goals cases number_eq

theorem value?_stringChars (s : String) (rest : List Char) :
    value? (fuel + 1) (stringChars s ++ rest) = some (str s, rest) := by
  rw [stringChars_append]
  change (stringBody? _ _).map _ = _
  rw [stringBody?_succ_length]
  exact congrArg (fun s ↦ some (str s, rest)) String.ofList_toList

/-! ## Lists of values -/

theorem value?_skipSpace (cs : List Char) : value? fuel (skipSpace cs) = value? fuel cs := by
  cases fuel with
  | zero => rfl
  | succ fuel => rw [value?, value?, skipSpace_skipSpace]

theorem items?_skipSpace (cs : List Char) : items? fuel (skipSpace cs) = items? fuel cs := by
  cases fuel with
  | zero => rfl
  | succ fuel => rw [items?, items?, value?_skipSpace]

theorem members?_skipSpace (cs : List Char) : members? fuel (skipSpace cs) = members? fuel cs := by
  cases fuel with
  | zero => rfl
  | succ fuel => rw [members?, members?, skipSpace_skipSpace]

/-- The items of an array that has one at least. -/
theorem value?_items {items : List Json} (items_eq : items? fuel cs = some (items, rest)) :
    value? (fuel + 1) ('[' :: cs) = some (arr items, rest) := by
  have bracket_eq : skipSpace ('[' :: cs) = '[' :: cs := rfl
  rw [← items?_skipSpace] at items_eq
  rw [value?, bracket_eq]
  split
  case h_5 cs_eq =>
    cases cs_eq
    split
    next after skip_eq =>
      rw [skip_eq] at items_eq
      cases fuel with
      | zero => cases items_eq
      | succ fuel => cases fuel <;> cases items_eq
    next => rw [items_eq, Option.map_some]
  case h_7 no_bracket _ => exact absurd rfl (no_bracket cs)
  all_goals next cs_eq => cases cs_eq

theorem value?_members {members : List (String × Json)}
    (members_eq : members? fuel cs = some (members, rest)) :
    value? (fuel + 1) ('\x7b' :: cs) = some (obj members, rest) := by
  have brace_eq : skipSpace ('\x7b' :: cs) = '\x7b' :: cs := rfl
  rw [← members?_skipSpace] at members_eq
  rw [value?, brace_eq]
  split
  case h_6 cs_eq =>
    cases cs_eq
    split
    next after skip_eq =>
      rw [skip_eq] at members_eq
      cases fuel <;> cases members_eq
    next => rw [members_eq, Option.map_some]
  case h_7 no_brace => exact absurd rfl (no_brace cs)
  all_goals next cs_eq => cases cs_eq

theorem items?_last {item : Json} (value_eq : value? fuel cs = some (item, ']' :: rest)) :
    items? (fuel + 1) cs = some ([item], rest) := by
  rw [items?, value_eq]
  rfl

theorem items?_cons {item : Json} {items : List Json}
    (value_eq : value? fuel cs = some (item, ',' :: after))
    (items_eq : items? fuel after = some (items, rest)) :
    items? (fuel + 1) cs = some (item :: items, rest) := by
  rw [items?, value_eq]
  change (items? fuel after).map _ = _
  rw [items_eq, Option.map_some]

theorem members?_last {name : String} {value : Json}
    (value_eq : value? fuel cs = some (value, '\x7d' :: rest)) :
    members? (fuel + 1) (stringChars name ++ ':' :: cs) = some ([(name, value)], rest) := by
  rw [stringChars_append, members?]
  change (stringBody? _ _).bind _ = _
  rw [stringBody?_succ_length]
  change (value? fuel cs).bind _ = _
  rw [value_eq]
  exact congrArg (fun name ↦ some ([(name, value)], rest)) String.ofList_toList

theorem members?_cons {name : String} {value : Json} {members : List (String × Json)}
    (value_eq : value? fuel cs = some (value, ',' :: after))
    (members_eq : members? fuel after = some (members, rest)) :
    members? (fuel + 1) (stringChars name ++ ':' :: cs) =
      some ((name, value) :: members, rest) := by
  rw [stringChars_append, members?]
  change (stringBody? _ _).bind _ = _
  rw [stringBody?_succ_length]
  change (value? fuel cs).bind _ = _
  rw [value_eq]
  change (members? fuel after).map _ = _
  rw [members_eq]
  exact congrArg (fun name ↦ some ((name, value) :: members, rest)) String.ofList_toList

end Values

/-! ## Whole documents -/

mutual

/-- Whether every number of a document has a text that is read as that number. -/
def IsReadable : Json → Prop
  | int n => IsExact n
  | float x => x.isFinite = true
  | arr items => ItemsAreReadable items
  | obj members => MembersAreReadable members
  | _ => True

/-- Whether every item is readable. -/
def ItemsAreReadable : List Json → Prop
  | [] => True
  | item :: rest => IsReadable item ∧ ItemsAreReadable rest

/-- Whether the value of every member is readable. -/
def MembersAreReadable : List (String × Json) → Prop
  | [] => True
  | (_, value) :: rest => IsReadable value ∧ MembersAreReadable rest

end

theorem endsNumber_of_separator {c : Char} (separator : c = ',' ∨ c = ']' ∨ c = '\x7d')
    (rest : List Char) : EndsNumber (c :: rest) := by
  rintro _ ⟨⟩
  obtain rfl | rfl | rfl := separator <;> decide

theorem itemChars_cons (item next : Json) (items : List Json) :
    itemChars (item :: next :: items) = chars item ++ ',' :: itemChars (next :: items) :=
  rfl

theorem memberChars_singleton (name : String) (value : Json) :
    memberChars [(name, value)] = stringChars name ++ ':' :: chars value :=
  rfl

theorem memberChars_cons (name : String) (value : Json) (next : String × Json)
    (members : List (String × Json)) :
    memberChars ((name, value) :: next :: members) =
      stringChars name ++ ':' :: (chars value ++ ',' :: memberChars (next :: members)) :=
  List.append_assoc (stringChars name) _ _

mutual

/-- A document is read back whatever follows it, unless that goes on with a number. -/
theorem value?_chars (j : Json) (readable : IsReadable j) {rest : List Char}
    (ends : EndsNumber rest) {fuel : Nat} (enough : 2 * (chars j).length ≤ fuel) :
    value? (fuel + 1) (chars j ++ rest) = some (j, rest) := by
  cases j with
  | null => rfl
  | bool b => cases b <;> rfl
  | int n => exact value?_number (number?_ofInt readable ends)
  | float x =>
    have finite : x.isFinite = true := readable
    rw [chars, if_pos finite]
    exact value?_number (number?_finiteText finite ends)
  | str s => exact value?_stringChars s rest
  | arr items =>
    have length_eq : (chars (arr items)).length = (itemChars items).length + 2 :=
      List.length_append
    -- The two brackets pay for the call on the array and for that on its first item.
    obtain ⟨fuel, rfl⟩ : ∃ n, fuel = n + 2 := ⟨fuel - 2, by omega⟩
    rw [chars, List.append_assoc]
    rcases items with _ | ⟨item, items⟩
    · rfl
    · exact value?_items
        (items?_itemChars _ (List.cons_ne_nil item items) readable rest (by omega))
  | obj members =>
    have length_eq : (chars (obj members)).length = (memberChars members).length + 2 :=
      List.length_append
    obtain ⟨fuel, rfl⟩ : ∃ n, fuel = n + 2 := ⟨fuel - 2, by omega⟩
    rw [chars, List.append_assoc]
    rcases members with _ | ⟨member, members⟩
    · rfl
    · exact value?_members
        (members?_memberChars _ (List.cons_ne_nil member members) readable rest (by omega))

/-- The items of an array are read back. -/
theorem items?_itemChars (items : List Json) (ne : items ≠ []) (readable : ItemsAreReadable items)
    (rest : List Char) {fuel : Nat} (enough : 2 * (itemChars items).length ≤ fuel) :
    items? (fuel + 2) (itemChars items ++ ']' :: rest) = some (items, rest) := by
  match items, ne with
  | [item], _ =>
    exact items?_last
      (value?_chars item readable.1 (endsNumber_of_separator (.inr (.inl rfl)) rest) enough)
  | item :: next :: items, _ =>
    rw [itemChars_cons, List.length_append, List.length_cons] at enough
    -- The comma pays for the call on the items behind it.
    obtain ⟨fuel, rfl⟩ : ∃ n, fuel = n + 1 := ⟨fuel - 1, by omega⟩
    rw [itemChars_cons, List.append_assoc, List.cons_append]
    exact items?_cons
      (value?_chars item readable.1 (endsNumber_of_separator (.inl rfl) _) (by omega))
      (items?_itemChars (next :: items) (List.cons_ne_nil next items) readable.2 rest (by omega))

/-- The members of an object are read back. -/
theorem members?_memberChars (members : List (String × Json)) (ne : members ≠ [])
    (readable : MembersAreReadable members) (rest : List Char) {fuel : Nat}
    (enough : 2 * (memberChars members).length ≤ fuel) :
    members? (fuel + 2) (memberChars members ++ '\x7d' :: rest) = some (members, rest) := by
  match members, ne with
  | [(name, value)], _ =>
    rw [memberChars_singleton, List.length_append, List.length_cons] at enough
    rw [memberChars_singleton, List.append_assoc, List.cons_append]
    exact members?_last
      (value?_chars value readable.1 (endsNumber_of_separator (.inr (.inr rfl)) rest) (by omega))
  | (name, value) :: next :: members, _ =>
    rw [memberChars_cons, List.length_append, List.length_cons, List.length_append,
      List.length_cons] at enough
    obtain ⟨fuel, rfl⟩ : ∃ n, fuel = n + 1 := ⟨fuel - 1, by omega⟩
    rw [memberChars_cons, List.append_assoc, List.cons_append, List.append_assoc,
      List.cons_append]
    exact members?_cons
      (value?_chars value readable.1 (endsNumber_of_separator (.inl rfl) _) (by omega))
      (members?_memberChars (next :: members) (List.cons_ne_nil next members) readable.2 rest
        (by omega))

end

/-- The text of a document is read back as the document. -/
theorem parse?_render {j : Json} (readable : IsReadable j) : parse? (render j) = some j := by
  have ends : EndsNumber [] := nofun
  have value_eq := value?_chars j readable ends (Nat.le_succ (2 * (chars j).length))
  rw [List.append_nil] at value_eq
  rw [parse?, render, String.toList_ofList, parseChars?, value_eq]
  rfl

end AuditTrail.Json
