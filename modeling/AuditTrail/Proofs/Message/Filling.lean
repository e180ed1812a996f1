import AuditTrail.Message
import AuditTrail.Proofs.Text.Replace

/-!
# Placeholders filled at once

A message is compared with its template filled at once, where each placeholder gets its parameter
as it is and parameters are not searched for placeholders.

Parameters fill the placeholders one after the other, so a parameter is searched for the
placeholders of those behind it.  In a template each placeholder ends the text or is followed by a
character that no placeholder has.  Therefore the parameters are searched one by one, and the
message is the template filled at once with what the parameters are in the end.
-/

namespace AuditTrail.MessageKey

variable {params others : List String} {param : String} {place other n k : Nat} {c d : Char}
  {as bs cs rest : List Char}

/-! ## Placeholders -/

/-- The characters of a placeholder. -/
def mark (place : Nat) : List Char :=
  (placeholder place).toList

theorem mark_eq (place : Nat) : mark place = '\x7b' :: (Numeral.ofNat place ++ ['\x7d']) :=
  String.toList_ofList

theorem mark_ne (place : Nat) : mark place ≠ [] := by
  rw [mark_eq]
  exact List.cons_ne_nil _ _

theorem isDigit_of_mem_ofNat : ∀ c ∈ Numeral.ofNat place, c.isDigit :=
  fun _ ↦ Nat.isDigit_of_mem_toDigits (by decide) (by decide)

/-- Behind its first character a placeholder has no opening brace. -/
theorem opening_not_mem : '\x7b' ∉ Numeral.ofNat place ++ ['\x7d'] := by
  intro opening_mem
  rcases List.mem_append.mp opening_mem with digit_mem | closing_mem
  · cases isDigit_of_mem_ofNat _ digit_mem
  · cases List.mem_singleton.mp closing_mem

/-- What no placeholder has: it is no brace and no digit. -/
def separates (c : Char) : Bool :=
  c ≠ '\x7b' && c ≠ '\x7d' && !c.isDigit

theorem not_separates_of_mem_mark : ∀ c ∈ mark place, ¬ separates c := by
  intro c c_mem
  rw [mark_eq] at c_mem
  rcases List.mem_cons.mp c_mem with rfl | c_mem
  · decide
  rcases List.mem_append.mp c_mem with digit_mem | brace_mem
  · simp [separates, isDigit_of_mem_ofNat c digit_mem]
  · rw [List.mem_singleton.mp brace_mem]
    decide

theorem not_mem_mark (separating : separates c) : c ∉ mark place :=
  fun c_mem ↦ not_separates_of_mem_mark c c_mem separating

/-- Texts before marked characters are the same if as many marked characters stand in them. -/
theorem eq_of_append_cons_eq {p : Char → Bool} (c_marked : p c) (d_marked : p d)
    (eq : as ++ c :: rest = bs ++ d :: cs) (count_eq : as.countP p = bs.countP p) :
    as = bs ∧ rest = cs := by
  induction as generalizing bs with
  | nil =>
    cases bs with
    | nil => exact ⟨rfl, (List.cons.inj eq).2⟩
    | cons b bs =>
      obtain rfl := (List.cons.inj eq).1
      rw [List.countP_cons_of_pos c_marked] at count_eq
      cases count_eq
  | cons a as ih =>
    cases bs with
    | nil =>
      obtain rfl := (List.cons.inj eq).1
      rw [List.countP_cons_of_pos d_marked] at count_eq
      cases count_eq
    | cons b bs =>
      obtain ⟨rfl, tail_eq⟩ := List.cons.inj eq
      rw [List.countP_cons, List.countP_cons, Nat.add_right_cancel_iff] at count_eq
      obtain ⟨rfl, rest_eq⟩ := ih tail_eq count_eq
      exact ⟨rfl, rest_eq⟩

/-- Different placeholders do not stand at the start of the same text. -/
theorem eq_of_mark_begins (place_begins : mark place <+: cs) (other_begins : mark other <+: cs) :
    place = other := by
  obtain ⟨after, rfl⟩ := place_begins
  obtain ⟨behind, eq⟩ := other_begins
  rw [mark_eq, mark_eq, List.cons_append, List.cons_append, List.append_assoc,
    List.append_assoc] at eq
  have count_eq (place : Nat) : (Numeral.ofNat place).countP (· = '\x7d') = 0 := by
    refine List.countP_eq_zero.mpr fun c c_mem closing ↦ ?_
    have digit := isDigit_of_mem_ofNat c c_mem
    rw [of_decide_eq_true closing] at digit
    cases digit
  have digits_eq : Numeral.ofNat other = Numeral.ofNat place :=
    (eq_of_append_cons_eq (p := fun c ↦ c = '\x7d') rfl rfl (List.cons.inj eq).2
      ((count_eq other).trans (count_eq place).symm)).1
  rw [← Nat.ofDigitChars_ten_toDigits (n := place), ← Nat.ofDigitChars_ten_toDigits (n := other)]
  exact congrArg (Nat.ofDigitChars 10 · 0) digits_eq.symm

/-- The characters of a placeholder hold no other placeholder. -/
theorem mark_infix_mark_iff : mark place <:+: mark other ↔ place = other := by
  constructor
  · intro occurs
    rw [mark_eq other] at occurs
    rcases List.infix_cons_iff.mp occurs with here | later
    · rw [← mark_eq] at here
      exact eq_of_mark_begins here (List.prefix_refl _)
    · rw [mark_eq place] at later
      exact absurd (later.subset List.mem_cons_self) opening_not_mem
  · rintro rfl
    exact List.infix_refl _

/-! ## Filling at once -/

/-- The parameter whose placeholder stands at the start of a text. -/
def paramAt? (params : List String) (cs : List Char) : Option (String × Nat) :=
  params.zipIdx.find? fun found ↦ mark found.2 <+: cs

/-- The characters of a text with all placeholders filled at once, with parameters as they are. -/
def filledChars (params : List String) (cs : List Char) : List Char :=
  match cs with
  | [] => []
  | c :: rest =>
    match paramAt? params (c :: rest) with
    | some (param, place) =>
      param.toList ++ filledChars params ((c :: rest).drop (mark place).length)
    | none => c :: filledChars params rest
  termination_by cs.length
  decreasing_by
    · have := List.length_pos_of_ne_nil (mark_ne place)
      simp only [List.length_drop, List.length_cons]
      omega
    · simp

/-- A text with all placeholders filled at once. -/
def filled (params : List String) (text : String) : String :=
  String.ofList (filledChars params text.toList)

theorem paramAt?_eq_some_iff : paramAt? params cs = some (param, place) ↔
    params[place]? = some param ∧ mark place <+: cs := by
  constructor
  · intro found_eq
    have found := List.find?_some found_eq
    have mem := List.mem_of_find?_eq_some found_eq
    exact ⟨List.mk_mem_zipIdx_iff_getElem?.mp mem, of_decide_eq_true found⟩
  · rintro ⟨param_eq, mark_begins⟩
    have mem : (param, place) ∈ params.zipIdx := List.mk_mem_zipIdx_iff_getElem?.mpr param_eq
    cases found_eq : paramAt? params cs with
    | none =>
      have not_found := List.find?_eq_none.mp found_eq _ mem
      exact absurd (decide_eq_true mark_begins) not_found
    | some found =>
      have found_begins := List.find?_some found_eq
      have found_mem := List.mem_of_find?_eq_some found_eq
      obtain ⟨other, otherPlace⟩ := found
      obtain rfl : otherPlace = place :=
        eq_of_mark_begins (of_decide_eq_true found_begins) mark_begins
      have other_eq := List.mk_mem_zipIdx_iff_getElem?.mp found_mem
      rw [param_eq] at other_eq
      cases other_eq
      rfl

/-- What stands in the place of a placeholder: its parameter, or itself if there is none. -/
def shown (params : List String) (place : Nat) : List Char :=
  (params[place]?.map String.toList).getD (mark place)

theorem filledChars_nil (params : List String) : filledChars params [] = [] := by
  rw [filledChars]

theorem filledChars_of_some (found_eq : paramAt? params (c :: rest) = some (param, place)) :
    filledChars params (c :: rest) =
      param.toList ++ filledChars params ((c :: rest).drop (mark place).length) := by
  rw [filledChars, found_eq]

theorem filledChars_cons (none_eq : paramAt? params (c :: rest) = none) :
    filledChars params (c :: rest) = c :: filledChars params rest := by
  rw [filledChars, none_eq]

/-- What does not begin a placeholder is kept. -/
theorem filledChars_append (not_mem : '\x7b' ∉ as) :
    filledChars params (as ++ rest) = as ++ filledChars params rest := by
  induction as with
  | nil => rfl
  | cons a as ih =>
    have none_eq : paramAt? params (a :: (as ++ rest)) = none := by
      refine Option.eq_none_iff_forall_ne_some.mpr ?_
      rintro ⟨param, place⟩ found_eq
      have mark_begins := (paramAt?_eq_some_iff.mp found_eq).2
      rw [mark_eq] at mark_begins
      exact not_mem ((List.cons_prefix_cons.mp mark_begins).1 ▸ List.mem_cons_self)
    rw [List.cons_append, filledChars_cons none_eq,
      ih fun mem ↦ not_mem (List.mem_cons_of_mem a mem), List.cons_append]

theorem filledChars_mark_append :
    filledChars params (mark place ++ rest) = shown params place ++ filledChars params rest := by
  have mark_begins := List.prefix_append (mark place) rest
  have cons_eq : mark place ++ rest = '\x7b' :: (Numeral.ofNat place ++ ['\x7d'] ++ rest) := by
    rw [mark_eq, List.cons_append]
  cases param_eq : params[place]? with
  | some param =>
    have found_eq := paramAt?_eq_some_iff.mpr ⟨param_eq, mark_begins⟩
    rw [cons_eq] at found_eq ⊢
    rw [filledChars_of_some found_eq, ← cons_eq, List.drop_left, shown, param_eq]
    rfl
  | none =>
    have none_eq : paramAt? params (mark place ++ rest) = none := by
      refine Option.eq_none_iff_forall_ne_some.mpr ?_
      rintro ⟨param, other⟩ found_eq
      obtain ⟨other_eq, other_begins⟩ := paramAt?_eq_some_iff.mp found_eq
      rw [eq_of_mark_begins other_begins mark_begins, param_eq] at other_eq
      cases other_eq
    rw [cons_eq] at none_eq ⊢
    rw [filledChars_cons none_eq, filledChars_append opening_not_mem, shown, param_eq]
    exact congrArg (· ++ filledChars params rest) (mark_eq place).symm

theorem filledChars_mark : filledChars params (mark place) = shown params place := by
  have whole_eq : filledChars params (mark place ++ []) = _ := filledChars_mark_append
  rwa [List.append_nil, filledChars_nil, List.append_nil] at whole_eq

theorem filledChars_separating (separating : separates c) :
    filledChars params (c :: rest) = c :: filledChars params rest := by
  have not_mem : '\x7b' ∉ [c] := by
    rintro (_ | ⟨_, ⟨⟩⟩)
    cases separating
  exact filledChars_append not_mem

/-! ## Filling one after the other -/

/-- The characters of a text in which the placeholders from a place on are filled one after the
other. -/
def fillChars (place : Nat) (cs : List Char) : List String → List Char
  | [] => cs
  | param :: params =>
    fillChars (place + 1) (Text.replaceChars (mark place) param.toList cs) params

theorem toList_fillFrom (text : String) :
    (fillFrom place text params).toList = fillChars place text.toList params := by
  induction params generalizing place text with
  | nil => rfl
  | cons param rest ih =>
    rw [fillFrom, ih, Text.replaceAll, String.toList_ofList]
    rfl

/-- What a separating character keeps apart is filled by itself. -/
theorem fillChars_append_cons (separating : separates c) :
    fillChars place (as ++ c :: bs) params =
      fillChars place as params ++ c :: fillChars place bs params := by
  induction params generalizing place as bs with
  | nil => rfl
  | cons param rest ih =>
    rw [fillChars, Text.replaceChars_append_cons (mark_ne place) (not_mem_mark separating), ih]
    rfl

theorem fillChars_nil : fillChars place [] params = [] := by
  induction params generalizing place with
  | nil => rfl
  | cons param rest ih => rw [fillChars, Text.replaceChars_nil, ih]

theorem fillChars_cons (separating : separates c) :
    fillChars place (c :: rest) params = c :: fillChars place rest params := by
  have append_eq : fillChars place ([] ++ c :: rest) params = _ := fillChars_append_cons separating
  rwa [fillChars_nil] at append_eq

/-- A text without the placeholders that are filled stays as it is. -/
theorem fillChars_of_absent
    (absent : ∀ later, place ≤ later → later < place + params.length → ¬ mark later <:+: cs) :
    fillChars place cs params = cs := by
  induction params generalizing place with
  | nil => rfl
  | cons param rest ih =>
    rw [List.length_cons] at absent
    rw [fillChars, Text.replaceChars_of_absent (absent place (Nat.le_refl _) (by omega))]
    exact ih fun later le lt ↦ absent later (by omega) (by omega)

/-- Nothing that separates gets lost. -/
theorem countP_le_countP_fillChars :
    cs.countP separates ≤ (fillChars place cs params).countP separates := by
  induction params generalizing place cs with
  | nil => exact Nat.le_refl _
  | cons param rest ih =>
    exact Nat.le_trans (Text.countP_le_countP_replaceChars not_separates_of_mem_mark) ih

/-- A parameter fills its placeholder, and is searched for those of the parameters behind it. -/
theorem fillChars_mark : fillChars place (mark (place + k)) params =
    (params[k]?.map fun param ↦
      fillChars (place + k + 1) param.toList (params.drop (k + 1))).getD (mark (place + k)) := by
  induction params generalizing place k with
  | nil => rfl
  | cons param rest ih =>
    cases k with
    | zero =>
      exact congrArg (fillChars (place + 1) · rest) (Text.replaceChars_self (mark_ne place))
    | succ k =>
      have absent : ¬ mark place <:+: mark (place + (k + 1)) := by
        rw [mark_infix_mark_iff]
        omega
      have place_eq : place + (k + 1) = place + 1 + k := by omega
      rw [fillChars, Text.replaceChars_of_absent absent, place_eq]
      exact ih

/-- Parameters when the placeholders of those behind them are filled in them, from a place on. -/
def settledFrom (place : Nat) : List String → List String
  | [] => []
  | param :: params => fillFrom (place + 1) param params :: settledFrom (place + 1) params

/-- Parameters when the placeholders of those behind them are filled in them. -/
def settled (params : List String) : List String :=
  settledFrom 0 params

theorem getElem?_settledFrom : (settledFrom place params)[k]? =
    params[k]?.map fun param ↦ fillFrom (place + k + 1) param (params.drop (k + 1)) := by
  induction params generalizing place k with
  | nil => rfl
  | cons param rest ih =>
    cases k with
    | zero => rfl
    | succ k =>
      have place_eq : place + (k + 1) = place + 1 + k := by omega
      rw [settledFrom, List.getElem?_cons_succ, ih, place_eq]
      rfl

theorem getElem?_settled : (settled params)[place]? =
    params[place]?.map fun param ↦ fillFrom (place + 1) param (params.drop (place + 1)) := by
  rw [settled, getElem?_settledFrom, Nat.zero_add]

/-- In the place of a placeholder stands its parameter as it is in the end. -/
theorem fillChars_zero_mark : fillChars 0 (mark place) params = shown (settled params) place := by
  have mark_eq : fillChars 0 (mark (0 + place)) params = _ := fillChars_mark
  rw [Nat.zero_add] at mark_eq
  rw [mark_eq, shown, getElem?_settled]
  cases params[place]? with
  | none => rfl
  | some param => exact (toList_fillFrom param).symm

theorem countP_shown_le : (shown params place).countP separates ≤
    (shown (settled params) place).countP separates := by
  rw [shown, shown, getElem?_settled]
  cases params[place]? with
  | none => exact Nat.le_refl _
  | some param =>
    simp only [Option.map_some, Option.getD_some, toList_fillFrom]
    exact countP_le_countP_fillChars

/-! ## Spaced templates -/

/-- Each placeholder of a text is the last thing in it or stands before a character that separates,
and there is nothing else but such characters. -/
inductive Spaced : List Char → Prop
  | nil : Spaced []
  | char {c : Char} {rest : List Char} : separates c → Spaced rest → Spaced (c :: rest)
  | last {place : Nat} : Spaced (mark place)
  | placeholder {place : Nat} {c : Char} {rest : List Char} : separates c → Spaced rest →
      Spaced (mark place ++ c :: rest)

namespace Spaced

/-- A spaced text is filled at once with the parameters as they are in the end. -/
theorem fillChars_eq (spaced : Spaced cs) :
    fillChars 0 cs params = filledChars (settled params) cs := by
  induction spaced with
  | nil => rw [fillChars_nil, filledChars_nil]
  | char separating _ ih =>
    rw [fillChars_cons separating, ih, filledChars_separating separating]
  | last =>
    rw [fillChars_zero_mark, filledChars_mark]
  | placeholder separating _ ih =>
    rw [fillChars_append_cons separating, fillChars_zero_mark, ih, filledChars_mark_append,
      filledChars_separating separating]

/-- A spaced text has no less that separates if what is shown for its placeholders has no less. -/
theorem countP_filledChars_le (spaced : Spaced cs)
    (le : ∀ place, (shown params place).countP separates ≤ (shown others place).countP separates) :
    (filledChars params cs).countP separates ≤ (filledChars others cs).countP separates := by
  induction spaced with
  | nil => exact Nat.le_of_eq (by rw [filledChars_nil, filledChars_nil])
  | char separating _ ih =>
    rw [filledChars_separating separating, filledChars_separating separating,
      List.countP_cons_of_pos separating, List.countP_cons_of_pos separating]
    exact Nat.succ_le_succ ih
  | last =>
    rw [filledChars_mark, filledChars_mark]
    exact le _
  | placeholder separating _ ih =>
    rw [filledChars_mark_append, filledChars_mark_append, filledChars_separating separating,
      filledChars_separating separating, List.countP_append, List.countP_append,
      List.countP_cons_of_pos separating, List.countP_cons_of_pos separating]
    exact Nat.add_le_add (le _) (Nat.succ_le_succ ih)

/-- If nothing that separates gets lost, a spaced text is filled in the same way by other parameters
if and only if the same is shown for each of its placeholders. -/
theorem filledChars_eq_iff (spaced : Spaced cs)
    (le : ∀ place, (shown params place).countP separates ≤ (shown others place).countP separates) :
    filledChars others cs = filledChars params cs ↔
      ∀ place, mark place <:+: cs → shown others place = shown params place := by
  induction spaced with
  | nil =>
    refine ⟨fun _ place occurs ↦ ?_, fun _ ↦ by rw [filledChars_nil, filledChars_nil]⟩
    exact absurd (List.infix_nil.mp occurs) (mark_ne place)
  | @char c rest separating _ ih =>
    have occurs_iff (place : Nat) : mark place <:+: c :: rest ↔ mark place <:+: rest := by
      rw [List.infix_cons_iff]
      exact or_iff_right (Text.not_prefix_cons (mark_ne place) (not_mem_mark separating))
    rw [filledChars_separating separating, filledChars_separating separating, List.cons_inj_right,
      ih]
    simp only [occurs_iff]
  | last =>
    rw [filledChars_mark, filledChars_mark]
    simp only [mark_infix_mark_iff, forall_eq]
  | @placeholder first c rest separating spaced ih =>
    have occurs_iff (place : Nat) :
        mark place <:+: mark first ++ c :: rest ↔ place = first ∨ mark place <:+: rest := by
      rw [Text.infix_append_cons_iff (mark_ne place) (not_mem_mark separating),
        mark_infix_mark_iff]
    rw [filledChars_mark_append, filledChars_mark_append, filledChars_separating separating,
      filledChars_separating separating]
    simp only [occurs_iff, forall_eq_or_imp, ← ih]
    constructor
    · intro eq
      -- both parts have no less that separates, and together they have as much
      have first_le := le first
      have rest_le := spaced.countP_filledChars_le le
      have total_eq := congrArg (List.countP separates) eq
      simp only [List.countP_append, List.countP_cons_of_pos separating] at total_eq
      exact eq_of_append_cons_eq separating separating eq (by omega)
    · rintro ⟨first_eq, rest_eq⟩
      rw [first_eq, rest_eq]

/-- Characters that separate may stand before a spaced text. -/
theorem append (all : as.all separates) (spaced : Spaced rest) : Spaced (as ++ rest) := by
  induction as with
  | nil => exact spaced
  | cons c as ih =>
    obtain ⟨separating, all⟩ := Bool.and_eq_true_iff.mp all
    exact .char separating (ih all)

end Spaced

/-- A template about two parameters: the first one, a text, and the second one. -/
theorem spaced_pair {text : List Char} (all : text.all separates) :
    Spaced (mark 0 ++ ' ' :: (text ++ (mark 1 ++ ['.']))) :=
  .placeholder rfl (.append all (.placeholder rfl .nil))

/-- All templates are spaced. -/
theorem spaced_template (key : MessageKey) : Spaced key.template.toList := by
  cases key with
  | noKey =>
    have all : noKey.template.toList.all separates := by decide +kernel
    have spaced := Spaced.append all .nil
    rwa [List.append_nil] at spaced
  | interceptorException =>
    have template_eq : interceptorException.template.toList = mark 0 ++ ' ' ::
        ("- Exception occurred while attempting to ".toList ++ (mark 1 ++ ['.'])) := by
      decide +kernel
    rw [template_eq]
    exact spaced_pair (by decide +kernel)
  | auditWriteFailed =>
    have template_eq : auditWriteFailed.template.toList = mark 0 ++ ' ' ::
        ("- Unable to write the audit record for ".toList ++ (mark 1 ++ ['.'])) := by
      decide +kernel
    rw [template_eq]
    exact spaced_pair (by decide +kernel)
  | unexpectedError =>
    have template_eq : unexpectedError.template.toList =
        "Unexpected error: ".toList ++ mark 0 := by
      decide +kernel
    rw [template_eq]
    exact .append (by decide +kernel) .last

/-! ## Messages -/

theorem message_eq_filled_settled (key : MessageKey) (params : List String) :
    key.message params = filled (settled params) key.template := by
  rw [filled, ← (spaced_template key).fillChars_eq, ← toList_fillFrom, String.ofList_toList]
  rfl

/-- What is shown for a placeholder is the parameter as it is if and only if it ends as it is. -/
theorem shown_settled_eq_iff : shown (settled params) place = shown params place ↔
    (settled params)[place]? = params[place]? := by
  rw [shown, shown, getElem?_settled]
  cases params[place]? with
  | none => exact ⟨fun _ ↦ rfl, fun _ ↦ rfl⟩
  | some param =>
    simp only [Option.map_some, Option.getD_some, Option.some_inj, String.toList_inj]

/-- Parameters that hold no placeholders of later ones stay as they are. -/
theorem settled_eq (apart : ∀ place param, params[place]? = some param →
    ∀ later < params.length, place < later → ¬ (placeholder later).toList <:+: param.toList) :
    settled params = params := by
  refine List.ext_getElem? fun place ↦ ?_
  rw [getElem?_settled]
  cases param_eq : params[place]? with
  | none => rfl
  | some param =>
    have chars_eq :
        (fillFrom (place + 1) param (params.drop (place + 1))).toList = param.toList := by
      rw [toList_fillFrom]
      refine fillChars_of_absent fun later le lt ↦ ?_
      rw [List.length_drop] at lt
      exact apart place param param_eq later (by omega) (by omega)
    exact congrArg some (String.toList_injective chars_eq)

/-- **Messages.**  A message is the template of its key filled at once, with the parameters as they
are when the placeholders of those behind them are filled in them.  So it is the template filled at
once with the parameters themselves if and only if those of its placeholders stay as they are, and
they all do if no parameter holds the placeholder of a later one. -/
theorem message_fills (key : MessageKey) (params : List String) :
    key.message params = filled (settled params) key.template ∧
    (key.message params = filled params key.template ↔
      ∀ place, (placeholder place).toList <:+: key.template.toList →
        (settled params)[place]? = params[place]?) ∧
    ((∀ place param, params[place]? = some param → ∀ later < params.length, place < later →
        ¬ (placeholder later).toList <:+: param.toList) →
      key.message params = filled params key.template) := by
  refine ⟨message_eq_filled_settled key params, ?_, fun apart ↦ ?_⟩
  · rw [message_eq_filled_settled, filled, filled, String.ofList_inj,
      (spaced_template key).filledChars_eq_iff fun place ↦ countP_shown_le]
    simp only [shown_settled_eq_iff]
    rfl
  · rw [message_eq_filled_settled, settled_eq apart]

/-- A parameter that is the placeholder of the next one is filled as well. -/
example : interceptorException.message ["\x7b1\x7d", "x"] =
      "x - Exception occurred while attempting to x." ∧
    filled ["\x7b1\x7d", "x"] interceptorException.template =
      "\x7b1\x7d - Exception occurred while attempting to x." := by
  decide +kernel

end AuditTrail.MessageKey
