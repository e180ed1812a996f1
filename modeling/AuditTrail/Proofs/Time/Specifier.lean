import AuditTrail.Time.PatternText

/-!
# Specifiers in the text of a pattern

No specifier begins with another one, so what a specifier reads does not depend on what follows it,
and patterns that are written one after the other are read one after the other.

This says in which texts a given specifier is read: those that go on with it after a text that is
itself read as a pattern.  The specifier of the lenient offset, which has no written form, is looked
for in this way.
-/

namespace AuditTrail.Time

/-! ## One specifier -/

namespace PatternItem

variable {c : Char} {cs rest : List Char} {items : List PatternItem}

/-- A letter is a specifier whatever follows it. -/
theorem ofSpecifier?_letter (letter_eq : ofLetter? c = some items) (rest : List Char) :
    ofSpecifier? (c :: rest) = some (items, rest) := by
  unfold ofLetter? at letter_eq
  split at letter_eq <;> cases letter_eq <;> rfl

/-- A letter never stands for the lenient offset. -/
theorem not_mem_of_ofLetter? (letter_eq : ofLetter? c = some items) :
    named .offsetLenient ∉ items := by
  unfold ofLetter? at letter_eq
  split at letter_eq <;> cases letter_eq <;> decide

/-- What a specifier reads does not depend on what follows it. -/
theorem exists_ofSpecifier?_eq (specifier_eq : ofSpecifier? cs = some (items, rest)) :
    ∃ specifier, cs = specifier ++ rest ∧
      (∀ more, ofSpecifier? (specifier ++ more) = some (items, more)) ∧
      (named .offsetLenient ∈ items → specifier = ['#', 'z']) := by
  unfold ofSpecifier? at specifier_eq
  split at specifier_eq <;>
    first
    | cases specifier_eq
    | obtain ⟨_, letter_eq, ⟨⟩⟩ := Option.map_eq_some_iff.mp specifier_eq
  · exact ⟨[':', ':', ':', 'z'], rfl, fun _ ↦ rfl, by decide⟩
  · exact ⟨[':', ':', 'z'], rfl, fun _ ↦ rfl, by decide⟩
  · exact ⟨[':', 'z'], rfl, fun _ ↦ rfl, by decide⟩
  · exact ⟨['.', '3', 'f'], rfl, fun _ ↦ rfl, by decide⟩
  · exact ⟨['.', '6', 'f'], rfl, fun _ ↦ rfl, by decide⟩
  · exact ⟨['.', '9', 'f'], rfl, fun _ ↦ rfl, by decide⟩
  · exact ⟨['.', 'f'], rfl, fun _ ↦ rfl, by decide⟩
  · exact ⟨['3', 'f'], rfl, fun _ ↦ rfl, by decide⟩
  · exact ⟨['6', 'f'], rfl, fun _ ↦ rfl, by decide⟩
  · exact ⟨['9', 'f'], rfl, fun _ ↦ rfl, by decide⟩
  · exact ⟨['#', 'z'], rfl, fun _ ↦ rfl, by decide⟩
  · exact ⟨[_], rfl, ofSpecifier?_letter letter_eq,
      fun lenient ↦ absurd lenient (not_mem_of_ofLetter? letter_eq)⟩

/-- What a padded specifier reads does not depend on what follows it, and it is never the lenient
offset. -/
theorem exists_repad?_eq {padding : Padding} (repad_eq : repad? padding cs = some (items, rest)) :
    ∃ specifier, cs = specifier ++ rest ∧
      (∀ more, repad? padding (specifier ++ more) = some (items, more)) ∧
      named .offsetLenient ∉ items := by
  unfold repad? at repad_eq
  split at repad_eq
  next part padding rest' specifier_eq =>
    cases repad_eq
    obtain ⟨specifier, rfl, reads, -⟩ := exists_ofSpecifier?_eq specifier_eq
    refine ⟨specifier, rfl, fun more ↦ ?_, by simp⟩
    rw [repad?, reads more]
  · cases repad_eq

/-- What is read after a percent sign does not depend on what follows it. -/
theorem exists_ofPercent?_eq (percent_eq : ofPercent? cs = some (items, rest)) :
    ∃ specifier, cs = specifier ++ rest ∧
      (∀ more, ofPercent? (specifier ++ more) = some (items, more)) ∧
      (named .offsetLenient ∈ items → specifier = ['#', 'z']) := by
  have padded {c : Char} {padding : Padding} {cs : List Char}
      (ofPercent_eq : ∀ cs, ofPercent? (c :: cs) = repad? padding cs)
      (repad_eq : repad? padding cs = some (items, rest)) :
      ∃ specifier, c :: cs = specifier ++ rest ∧
        (∀ more, ofPercent? (specifier ++ more) = some (items, more)) ∧
        (named .offsetLenient ∈ items → specifier = ['#', 'z']) := by
    obtain ⟨specifier, rfl, reads, not_mem⟩ := exists_repad?_eq repad_eq
    refine ⟨c :: specifier, rfl, fun more ↦ ?_, fun lenient ↦ absurd lenient not_mem⟩
    rw [List.cons_append, ofPercent_eq, reads more]
  unfold ofPercent? at percent_eq
  split at percent_eq
  · exact padded (fun _ ↦ rfl) percent_eq
  · exact padded (fun _ ↦ rfl) percent_eq
  · exact padded (fun _ ↦ rfl) percent_eq
  next not_bare not_zero not_space =>
    obtain ⟨specifier, rfl, reads, lenient⟩ := exists_ofSpecifier?_eq percent_eq
    refine ⟨specifier, rfl, fun more ↦ ?_, lenient⟩
    rcases specifier with _ | ⟨c, specifier⟩
    · cases reads []
    · rw [← reads more, ofPercent?.eq_def]
      split
      next eq => exact (not_bare _ (congrArg (· :: _) (List.cons.inj eq).1)).elim
      next eq => exact (not_zero _ (congrArg (· :: _) (List.cons.inj eq).1)).elim
      next eq => exact (not_space _ (congrArg (· :: _) (List.cons.inj eq).1)).elim
      next => rfl

end PatternItem

/-! ## A pattern -/

namespace Pattern

open PatternItem (ofPercent?)

variable {cs before after : List Char} {pattern : Pattern}

theorem ofChars?_percent {items : Pattern} {rest : List Char}
    (percent_eq : ofPercent? cs = some (items, rest)) :
    ofChars? ('%' :: cs) = (ofChars? rest).map (items ++ ·) := by
  rw [ofChars?]
  split
  next items' rest' percent_eq' =>
    cases percent_eq.symm.trans percent_eq'
    rfl
  next none_eq => cases percent_eq.symm.trans none_eq

theorem ofChars?_plain {c : Char} (ne : c ≠ '%') :
    ofChars? (c :: cs) = (ofChars? cs).map (.literal [c] :: ·) := by
  rw [ofChars?]
  exact fun eq ↦ ne eq

/-- Patterns that are written one after the other are read one after the other. -/
theorem ofChars?_append (before_eq : ofChars? before = some pattern) (after : List Char) :
    ofChars? (before ++ after) = (ofChars? after).map (pattern ++ ·) := by
  fun_induction ofChars? before generalizing pattern with
  | case1 =>
    cases before_eq
    exact (congrFun Option.map_id _).symm
  | case2 cs items rest percent_eq ih =>
    obtain ⟨specifier, rfl, reads, -⟩ := PatternItem.exists_ofPercent?_eq percent_eq
    obtain ⟨read, rest_eq, rfl⟩ := Option.map_eq_some_iff.mp before_eq
    rw [List.cons_append, List.append_assoc, ofChars?_percent (reads (rest ++ after)), ih rest_eq,
      Option.map_map]
    exact congrArg (Option.map · _) (funext fun more ↦ (List.append_assoc _ _ _).symm)
  | case3 => cases before_eq
  | case4 c cs ne ih =>
    obtain ⟨read, rest_eq, rfl⟩ := Option.map_eq_some_iff.mp before_eq
    rw [List.cons_append, ofChars?_plain (fun eq ↦ ne eq), ih rest_eq, Option.map_map]
    rfl

/-- A pattern holds the lenient offset if and only if its text goes on with the specifier of the
lenient offset after a text that is itself read as a pattern. -/
theorem lenient_mem_iff (chars_eq : ofChars? cs = some pattern) :
    .named .offsetLenient ∈ pattern ↔ ∃ before after,
      cs = before ++ '%' :: '#' :: 'z' :: after ∧ ∃ read, ofChars? before = some read := by
  constructor
  · intro lenient
    fun_induction ofChars? cs generalizing pattern with
    | case1 =>
      cases chars_eq
      cases lenient
    | case2 cs items rest percent_eq ih =>
      obtain ⟨specifier, rfl, reads, is_lenient⟩ := PatternItem.exists_ofPercent?_eq percent_eq
      obtain ⟨read, rest_eq, rfl⟩ := Option.map_eq_some_iff.mp chars_eq
      rcases List.mem_append.mp lenient with here | later
      · obtain rfl := is_lenient here
        exact ⟨[], rest, rfl, [], by rw [ofChars?]⟩
      · obtain ⟨before, after, rfl, read, before_eq⟩ := ih rest_eq later
        refine ⟨'%' :: specifier ++ before, after, ?_, items ++ read, ?_⟩
        · rw [List.append_assoc, List.cons_append]
        · rw [List.cons_append, ofChars?_percent (reads before), before_eq]
          rfl
    | case3 => cases chars_eq
    | case4 c cs ne ih =>
      obtain ⟨read, rest_eq, rfl⟩ := Option.map_eq_some_iff.mp chars_eq
      have later := (List.mem_cons.mp lenient).resolve_left nofun
      obtain ⟨before, after, rfl, read, before_eq⟩ := ih rest_eq later
      refine ⟨c :: before, after, rfl, .literal [c] :: read, ?_⟩
      rw [ofChars?_plain (fun eq ↦ ne eq), before_eq]
      rfl
  · rintro ⟨before, after, rfl, read, before_eq⟩
    rw [ofChars?_append before_eq, ofChars?_percent rfl] at chars_eq
    obtain ⟨_, rest_eq, rfl⟩ := Option.map_eq_some_iff.mp chars_eq
    obtain ⟨_, -, rfl⟩ := Option.map_eq_some_iff.mp rest_eq
    exact List.mem_append_right _ List.mem_cons_self

end Pattern

end AuditTrail.Time
