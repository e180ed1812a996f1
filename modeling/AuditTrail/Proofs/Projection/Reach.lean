import AuditTrail.Proofs.Projection.Obstacle
import Mathlib.Data.List.Lex
import Mathlib.Order.Nat

/-!
# The object that fails first

Which objects a value leads to is said here without a walk.  What a value holds has a place in it,
and the places on the way from the outermost value to an object are the address of the object.  An
object is reached if the way to it leads through no excluded name and is not too long, and if the
object is none of those that the way leads through.

The lexicographic order of addresses is the order of the output.  So the projection of a value has
an obstacle if and only if an object is reached that does not expose its fields, and the obstacle is
the one of these with the least address.
-/

namespace AuditTrail

/-! ## Traversals -/

section Traversal

variable {α β ε : Type} {f g : α → Except ε β} {l : List α}

/-- What is made of a result has the errors of the result. -/
theorem bind_pure_eq_error_iff {x : Except ε α} {make : α → β} {e : ε} :
    (do return make (← x)) = Except.error e ↔ x = .error e := by
  cases x with
  | error e' =>
    constructor <;> rintro ⟨⟩ <;> rfl
  | ok a => constructor <;> rintro ⟨⟩

theorem exists_bind_pure_eq_ok_iff {x : Except ε α} {make : α → β} :
    (∃ b, (do return make (← x)) = Except.ok b) ↔ ∃ a, x = .ok a := by
  cases x with
  | error e => constructor <;> rintro ⟨_, ⟨⟩⟩
  | ok a => exact ⟨fun _ ↦ ⟨a, rfl⟩, fun _ ↦ ⟨make a, rfl⟩⟩

/-- Steps that agree on the elements make the same traversal. -/
theorem mapM_congr_of_mem (same : ∀ a ∈ l, f a = g a) : l.mapM f = l.mapM g := by
  induction l with
  | nil => rfl
  | cons a rest ih =>
    obtain ⟨head_eq, rest_eq⟩ := List.forall_mem_cons.mp same
    rw [List.mapM_cons, List.mapM_cons, head_eq, ih rest_eq]

/-- A traversal fails at the first element at which its step fails. -/
theorem mapM_eq_error_iff {e : ε} :
    l.mapM f = .error e ↔ ∃ (i : Nat) (a : α), l[i]? = some a ∧ f a = .error e ∧
      ∀ j < i, ∀ b, l[j]? = some b → ∃ c, f b = .ok c := by
  induction l with
  | nil =>
    constructor
    · rintro ⟨⟩
    · rintro ⟨i, a, ⟨⟩, -⟩
  | cons a rest ih =>
    rw [List.mapM_cons]
    cases head_eq : f a with
    | error e' =>
      constructor
      · rintro ⟨⟩
        exact ⟨0, a, rfl, head_eq, fun j j_lt ↦ absurd j_lt (Nat.not_lt_zero j)⟩
      · rintro ⟨_ | i, b, b_at, failed, earlier⟩
        · cases b_at
          cases head_eq.symm.trans failed
          rfl
        · obtain ⟨c, ok_eq⟩ := earlier 0 (Nat.succ_pos i) a rfl
          cases head_eq.symm.trans ok_eq
    | ok c =>
      have tail_iff : (Except.ok c >>= fun c ↦ return c :: (← rest.mapM f)) = .error e ↔
          rest.mapM f = .error e := bind_pure_eq_error_iff
      rw [tail_iff, ih]
      constructor
      · rintro ⟨i, b, b_at, failed, earlier⟩
        refine ⟨i + 1, b, b_at, failed, ?_⟩
        rintro (_ | j) j_lt b b_at
        · cases b_at
          exact ⟨c, head_eq⟩
        · exact earlier j (Nat.lt_of_succ_lt_succ j_lt) b b_at
      · rintro ⟨_ | i, b, b_at, failed, earlier⟩
        · cases b_at
          cases head_eq.symm.trans failed
        · exact ⟨i, b, b_at, failed, fun j j_lt ↦ earlier (j + 1) (Nat.succ_lt_succ j_lt)⟩

end Traversal

/-! ## Addresses -/

/-- Among the fields whose names pass a value stands at a place. -/
def Fields.ShowsAt (keep : String → Bool) (fields : Fields) (place : Nat) (value : Value) : Prop :=
  ∃ name, (fields.keeping keep)[place]? = some (name, value)

namespace RenderSettings

/-- Inside of the objects of a path, a value holds another one at a place.  The other one lies
inside of the same objects, and inside of the value if that is an object. -/
inductive Holds (settings : RenderSettings) (objects : ObjectTable) :
    (path : List ObjectId) → Value → (place : Nat) → (inner : List ObjectId) → Value → Prop
  | item {path items place held} : items[place]? = some held →
      Holds settings objects path (.list items) place path held
  | entry {path entries place held} :
      Fields.ShowsAt settings.filter.includes entries place held →
      Holds settings objects path (.map entries) place path held
  | field {path typeName fields place held} :
      Fields.ShowsAt settings.filter.includes fields place held →
      Holds settings objects path (.record typeName fields) place path held
  | exposed {path id fields place held} : id ∉ path → (objects id).fields = .ok fields →
      fields.ShowsAt settings.filter.includes place held →
      Holds settings objects path (.object id) place (id :: path) held

/-- At some depth, inside of the objects of a path, a value leads to an object at an address. -/
inductive Reaches (settings : RenderSettings) (objects : ObjectTable) :
    (depth : Nat) → (path : List ObjectId) → Value → (address : List Nat) → ObjectId → Prop
  | self {depth path id} : depth ≤ settings.maxDepth → id ∉ path →
      Reaches settings objects depth path (.object id) [] id
  | held {depth path value place inner held address id} : depth ≤ settings.maxDepth →
      Holds settings objects path value place inner held →
      Reaches settings objects (depth + 1) inner held address id →
      Reaches settings objects depth path value (place :: address) id

/-- The object at an address does not expose its fields, and all objects at lesser addresses do. -/
structure FailsFirst (settings : RenderSettings) (objects : ObjectTable) (depth : Nat)
    (path : List ObjectId) (value : Value) (address : List Nat) (id : ObjectId) (reason : String) :
    Prop where
  reaches : settings.Reaches objects depth path value address id
  fields_eq : (objects id).fields = .error reason
  earlier : ∀ lesser other, settings.Reaches objects depth path value lesser other →
    lesser < address → ∃ fields, (objects other).fields = .ok fields

variable {settings : RenderSettings} {objects : ObjectTable} {depth : Nat} {path : List ObjectId}
  {value : Value}

section Holds

variable {place : Nat} {inner : List ObjectId} {held : Value}

theorem holds_list_iff {items : List Value} :
    settings.Holds objects path (.list items) place inner held ↔
      inner = path ∧ items[place]? = some held := by
  constructor
  · rintro ⟨item_at⟩
    exact ⟨rfl, item_at⟩
  · rintro ⟨rfl, item_at⟩
    exact .item item_at

theorem holds_map_iff {entries : Fields} :
    settings.Holds objects path (.map entries) place inner held ↔
      inner = path ∧ entries.ShowsAt settings.filter.includes place held := by
  constructor
  · rintro (_ | ⟨shows_at⟩)
    exact ⟨rfl, shows_at⟩
  · rintro ⟨rfl, shows_at⟩
    exact .entry shows_at

theorem holds_record_iff {typeName : String} {fields : Fields} :
    settings.Holds objects path (.record typeName fields) place inner held ↔
      inner = path ∧ fields.ShowsAt settings.filter.includes place held := by
  constructor
  · rintro (_ | _ | ⟨shows_at⟩)
    exact ⟨rfl, shows_at⟩
  · rintro ⟨rfl, shows_at⟩
    exact .field shows_at

theorem holds_object_iff {id : ObjectId} {fields : Fields} (outside : id ∉ path)
    (fields_eq : (objects id).fields = .ok fields) :
    settings.Holds objects path (.object id) place inner held ↔
      inner = id :: path ∧ fields.ShowsAt settings.filter.includes place held := by
  constructor
  · rintro (_ | _ | _ | ⟨-, exposed_eq, shows_at⟩)
    cases fields_eq.symm.trans exposed_eq
    exact ⟨rfl, shows_at⟩
  · rintro ⟨rfl, shows_at⟩
    exact .exposed outside fields_eq shows_at

/-- An object that holds something lies outside of itself and exposes its fields. -/
theorem Holds.exposes {id : ObjectId}
    (holds : settings.Holds objects path (.object id) place inner held) :
    id ∉ path ∧ ∃ fields, (objects id).fields = .ok fields := by
  rcases holds with _ | _ | _ | ⟨outside, fields_eq, _⟩
  exact ⟨outside, _, fields_eq⟩

theorem showsAt_unique {keep : String → Bool} {fields : Fields} {other : Value}
    (shows_at : fields.ShowsAt keep place held) (other_shows : fields.ShowsAt keep place other) :
    other = held := by
  obtain ⟨name, field_at⟩ := shows_at
  obtain ⟨otherName, other_at⟩ := other_shows
  cases field_at.symm.trans other_at
  rfl

/-- A value holds one value at a place. -/
theorem Holds.unique (holds : settings.Holds objects path value place inner held)
    {other : List ObjectId} {otherHeld : Value}
    (other_holds : settings.Holds objects path value place other otherHeld) :
    other = inner ∧ otherHeld = held := by
  cases holds with
  | item item_at =>
    obtain ⟨other_eq, other_at⟩ := holds_list_iff.mp other_holds
    exact ⟨other_eq, Option.some_inj.mp (other_at.symm.trans item_at)⟩
  | entry shows_at =>
    exact (holds_map_iff.mp other_holds).imp_right (showsAt_unique shows_at)
  | field shows_at =>
    exact (holds_record_iff.mp other_holds).imp_right (showsAt_unique shows_at)
  | exposed outside fields_eq shows_at =>
    exact ((holds_object_iff outside fields_eq).mp other_holds).imp_right (showsAt_unique shows_at)

end Holds

/-! ## Obstacles level by level -/

section Level

variable {obstacle : Obstacle}

/-- Fields have the obstacle of the first shown value that has one. -/
theorem fieldDocuments_eq_error_iff {document : Value → Except Obstacle Json} {fields : Fields} :
    settings.fieldDocuments document fields = .error obstacle ↔
      ∃ place held, fields.ShowsAt settings.filter.includes place held ∧
        document held = .error obstacle ∧ ∀ lesser < place, ∀ other,
          fields.ShowsAt settings.filter.includes lesser other → ∃ j, document other = .ok j := by
  rw [fieldDocuments, bind_pure_eq_error_iff, mapM_eq_error_iff]
  simp only [bind_pure_eq_error_iff, exists_bind_pure_eq_ok_iff]
  constructor
  · rintro ⟨place, ⟨name, held⟩, field_at, failed, earlier⟩
    refine ⟨place, held, ⟨name, field_at⟩, failed, fun lesser lesser_lt other ↦ ?_⟩
    rintro ⟨otherName, other_at⟩
    exact earlier lesser lesser_lt _ other_at
  · rintro ⟨place, held, ⟨name, field_at⟩, failed, earlier⟩
    exact ⟨place, _, field_at, failed, fun lesser lesser_lt other other_at ↦
      earlier lesser lesser_lt other.2 ⟨other.1, other_at⟩⟩

/-- Of the values that a value holds, the first one that has an obstacle has this one, where
`document` gives the documents of values inside of some objects. -/
def HoldsFirst (settings : RenderSettings) (objects : ObjectTable) (path : List ObjectId)
    (value : Value) (document : List ObjectId → Value → Except Obstacle Json)
    (obstacle : Obstacle) : Prop :=
  ∃ place inner held, settings.Holds objects path value place inner held ∧
    document inner held = .error obstacle ∧ ∀ lesser < place, ∀ other otherHeld,
      settings.Holds objects path value lesser other otherHeld →
        ∃ j, document other otherHeld = .ok j

/-- It is enough to know inside of which objects the values lie that a value holds, and where. -/
theorem holdsFirst_iff {document : List ObjectId → Value → Except Obstacle Json}
    {inner : List ObjectId} {stands : Nat → Value → Prop}
    (holds_iff : ∀ {place other held}, settings.Holds objects path value place other held ↔
      other = inner ∧ stands place held) :
    settings.HoldsFirst objects path value document obstacle ↔
      ∃ place held, stands place held ∧ document inner held = .error obstacle ∧
        ∀ lesser < place, ∀ other, stands lesser other → ∃ j, document inner other = .ok j := by
  constructor
  · rintro ⟨place, other, held, holds, failed, earlier⟩
    obtain ⟨rfl, stands_at⟩ := holds_iff.mp holds
    exact ⟨place, held, stands_at, failed, fun lesser lesser_lt held stands ↦
      earlier lesser lesser_lt other held (holds_iff.mpr ⟨rfl, stands⟩)⟩
  · rintro ⟨place, held, stands_at, failed, earlier⟩
    refine ⟨place, inner, held, holds_iff.mpr ⟨rfl, stands_at⟩, failed, ?_⟩
    intro lesser lesser_lt other otherHeld holds
    obtain ⟨rfl, stands⟩ := holds_iff.mp holds
    exact earlier lesser lesser_lt otherHeld stands

/-- A value has the obstacle of the first value that it holds and that has one, unless it is itself
an object that does not expose its fields. -/
theorem project_succ_eq_error_iff (total : settings.dateFormat.IsTotal) {room : Nat} :
    settings.project objects (room + 1) path value = .error obstacle ↔
      (∃ id reason, value = .object id ∧ id ∉ path ∧ (objects id).fields = .error reason ∧
        obstacle = .fields (objects id).typeName reason) ∨
      settings.HoldsFirst objects path value (settings.project objects room) obstacle := by
  cases value with
  | null | bool | int | float | text | bytes =>
    constructor
    · rintro ⟨⟩
    · rintro (⟨_, _, ⟨⟩, _⟩ | ⟨_, _, _, ⟨⟩, _⟩)
  | timestamp t =>
    obtain ⟨s, text_eq⟩ := total t
    rw [project, timestampDocument, text_eq]
    constructor
    · rintro ⟨⟩
    · rintro (⟨_, _, ⟨⟩, _⟩ | ⟨_, _, _, ⟨⟩, _⟩)
  | list items =>
    rw [project, bind_pure_eq_error_iff, mapM_eq_error_iff, holdsFirst_iff holds_list_iff]
    refine (or_iff_right ?_).symm
    rintro ⟨_, _, ⟨⟩, -⟩
  | map entries =>
    rw [project, fieldDocuments_eq_error_iff, holdsFirst_iff holds_map_iff]
    refine (or_iff_right ?_).symm
    rintro ⟨_, _, ⟨⟩, -⟩
  | record typeName fields =>
    rw [project, fieldDocuments_eq_error_iff, holdsFirst_iff holds_record_iff]
    refine (or_iff_right ?_).symm
    rintro ⟨_, _, ⟨⟩, -⟩
  | object id =>
    by_cases inside : id ∈ path
    · rw [project, if_pos inside]
      constructor
      · rintro ⟨⟩
      · rintro (⟨_, _, ⟨⟩, outside, _⟩ | ⟨_, _, _, holds, _⟩)
        · exact absurd inside outside
        · exact absurd inside holds.exposes.1
    · rw [project, if_neg inside]
      cases fields_eq : (objects id).fields with
      | error reason =>
        constructor
        · rintro ⟨⟩
          exact .inl ⟨id, reason, rfl, inside, fields_eq, rfl⟩
        · rintro (⟨_, _, ⟨⟩, -, reason_eq, rfl⟩ | ⟨_, _, _, holds, _⟩)
          · cases fields_eq.symm.trans reason_eq
            rfl
          · obtain ⟨-, fields, exposed_eq⟩ := holds.exposes
            cases fields_eq.symm.trans exposed_eq
      | ok fields =>
        rw [holdsFirst_iff (holds_object_iff inside fields_eq), ← fieldDocuments_eq_error_iff]
        refine (or_iff_right ?_).symm
        rintro ⟨_, _, ⟨⟩, -, reason_eq, -⟩
        cases fields_eq.symm.trans reason_eq

/-- If some value that a value holds has an obstacle, there is a first one. -/
theorem exists_holdsFirst {document : List ObjectId → Value → Except Obstacle Json} {place : Nat}
    {inner : List ObjectId} {held : Value}
    (holds : settings.Holds objects path value place inner held)
    (failed : document inner held = .error obstacle) :
    ∃ first, settings.HoldsFirst objects path value document first := by
  induction place using Nat.strongRecOn generalizing inner held obstacle with
  | ind place ih =>
    by_cases earlier : ∃ lesser < place, ∃ other otherHeld otherObstacle,
        settings.Holds objects path value lesser other otherHeld ∧
          document other otherHeld = .error otherObstacle
    · obtain ⟨lesser, lesser_lt, other, otherHeld, otherObstacle, holds, failed⟩ := earlier
      exact ih lesser lesser_lt holds failed
    · refine ⟨obstacle, place, inner, held, holds, failed, ?_⟩
      intro lesser lesser_lt other otherHeld holds
      cases document_eq : document other otherHeld with
      | ok j => exact ⟨j, rfl⟩
      | error otherObstacle =>
        exact absurd ⟨lesser, lesser_lt, other, otherHeld, otherObstacle, holds, document_eq⟩
          earlier

end Level

/-! ## Obstacles and reached objects -/

section Reach

variable (total : settings.dateFormat.IsTotal) {room : Nat}

include total

/-- A value has a document if and only if all objects that it leads to expose their fields. -/
theorem exists_project_eq_ok_iff_reaches (room_eq : settings.maxDepth + 1 - depth = room) :
    (∃ j, settings.project objects room path value = .ok j) ↔
      ∀ address id, settings.Reaches objects depth path value address id →
        ∃ fields, (objects id).fields = .ok fields := by
  induction room generalizing depth path value with
  | zero =>
    refine ⟨fun _ address id reaches ↦ ?_, fun _ ↦ ⟨.null, rfl⟩⟩
    cases reaches <;> omega
  | succ room ih =>
    have shallow : depth ≤ settings.maxDepth := by omega
    have inner_eq : settings.maxDepth + 1 - (depth + 1) = room := by omega
    constructor
    · rintro ⟨j, ok_eq⟩ address id reaches
      cases reaches with
      | self _ outside =>
        cases fields_eq : (objects id).fields with
        | ok fields => exact ⟨fields, rfl⟩
        | error reason =>
          have failed : settings.project objects (room + 1) path (.object id) = .error _ :=
            (project_succ_eq_error_iff total).mpr (.inl ⟨id, reason, rfl, outside, fields_eq, rfl⟩)
          cases ok_eq.symm.trans failed
      | held _ holds reaches =>
        cases held_eq : settings.project objects room _ _ with
        | ok j => exact (ih inner_eq).mp ⟨j, held_eq⟩ _ _ reaches
        | error obstacle =>
          obtain ⟨first, holds_first⟩ := exists_holdsFirst holds held_eq
          cases ok_eq.symm.trans ((project_succ_eq_error_iff total).mpr (.inr holds_first))
    · intro exposes
      cases project_eq : settings.project objects (room + 1) path value with
      | ok j => exact ⟨j, rfl⟩
      | error obstacle =>
        rcases (project_succ_eq_error_iff total).mp project_eq with
          ⟨id, reason, rfl, outside, fields_eq, -⟩ | ⟨place, inner, held, holds, failed, -⟩
        · obtain ⟨fields, exposed_eq⟩ := exposes [] id (.self shallow outside)
          cases fields_eq.symm.trans exposed_eq
        · obtain ⟨j, ok_eq⟩ := (ih inner_eq).mpr fun address id reaches ↦
            exposes (place :: address) id (.held shallow holds reaches)
          cases failed.symm.trans ok_eq

/-- **The object that fails first.**  A value has an obstacle if and only if it leads to an object
that does not expose its fields, and the obstacle is the one of these with the least address. -/
theorem project_eq_error_iff_failsFirst (room_eq : settings.maxDepth + 1 - depth = room)
    {obstacle : Obstacle} :
    settings.project objects room path value = .error obstacle ↔
      ∃ address id reason, settings.FailsFirst objects depth path value address id reason ∧
        obstacle = .fields (objects id).typeName reason := by
  induction room generalizing depth path value with
  | zero =>
    constructor
    · rintro ⟨⟩
    · rintro ⟨address, id, reason, fails, -⟩
      cases fails.reaches <;> omega
  | succ room ih =>
    have shallow : depth ≤ settings.maxDepth := by omega
    have inner_eq : settings.maxDepth + 1 - (depth + 1) = room := by omega
    rw [project_succ_eq_error_iff total]
    constructor
    · rintro (⟨id, reason, rfl, outside, fields_eq, rfl⟩ |
        ⟨place, inner, held, holds, failed, earlier⟩)
      · exact ⟨[], id, reason, ⟨.self shallow outside, fields_eq, fun lesser other _ lesser_lt ↦
          absurd lesser_lt (List.not_lt_nil lesser)⟩, rfl⟩
      · obtain ⟨address, id, reason, fails, obstacle_eq⟩ := (ih inner_eq).mp failed
        refine ⟨place :: address, id, reason, ⟨.held shallow holds fails.reaches, fails.fields_eq,
          fun lesser other reaches lesser_lt ↦ ?_⟩, obstacle_eq⟩
        -- The value itself comes before what it holds, then the values in the order of places.
        cases reaches with
        | self => exact holds.exposes.2
        | held _ other_holds reaches =>
          rcases List.cons_lt_cons_iff.mp lesser_lt with place_lt | ⟨rfl, address_lt⟩
          · obtain ⟨j, ok_eq⟩ := earlier _ place_lt _ _ other_holds
            exact (exists_project_eq_ok_iff_reaches total inner_eq).mp ⟨j, ok_eq⟩ _ _ reaches
          · obtain ⟨rfl, rfl⟩ := holds.unique other_holds
            exact fails.earlier _ _ reaches address_lt
    · rintro ⟨_, id, reason, ⟨reaches, fields_eq, earlier⟩, rfl⟩
      cases reaches with
      | self _ outside => exact .inl ⟨id, reason, rfl, outside, fields_eq, rfl⟩
      | @held _ _ _ place inner held address _ _ holds reaches =>
        refine .inr ⟨place, inner, held, holds, (ih inner_eq).mpr ⟨address, id, reason,
          ⟨reaches, fields_eq, fun lesser other other_reaches lesser_lt ↦ ?_⟩, rfl⟩,
          fun lesser lesser_lt other otherHeld other_holds ↦ ?_⟩
        · exact earlier (place :: lesser) other (.held shallow holds other_reaches)
            (List.cons_lt_cons_iff.mpr (.inr ⟨rfl, lesser_lt⟩))
        · refine (exists_project_eq_ok_iff_reaches total inner_eq).mpr fun below other reaches ↦ ?_
          exact earlier (lesser :: below) other (.held shallow other_holds reaches)
            (List.cons_lt_cons_iff.mpr (.inl lesser_lt))

end Reach

/-- A projection depends on the objects that the value leads to and on no other ones. -/
theorem project_congr {others : ObjectTable} {room : Nat}
    (room_eq : settings.maxDepth + 1 - depth = room)
    (same : ∀ address id, settings.Reaches objects depth path value address id →
      (others id).fields = (objects id).fields ∧ (others id).typeName = (objects id).typeName) :
    settings.project others room path value = settings.project objects room path value := by
  induction room generalizing depth path value with
  | zero => rfl
  | succ room ih =>
    have shallow : depth ≤ settings.maxDepth := by omega
    have held_eq {place : Nat} {inner : List ObjectId} {held : Value}
        (holds : settings.Holds objects path value place inner held) :
        settings.project others room inner held = settings.project objects room inner held :=
      ih (by omega) fun address id reaches ↦
        same (place :: address) id (.held shallow holds reaches)
    have fields_eq {fields : Fields} {inner : List ObjectId}
        (holds : ∀ {place held}, fields.ShowsAt settings.filter.includes place held →
          settings.Holds objects path value place inner held) :
        settings.fieldDocuments (settings.project others room inner) fields =
          settings.fieldDocuments (settings.project objects room inner) fields := by
      rw [fieldDocuments, fieldDocuments]
      congr 1
      refine mapM_congr_of_mem fun field mem ↦ ?_
      obtain ⟨place, field_at⟩ := List.mem_iff_getElem?.mp mem
      rw [held_eq (holds ⟨field.1, field_at⟩)]
    cases value with
    | null | bool | int | float | text | bytes | timestamp => rfl
    | list items =>
      rw [project, project]
      congr 1
      refine mapM_congr_of_mem fun item mem ↦ ?_
      obtain ⟨place, item_at⟩ := List.mem_iff_getElem?.mp mem
      exact held_eq (.item item_at)
    | map entries => exact fields_eq .entry
    | record typeName fields => exact fields_eq .field
    | object id =>
      by_cases inside : id ∈ path
      · rw [project, project, if_pos inside, if_pos inside]
      · obtain ⟨same_fields, same_typeName⟩ := same [] id (.self shallow inside)
        rw [project, project, if_neg inside, if_neg inside, same_fields, same_typeName]
        cases exposed_eq : (objects id).fields with
        | error reason => rfl
        | ok fields => exact fields_eq (.exposed inside exposed_eq)

end RenderSettings

end AuditTrail
