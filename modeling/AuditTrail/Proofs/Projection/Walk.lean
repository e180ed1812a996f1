import AuditTrail.Render.Projection

/-!
# The walk over an object graph

The document of a value is made in a walk that asks each object for its fields when it comes to it.
An object may build its fields anew at every call, so that there is no tree to recurse over: behind
any object there may be any other one, the same one included.  What ends the walk is that it counts
how deep it is, and keeps a stack of the objects that it is inside of.

Here the walk has its stack as a state, which every step has to leave as it was, and the answers of
objects may depend on everything that was asked before.  Fuel bounds how far the walk calls itself.
It is told apart from the depth, which the walk looks at, so that it can be said that there is
always enough of it.
-/

namespace AuditTrail

/-- How objects answer when they are asked for their fields.  The answer may depend on the objects
that have been asked before, the last one first. -/
abbrev FieldSource :=
  (asked : List ObjectId) → ObjectId → Except String Fields

/-- The fields in a table, which are the same at every call. -/
def ObjectTable.source (objects : ObjectTable) : FieldSource :=
  fun _ id ↦ (objects id).fields

/-- What a walk keeps. -/
structure WalkState where
  /-- The objects that the walk is inside of, the innermost first. -/
  visiting : List ObjectId := []
  /-- The objects that have been asked for their fields, the last one first. -/
  asked : List ObjectId := []
  /-- The path to each value that has been met: the objects whose fields lead to it. -/
  paths : List (List ObjectId) := []

/-- A walk that may come upon an obstacle, or to no end. -/
abbrev Walk :=
  ExceptT Obstacle (StateT WalkState Option)

namespace Walk

variable {α β : Type}

/-- A walk inside of an object, however it ends. -/
def inside (id : ObjectId) (walk : Walk α) : Walk α := fun st ↦ do
  let (outcome, st) ← walk { st with visiting := id :: st.visiting }
  return (outcome, { st with visiting := st.visiting.tail })

/-- A walk that comes to no end. -/
def endless : Walk α :=
  fun _ ↦ none

/-- An object is asked for its fields. -/
def ask (source : FieldSource) (id : ObjectId) : Walk (Except String Fields) := fun st ↦
  some (.ok (source st.asked id), { st with asked := id :: st.asked })

/-- A value is met at the end of a path. -/
def meet (path : List ObjectId) : Walk Unit :=
  modify fun st ↦ { st with paths := path :: st.paths }

end Walk

namespace RenderSettings

/-- The walk over the fields whose names pass, where `walk` is the walk over a value. -/
def walkFields (settings : RenderSettings) (walk : Value → Walk Json) (fields : Fields) :
    Walk Json := do
  let members ← (fields.keeping settings.filter.includes).mapM fun field ↦
    return (field.1, ← walk field.2)
  return .obj members

/-- The walk over a value at some depth, where `walk` is the walk over what the value holds, by the
path to it. -/
def walkNode (settings : RenderSettings) (objects : ObjectTable) (source : FieldSource)
    (walk : List ObjectId → Value → Walk Json) (depth : Nat) (path : List ObjectId)
    (value : Value) : Walk Json := do
  Walk.meet path
  if settings.maxDepth < depth then
    return .null
  else
    match value with
    | .null => return .null
    | .bool b => return .bool b
    | .int n => return .int n
    | .float x => return if x.isFinite then .float x else .null
    | .text s => return .str s
    | .bytes data => return .str (Text.Base64.encode data)
    | .timestamp t => ofExcept (settings.timestampDocument t)
    | .list items => return .arr (← items.mapM (walk path))
    | .map entries => settings.walkFields (walk path) entries
    | .record _ fields => settings.walkFields (walk path) fields
    | .object id =>
      if id ∈ (← get).visiting then
        return .null
      else
        match ← Walk.ask source id with
        | .ok fields => Walk.inside id (settings.walkFields (walk (id :: path)) fields)
        | .error reason => throw (.fields (objects id).typeName reason)

/-- The walk over a value at some depth. -/
def walk (settings : RenderSettings) (objects : ObjectTable) (source : FieldSource) :
    (fuel depth : Nat) → (path : List ObjectId) → Value → Walk Json
  | 0, _, _, _ => Walk.endless
  | fuel + 1, depth, path, value =>
    settings.walkNode objects source (walk settings objects source fuel (depth + 1)) depth path
      value

end RenderSettings

/-! ## Walks that end -/

/-- A walk is inside of the objects of a path, and has met values only on paths on which no object
occurs twice. -/
structure WalkState.Sound (path : List ObjectId) (st : WalkState) : Prop where
  visiting : st.visiting = path
  nodup : ∀ path ∈ st.paths, path.Nodup

namespace Walk

variable {α β : Type} {path : List ObjectId}

/-- Inside of the objects of a path, a walk comes to an end, with some kind of outcome, and is
inside of the same objects as before. -/
def Ends (path : List ObjectId) (outcome : Except Obstacle α → Prop) (walk : Walk α) : Prop :=
  ∀ st : WalkState, st.Sound path →
    ∃ result after, walk st = some (result, after) ∧ outcome result ∧ after.Sound path

theorem Ends.mono {walk : Walk α} {first outcome : Except Obstacle α → Prop}
    (ends : walk.Ends path first) (imp : ∀ result, first result → outcome result) :
    walk.Ends path outcome := by
  intro st sound
  obtain ⟨result, after, walk_eq, holds, after_sound⟩ := ends st sound
  exact ⟨result, after, walk_eq, imp result holds, after_sound⟩

theorem ends_pure {outcome : Except Obstacle α → Prop} {a : α} (ok : outcome (.ok a)) :
    Ends path outcome (pure a) :=
  fun st sound ↦ ⟨.ok a, st, rfl, ok, sound⟩

theorem ends_throw {outcome : Except Obstacle α → Prop} {e : Obstacle}
    (error : outcome (.error e)) : Ends path outcome (throw e) :=
  fun st sound ↦ ⟨.error e, st, rfl, error, sound⟩

theorem ends_ofExcept {outcome : Except Obstacle α → Prop} {result : Except Obstacle α}
    (holds : outcome result) : Ends path outcome (ofExcept result) := by
  cases result with
  | ok a => exact ends_pure holds
  | error e => exact ends_throw holds

/-- A walk goes on unless it has come upon an obstacle. -/
theorem Ends.bind {walk : Walk α} {next : α → Walk β} {first : Except Obstacle α → Prop}
    {outcome : Except Obstacle β → Prop} (ends : walk.Ends path first)
    (ok : ∀ a, first (.ok a) → (next a).Ends path outcome)
    (error : ∀ e, first (.error e) → outcome (.error e)) : (walk >>= next).Ends path outcome := by
  intro st sound
  obtain ⟨result, after, walk_eq, holds, after_sound⟩ := ends st sound
  have bind_eq : (walk >>= next) st = (walk st).bind fun (result, after) ↦
      match result with
      | .ok a => next a after
      | .error e => some (.error e, after) := by
    refine Option.bind_congr fun (result, after) _ ↦ ?_
    cases result <;> rfl
  rw [bind_eq, walk_eq]
  cases result with
  | ok a => exact ok a holds after after_sound
  | error e => exact ⟨.error e, after, rfl, error e holds, after_sound⟩

theorem ends_meet (nodup : path.Nodup) : Ends path (· = .ok ()) (meet path) :=
  fun st sound ↦ ⟨.ok (), { st with paths := path :: st.paths }, rfl, rfl, sound.visiting,
    List.forall_mem_cons.mpr ⟨nodup, sound.nodup⟩⟩

theorem ends_get :
    Ends path (fun result ↦ ∃ st : WalkState, result = .ok st ∧ st.visiting = path) get :=
  fun st sound ↦ ⟨.ok st, st, rfl, ⟨st, rfl, sound.visiting⟩, sound⟩

theorem ends_ask (source : FieldSource) (id : ObjectId) :
    Ends path (fun result ↦ ∃ asked, result = .ok (source asked id)) (ask source id) :=
  fun st sound ↦ ⟨_, _, rfl, ⟨st.asked, rfl⟩, sound.visiting, sound.nodup⟩

/-- A walk inside of an object leaves it. -/
theorem Ends.inside {walk : Walk α} {outcome : Except Obstacle α → Prop} {id : ObjectId}
    (ends : walk.Ends (id :: path) outcome) : (walk.inside id).Ends path outcome := by
  intro st sound
  obtain ⟨result, after, walk_eq, holds, after_sound⟩ :=
    ends { st with visiting := id :: st.visiting }
      ⟨congrArg (id :: ·) sound.visiting, sound.nodup⟩
  refine ⟨result, { after with visiting := after.visiting.tail }, ?_, holds, ?_, after_sound.nodup⟩
  · rw [Walk.inside, walk_eq]
    rfl
  · exact congrArg List.tail after_sound.visiting

/-- An outcome that is within some bounds if it is no obstacle, and the expected one under a
condition. -/
structure Gives (bounded : α → Prop) (condition : Prop) (expected result : Except Obstacle α) :
    Prop where
  bounded : ∀ a, result = .ok a → bounded a
  eq_expected : condition → result = expected

section Gives

variable {bounded : α → Prop} {condition : Prop} {expected : Except Obstacle α}

theorem ends_pure_gives {a : α} (holds : bounded a) :
    Ends path (Gives bounded condition (.ok a)) (pure a) :=
  ends_pure ⟨fun _ a_eq ↦ Except.ok.inj a_eq ▸ holds, fun _ ↦ rfl⟩

theorem Ends.map_gives {walk : Walk α} (ends : walk.Ends path (Gives bounded condition expected))
    {f : α → β} {image : β → Prop} (holds : ∀ a, bounded a → image (f a)) :
    Ends path (Gives image condition (do return f (← expected))) (do return f (← walk)) := by
  refine ends.bind (fun a gives ↦ ends_pure ⟨?_, ?_⟩) (fun e gives ↦ ⟨nofun, ?_⟩)
  · rintro _ ⟨⟩
    exact holds a (gives.bounded a rfl)
  · intro meets
    rw [← gives.eq_expected meets]
    rfl
  · intro meets
    rw [← gives.eq_expected meets]
    rfl

/-- A traversal ends if its steps do. -/
theorem ends_mapM_gives {step : β → Walk α} {single : β → Except Obstacle α} (l : List β)
    (ends : ∀ b ∈ l, (step b).Ends path (Gives bounded condition (single b))) :
    Ends path (Gives (∀ a ∈ ·, bounded a) condition (l.mapM single)) (l.mapM step) := by
  induction l with
  | nil => exact ends_pure_gives (List.forall_mem_nil _)
  | cons b rest ih =>
    have rest_ends := ih fun b b_mem ↦ ends b (List.mem_cons_of_mem _ b_mem)
    rw [List.mapM_cons, List.mapM_cons]
    refine (ends b List.mem_cons_self).bind (fun a gives ↦ ?_) (fun e gives ↦ ⟨nofun, ?_⟩)
    · refine rest_ends.bind (fun as rest_gives ↦ ends_pure ⟨?_, ?_⟩)
        (fun e rest_gives ↦ ⟨nofun, ?_⟩)
      · rintro _ ⟨⟩
        exact List.forall_mem_cons.mpr ⟨gives.bounded a rfl, rest_gives.bounded as rfl⟩
      · intro meets
        rw [← gives.eq_expected meets, ← rest_gives.eq_expected meets]
        rfl
      · intro meets
        rw [← gives.eq_expected meets, ← rest_gives.eq_expected meets]
        rfl
    · intro meets
      rw [← gives.eq_expected meets]
      rfl

end Gives

end Walk

/-! ## Nesting -/

namespace Json

mutual

/-- How many arrays and objects are nested in each other at most. -/
def nesting : Json → Nat
  | arr items => itemsNesting items + 1
  | obj members => membersNesting members + 1
  | _ => 0

/-- The nesting of the items of an array. -/
def itemsNesting : List Json → Nat
  | [] => 0
  | item :: rest => max (nesting item) (itemsNesting rest)

/-- The nesting of the members of an object. -/
def membersNesting : List (String × Json) → Nat
  | [] => 0
  | (_, value) :: rest => max (nesting value) (membersNesting rest)

end

theorem itemsNesting_le {n : Nat} {items : List Json} (le : ∀ j ∈ items, j.nesting ≤ n) :
    itemsNesting items ≤ n := by
  induction items with
  | nil => exact Nat.zero_le n
  | cons item rest ih =>
    obtain ⟨item_le, rest_le⟩ := List.forall_mem_cons.mp le
    exact Nat.max_le.mpr ⟨item_le, ih rest_le⟩

theorem membersNesting_le {n : Nat} {members : List (String × Json)}
    (le : ∀ member ∈ members, member.2.nesting ≤ n) : membersNesting members ≤ n := by
  induction members with
  | nil => exact Nat.zero_le n
  | cons member rest ih =>
    obtain ⟨member_le, rest_le⟩ := List.forall_mem_cons.mp le
    exact Nat.max_le.mpr ⟨member_le, ih rest_le⟩

end Json

/-! ## The walk ends -/

namespace RenderSettings

variable {settings : RenderSettings} {objects : ObjectTable} {source : FieldSource}

/-- What comes of a walk with some room: a document that is not nested deeper or an obstacle, which
is that of the projection if objects have the same fields at every call. -/
def Projects (settings : RenderSettings) (objects : ObjectTable) (source : FieldSource)
    (room : Nat) (path : List ObjectId) (value : Value) : Except Obstacle Json → Prop :=
  Walk.Gives (·.nesting ≤ room) (source = objects.source)
    (settings.project objects room path value)

section Node

variable {room : Nat} {path : List ObjectId} {walk : Value → Walk Json}
  (ends : ∀ value, (walk value).Ends path (settings.Projects objects source room path value))

include ends

theorem ends_walkFields (fields : Fields) :
    (settings.walkFields walk fields).Ends path
      (Walk.Gives (·.nesting ≤ room + 1) (source = objects.source)
        (settings.fieldDocuments (settings.project objects room path) fields)) := by
  have member_ends (field : String × Value) :
      Walk.Ends path (Walk.Gives (fun member : String × Json ↦ member.2.nesting ≤ room) _ _)
        (do return (field.1, ← walk field.2)) :=
    (ends field.2).map_gives fun _ le ↦ le
  refine (Walk.ends_mapM_gives _ fun field _ ↦ member_ends field).map_gives fun members le ↦ ?_
  exact Nat.succ_le_succ (Json.membersNesting_le le)

theorem ends_walkItems (items : List Value) :
    Walk.Ends path
      (Walk.Gives (fun j : Json ↦ j.nesting ≤ room + 1) (source = objects.source)
        (do return .arr (← items.mapM (settings.project objects room path))))
      (do return Json.arr (← items.mapM walk)) := by
  refine (Walk.ends_mapM_gives items fun item _ ↦ ends item).map_gives fun documents le ↦ ?_
  exact Nat.succ_le_succ (Json.itemsNesting_le le)

end Node

/-- The walk over a value ends if the walk over what the value holds does. -/
theorem ends_walkNode {walk : List ObjectId → Value → Walk Json} {depth : Nat}
    (ends : depth ≤ settings.maxDepth → ∀ path, path.Nodup → ∀ value, (walk path value).Ends path
      (settings.Projects objects source (settings.maxDepth + 1 - (depth + 1)) path value))
    {path : List ObjectId} (nodup : path.Nodup) (value : Value) :
    (settings.walkNode objects source walk depth path value).Ends path
      (settings.Projects objects source (settings.maxDepth + 1 - depth) path value) := by
  refine (Walk.ends_meet nodup).bind (fun _ _ ↦ ?_) nofun
  by_cases deep : settings.maxDepth < depth
  · rw [if_pos deep, Projects, Nat.sub_eq_zero_of_le deep]
    exact Walk.ends_pure_gives (Nat.zero_le _)
  rw [Nat.add_sub_add_right] at ends
  replace ends := ends (Nat.not_lt.mp deep)
  rw [if_neg deep, Projects, Nat.sub_add_comm (Nat.not_lt.mp deep)]
  cases value with
  | null | bool | int | text | bytes => exact Walk.ends_pure_gives (Nat.zero_le _)
  | float x =>
    refine Walk.ends_pure_gives ?_
    split <;> exact Nat.zero_le _
  | timestamp t =>
    refine Walk.ends_ofExcept ⟨fun j j_eq ↦ ?_, fun _ ↦ rfl⟩
    rw [timestampDocument] at j_eq
    split at j_eq <;> cases j_eq
    exact Nat.zero_le _
  | list items => exact ends_walkItems (ends path nodup) items
  | map entries => exact ends_walkFields (ends path nodup) entries
  | record typeName fields => exact ends_walkFields (ends path nodup) fields
  | object id =>
    refine Walk.ends_get.bind (fun st found ↦ ?_) nofun
    obtain ⟨_, ⟨⟩, visiting_eq⟩ := found
    rw [project, visiting_eq]
    by_cases inside : id ∈ path
    · rw [if_pos inside, if_pos inside]
      exact Walk.ends_pure_gives (Nat.zero_le _)
    · rw [if_neg inside, if_neg inside]
      refine (Walk.ends_ask source id).bind (fun answer asked ↦ ?_) nofun
      obtain ⟨asked, ⟨⟩⟩ := asked
      have answer_eq (same : source = objects.source) : source asked id = (objects id).fields := by
        rw [same]
        rfl
      cases fields_eq : source asked id with
      | ok fields =>
        have inside_nodup : (id :: path).Nodup := List.nodup_cons.mpr ⟨inside, nodup⟩
        refine (ends_walkFields (ends _ inside_nodup) fields).inside.mono
          fun result gives ↦ ⟨gives.bounded, fun same ↦ ?_⟩
        rw [← answer_eq same, fields_eq]
        exact gives.eq_expected same
      | error reason =>
        refine Walk.ends_throw ⟨nofun, fun same ↦ ?_⟩
        rw [← answer_eq same, fields_eq]

/-- From any depth on the walk ends if it has fuel for what room there is, and for one call more,
which finds that there is none. -/
theorem ends_walk {fuel depth : Nat} (fuel_le : settings.maxDepth + 2 ≤ fuel + depth)
    (fuel_pos : 0 < fuel) {path : List ObjectId} (nodup : path.Nodup) (value : Value) :
    (settings.walk objects source fuel depth path value).Ends path
      (settings.Projects objects source (settings.maxDepth + 1 - depth) path value) := by
  induction fuel generalizing depth path value with
  | zero => exact absurd fuel_pos (Nat.lt_irrefl 0)
  | succ fuel ih =>
    exact ends_walkNode (fun shallow path nodup value ↦ ih (by omega) (by omega) nodup value)
      nodup value

/-- A walk that begins outside of all objects ends outside of them. -/
theorem exists_walk (settings : RenderSettings) (objects : ObjectTable) (source : FieldSource)
    (value : Value) :
    ∃ result after, settings.walk objects source (settings.maxDepth + 2) 0 [] value {} =
        some (result, after) ∧
      settings.Projects objects source (settings.maxDepth + 1) [] value result ∧
      after.Sound [] := by
  have fuel_le : settings.maxDepth + 2 ≤ settings.maxDepth + 2 + 0 := Nat.le_refl _
  exact ends_walk fuel_le (Nat.succ_pos _) List.nodup_nil value {} ⟨rfl, List.forall_mem_nil _⟩

/-- A node that is too deep does not look at what it holds. -/
theorem walkNode_congr {walk other : List ObjectId → Value → Walk Json} {depth : Nat}
    (same : depth ≤ settings.maxDepth → walk = other) :
    settings.walkNode objects source walk depth = settings.walkNode objects source other depth := by
  by_cases deep : settings.maxDepth < depth
  · funext path value
    simp only [walkNode, if_pos deep]
  · rw [same (Nat.not_lt.mp deep)]

/-- More fuel makes no difference. -/
theorem walk_eq_walk {fuel other depth : Nat} (fuel_le : settings.maxDepth + 2 ≤ fuel + depth)
    (other_le : settings.maxDepth + 2 ≤ other + depth) (fuel_pos : 0 < fuel)
    (other_pos : 0 < other) :
    settings.walk objects source fuel depth = settings.walk objects source other depth := by
  induction fuel generalizing other depth with
  | zero => exact absurd fuel_pos (Nat.lt_irrefl 0)
  | succ fuel ih =>
    obtain ⟨other, rfl⟩ := Nat.exists_eq_succ_of_ne_zero (Nat.ne_of_gt other_pos)
    exact walkNode_congr fun shallow ↦ ih (by omega) (by omega) (by omega) (by omega)

end RenderSettings

end AuditTrail
