import SchemaEvolution.Schema.Snapshot
import SchemaEvolution.Wire.Conversion

/-! # Structural supersets

Whether one message can stand in for another: every field of the old message has a field of the
new one under its tag, both or neither repeated, and of a type that can stand in for its type.
References lead to further pairs of messages.  Each pair is expanded once; a pair that was seen
before is taken as satisfied, so recursive messages are compared by the greatest relation that is
closed under these demands.

The walk ends because every expansion uses up a pair of names that exist in the two snapshots.
-/

namespace SchemaEvolution

/-- Two snapshots whose messages are compared, and whether narrowing is tolerated. -/
structure Superset where
  base : Snapshot
  candidate : Snapshot
  allowNarrowing : Bool
deriving Repr, DecidableEq

namespace Superset

/-- Two types that have to be compatible; nothing stands for a demand that cannot be met. -/
abbrev Demand := Option (FieldType × FieldType)

/-- What a field of an old message demands of a new message. -/
def demand (new : MessageType) (f : Field) : Demand :=
  match new.field? f.number with
  | none => none
  | some g =>
    if f.cardinality.isRepeated = g.cardinality.isRepeated then some (f.type, g.type) else none

/-- What an old message demands of a new one, in the order of its fields. -/
def demands (old new : MessageType) : List Demand := old.fields.map (demand new)

/-- Whether every number of an enum is in use in another one. -/
def coversValues (old new : EnumType) : Bool :=
  old.values.all fun v => (new.value? v.number).isSome

/-- Whether one enum can stand in for another. -/
def enums (s : Superset) (old new : String) : Except WireFault Bool :=
  match s.base.enum? old, s.candidate.enum? new with
  | none, _ => .error (.missingType old)
  | some _, none => .error (.missingType new)
  | some a, some b => .ok (coversValues a b)

/-- The two messages of a pair of names. -/
def messagePair (s : Superset) (old new : String) : Except WireFault (MessageType × MessageType) :=
  match s.base.message? old, s.candidate.message? new with
  | none, _ => .error (.missingType old)
  | some _, none => .error (.missingType new)
  | some a, some b => .ok (a, b)

/-- Whether one type that is not a message can stand in for another. -/
def leaf (s : Superset) : FieldType → FieldType → Except WireFault Bool
  | .enum a, .enum b => s.enums a b
  | old, new => do
    match ← old.compare new with
    | .same => return true
    | .convertible .narrowing => return s.allowNarrowing
    | .convertible _ => return true
    | .structural | .incompatible => return false

/-- The pairs of names that exist and were not seen. -/
def unseen (s : Superset) (visited : List (String × String)) : Nat :=
  (s.base.names.flatMap fun a => s.candidate.names.map (a, ·)).countP (!visited.contains ·)

theorem mem_names_of_message? {s : Snapshot} {name : String} {m : MessageType}
    (found : s.message? name = some m) : name ∈ s.names := by
  simp only [Snapshot.message?, Option.bind_eq_some_iff] at found
  obtain ⟨t, get, _⟩ := found
  simp only [Snapshot.get?] at get
  have named := List.find?_some get
  have member := List.mem_of_find?_eq_some get
  simp only [beq_iff_eq] at named
  exact List.mem_map.2 ⟨t, member, named⟩

/-- A pair of messages is a pair of names that exist. -/
theorem mem_names_of_messagePair {s : Superset} {old new : String}
    {pair : MessageType × MessageType}
    (found : s.messagePair old new = .ok pair) :
    old ∈ s.base.names ∧ new ∈ s.candidate.names := by
  unfold messagePair at found
  split at found
  · cases found
  · cases found
  · next left right => exact ⟨mem_names_of_message? left, mem_names_of_message? right⟩

/-- To see a pair that exists uses it up. -/
theorem unseen_cons_lt {s : Superset} {visited : List (String × String)} {pair : String × String}
    (fresh : visited.contains pair = false) (left : pair.1 ∈ s.base.names)
    (right : pair.2 ∈ s.candidate.names) : s.unseen (pair :: visited) < s.unseen visited := by
  have member : pair ∈ s.base.names.flatMap fun a => s.candidate.names.map (a, ·) := by
    simp only [List.mem_flatMap, List.mem_map]
    exact ⟨pair.1, left, pair.2, right, rfl⟩
  unfold unseen
  generalize (s.base.names.flatMap fun a => s.candidate.names.map (a, ·)) = all at member
  induction all with
  | nil => cases member
  | cons q rest ih =>
    have rest_le : rest.countP (!(pair :: visited).contains ·) ≤
        rest.countP (!visited.contains ·) := by
      refine List.countP_mono_left fun r _ hr => ?_
      simp only [Bool.not_eq_true', List.contains_cons, Bool.or_eq_false_iff] at hr ⊢
      exact hr.2
    rcases List.mem_cons.1 member with rfl | inRest
    · simp only [List.countP_cons, List.contains_cons, beq_self_eq_true, Bool.true_or, fresh]
      simp
      simp only [List.contains_cons] at rest_le
      simp at rest_le
      omega
    · have := ih inRest
      have step : (if (!(pair :: visited).contains q) = true then 1 else 0) ≤
          (if (!visited.contains q) = true then 1 else 0) := by
        simp only [List.contains_cons]
        cases visited.contains q <;> cases q == pair <;> simp
      simp only [List.countP_cons]
      omega

/-- Check demands in order, from the pairs of messages that were seen before.  The first demand
    that fails decides; the pairs seen on the way are kept in either case. -/
def run (s : Superset) (visited : List (String × String)) :
    List Demand → Except WireFault Bool × List (String × String)
  | [] => (.ok true, visited)
  | none :: _ => (.ok false, visited)
  | some (.message a, .message b) :: rest =>
    if _fresh : visited.contains (a, b) then s.run visited rest
    else
      match _found : s.messagePair a b with
      | .error fault => (.error fault, (a, b) :: visited)
      | .ok (old, new) => s.run ((a, b) :: visited) (demands old new ++ rest)
  | some (old, new) :: rest =>
    match s.leaf old new with
    | .ok true => s.run visited rest
    | answer => (answer, visited)
termination_by todo => (s.unseen visited, todo.length)
decreasing_by
  · exact Prod.Lex.right _ (by simp)
  · have names := mem_names_of_messagePair _found
    exact Prod.Lex.left _ _ (unseen_cons_lt (by simpa using _fresh) names.1 names.2)
  · exact Prod.Lex.right _ (by simp)

/-- Whether one message can stand in for another. -/
def messages (s : Superset) (visited : List (String × String)) (old new : String) :
    Except WireFault Bool × List (String × String) :=
  s.run visited [some (.message old, .message new)]

/-- Whether one reference can stand in for another; both have to be of one kind. -/
def references (s : Superset) (visited : List (String × String)) :
    FieldType → FieldType → Except WireFault Bool × List (String × String)
  | .message a, .message b => s.messages visited a b
  | .enum a, .enum b => (s.enums a b, visited)
  | _, _ => (.ok false, visited)

end Superset

end SchemaEvolution
