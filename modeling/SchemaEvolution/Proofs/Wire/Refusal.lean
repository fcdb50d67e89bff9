import SchemaEvolution.Proofs.Schema.Reordering
import SchemaEvolution.Proofs.Wire.Preorder

/-! # What a walk is refused for

A fresh walk from two messages says yes exactly if each demand that it may come to is met on its
own (`messages_eq_ok_true_iff_forall_leads`).  Otherwise it gives the answer to one of the demands
that are not, and which one that is depends on the order of fields.  Where all of them have one
answer (`Unanimous`) the order does not matter (`messages_of_reordered`).
-/

namespace SchemaEvolution

namespace Superset

/-- What a demand is answered on its own; two messages need only exist. -/
def answer (s : Superset) : Demand → Except WireFault Bool
  | none => .ok false
  | some (.message a, .message b) => (s.messagePair a b).map fun _ => true
  | some (t, u) => s.leaf t u

/-- The demands that a walk from two messages may come to. -/
inductive Leads (s : Superset) (a b : String) : Demand → Prop
  | start : s.Leads a b (some (.message a, .message b))
  | step {x y : String} {old new : MessageType} {d : Demand}
      (led : s.Leads a b (some (.message x, .message y)))
      (found : s.messagePair x y = .ok (old, new)) (member : d ∈ demands old new) :
      s.Leads a b d

/-- Whether all demands that are refused on the way are refused for one reason. -/
def Unanimous (s : Superset) (a b : String) : Prop :=
  ∀ d e, s.Leads a b d → s.Leads a b e → s.answer d ≠ .ok true → s.answer e ≠ .ok true →
    s.answer d = s.answer e

variable {s : Superset} {a b : String}

theorem answer_of_leaf {t u : FieldType} (leaf : ∀ a b, t = .message a → u = .message b → False) :
    s.answer (some (t, u)) = s.leaf t u := by
  cases t <;> cases u
  case message.message => exact (leaf _ _ rfl rfl).elim
  all_goals rfl

/-- A walk that does not succeed ends with the answer to a demand that it was led to. -/
theorem run_eq_ok_true_or {visited : List (String × String)} {todo : List Demand}
    (led : ∀ d ∈ todo, s.Leads a b d) :
    (s.run visited todo).1 = .ok true ∨
      ∃ d, s.Leads a b d ∧ s.answer d ≠ .ok true ∧ (s.run visited todo).1 = s.answer d := by
  -- What is left to do stays among the demands that are led to: a pair that is expanded is itself
  -- led to, and so are the demands that take its place.
  fun_induction Superset.run s visited todo with
  | case1 => exact .inl rfl
  | case2 visited rest => exact .inr ⟨none, led none List.mem_cons_self, by simp [answer], rfl⟩
  | case3 visited x y rest seen ih => exact ih fun d member => led d (List.mem_cons_of_mem _ member)
  | case4 visited x y rest fresh fault missing =>
      have refused : s.answer (some (.message x, .message y)) = .error fault := by
        simp [answer, missing, Except.map]
      exact .inr ⟨_, led _ List.mem_cons_self, by simp [refused], refused.symm⟩
  | case5 visited x y rest fresh old new found ih =>
      refine ih (List.forall_mem_append.mpr ⟨?_, ?_⟩)
      · exact fun d member => .step (led _ List.mem_cons_self) found member
      · exact fun d member => led d (List.mem_cons_of_mem _ member)
  | case6 visited t u rest leaf judged ih =>
      exact ih fun d member => led d (List.mem_cons_of_mem _ member)
  | case7 visited t u rest leaf judged =>
      have answered : s.answer (some (t, u)) = s.leaf t u := answer_of_leaf leaf
      exact .inr ⟨_, led _ List.mem_cons_self, answered ▸ judged, answered.symm⟩

theorem messages_eq_ok_true_or :
    (s.messages [] a b).1 = .ok true ∨
      ∃ d, s.Leads a b d ∧ s.answer d ≠ .ok true ∧ (s.messages [] a b).1 = s.answer d := by
  refine run_eq_ok_true_or ?_
  intro d member
  rw [List.mem_singleton.mp member]
  exact .start

/-- A walk that succeeds has met every demand that it may be led to. -/
theorem Leads.meets (ok : (s.messages [] a b).1 = .ok true) {d : Demand} (led : s.Leads a b d) :
    s.Meets (Seen (s.messages [] a b).2) d := by
  -- A walk that succeeds leaves nothing open, so every pair it has seen was expanded and what the
  -- expansion demands was met; this carries over from one step of `Leads` to the next.
  obtain ⟨justifies, met⟩ := run_ok ok
  induction led with
  | start => exact met _ (List.mem_singleton.mpr rfl)
  | step _ found member ih =>
      obtain ⟨_, _, foundAgain, met⟩ := justifies.expanded _ _ ih List.not_mem_nil
      rw [found] at foundAgain
      cases foundAgain
      exact met _ member

/-- A fresh walk says yes exactly if it is led to no demand that is refused on its own. -/
theorem messages_eq_ok_true_iff_forall_leads :
    (s.messages [] a b).1 = .ok true ↔ ∀ d, s.Leads a b d → s.answer d = .ok true := by
  constructor
  · intro ok d led
    have meets := led.meets ok
    cases d with
    | none => exact meets.elim
    | some types =>
        obtain ⟨t, u⟩ := types
        by_cases messages : ∃ x y, t = .message x ∧ u = .message y
        · obtain ⟨x, y, rfl, rfl⟩ := messages
          obtain ⟨old, new, found, -⟩ := (run_ok ok).1.expanded x y meets List.not_mem_nil
          simp [answer, found, Except.map]
        · have leaf : ∀ x y, t = .message x → u = .message y → False :=
            fun x y isT isU => messages ⟨x, y, isT, isU⟩
          rw [answer_of_leaf leaf]
          exact (leaf_eq_ok_true_iff leaf).mpr meets
  · intro met
    rcases messages_eq_ok_true_or with ok | ⟨d, led, refused, -⟩
    · exact ok
    · exact absurd (met d led) refused

/-- Walks that may come to the same demands, and that answer them alike, end alike if all that is
    refused is refused for one reason. -/
theorem messages_eq_of_leads {other : Superset} (leads : ∀ d, s.Leads a b d ↔ other.Leads a b d)
    (answers : ∀ d, s.answer d = other.answer d) (unanimous : s.Unanimous a b) :
    (s.messages [] a b).1 = (other.messages [] a b).1 := by
  have succeeds : (s.messages [] a b).1 = .ok true ↔ (other.messages [] a b).1 = .ok true := by
    simp only [messages_eq_ok_true_iff_forall_leads, leads, answers]
  rcases s.messages_eq_ok_true_or with ok | ⟨d, ledD, refusedD, answerD⟩
  · rw [ok, succeeds.mp ok]
  rcases other.messages_eq_ok_true_or with ok | ⟨e, ledE, refusedE, answerE⟩
  · rw [ok, succeeds.mpr ok]
  rw [← answers] at refusedE answerE
  rw [answerD, answerE]
  exact unanimous d e ledD ((leads e).mpr ledE) refusedD refusedE

section Order

variable {base base' candidate candidate' : Snapshot} {allowNarrowing : Bool}
  (reorderedBase : base.Reordered base') (reorderedCandidate : candidate.Reordered candidate')

theorem demands_perm {old old' new new' : MessageType} (reorderedOld : old.Reordered old')
    (reorderedNew : new.Reordered new') (distinct : (new.fields.map Field.number).Nodup) :
    (demands old new).Perm (demands old' new') := by
  have same : demand new = demand new' := by
    funext f
    rw [demand, demand, reorderedNew.field?_eq distinct]
  rw [demands, demands, same]
  exact reorderedOld.fields.map _

include reorderedBase reorderedCandidate

theorem enums_of_reordered (a b : String) :
    (Superset.mk base candidate allowNarrowing).enums a b =
      (Superset.mk base' candidate' allowNarrowing).enums a b := by
  have old := reorderedBase.rel_enum? a
  have new := reorderedCandidate.rel_enum? b
  unfold enums
  generalize base.enum? a = e, base'.enum? a = e', candidate.enum? b = k,
    candidate'.enum? b = k' at old new
  cases old with
  | none => rfl
  | some sameOld =>
      cases new with
      | none => rfl
      | some sameNew =>
          simp [coversValues, EnumType.value?, sameOld.values, sameNew.values]

theorem leaf_of_reordered (t u : FieldType) :
    (Superset.mk base candidate allowNarrowing).leaf t u =
      (Superset.mk base' candidate' allowNarrowing).leaf t u := by
  unfold leaf
  split
  · exact enums_of_reordered reorderedBase reorderedCandidate _ _
  · rfl

theorem messagePair_of_reordered (a b : String) :
    ((Superset.mk base candidate allowNarrowing).messagePair a b).map (fun _ => true) =
      ((Superset.mk base' candidate' allowNarrowing).messagePair a b).map fun _ => true := by
  have old := reorderedBase.rel_message? a
  have new := reorderedCandidate.rel_message? b
  unfold messagePair
  generalize base.message? a = m, base'.message? a = m', candidate.message? b = n,
    candidate'.message? b = n' at old new
  cases old <;> cases new <;> rfl

theorem answer_of_reordered (d : Demand) :
    (Superset.mk base candidate allowNarrowing).answer d =
      (Superset.mk base' candidate' allowNarrowing).answer d := by
  unfold answer
  split
  · rfl
  · exact messagePair_of_reordered reorderedBase reorderedCandidate _ _
  · exact leaf_of_reordered reorderedBase reorderedCandidate _ _

theorem Leads.reorder (valid : candidate.Valid) {a b : String} {d : Demand}
    (led : (Superset.mk base candidate allowNarrowing).Leads a b d) :
    (Superset.mk base' candidate' allowNarrowing).Leads a b d := by
  induction led with
  | start => exact .start
  | @step x y old new d _ found member ih =>
      obtain ⟨atBase, atCandidate⟩ := messagePair_eq_ok_iff.mp found
      obtain ⟨old', atBase', sameOld⟩ := reorderedBase.exists_message? atBase
      obtain ⟨new', atCandidate', sameNew⟩ := reorderedCandidate.exists_message? atCandidate
      have distinct := (valid.of_message? atCandidate).distinctNumbers
      exact .step ih (messagePair_eq_ok_iff.mpr ⟨atBase', atCandidate'⟩)
        ((demands_perm sameOld sameNew distinct).mem_iff.mp member)

/-- The order of declarations decides nothing where all that is refused is refused for one
    reason. -/
theorem messages_of_reordered (valid : candidate.Valid) (valid' : candidate'.Valid) {a b : String}
    (unanimous : (Superset.mk base candidate allowNarrowing).Unanimous a b) :
    ((Superset.mk base candidate allowNarrowing).messages [] a b).1 =
      ((Superset.mk base' candidate' allowNarrowing).messages [] a b).1 :=
  messages_eq_of_leads
    (fun _ => ⟨.reorder reorderedBase reorderedCandidate valid,
      .reorder reorderedBase.symm reorderedCandidate.symm valid'⟩)
    (answer_of_reordered reorderedBase reorderedCandidate) unanimous

theorem references_of_reordered (valid : candidate.Valid) (valid' : candidate'.Valid)
    {t u : FieldType} (unanimous : ∀ a b, t = .message a → u = .message b →
      (Superset.mk base candidate allowNarrowing).Unanimous a b) :
    ((Superset.mk base candidate allowNarrowing).references [] t u).1 =
      ((Superset.mk base' candidate' allowNarrowing).references [] t u).1 := by
  unfold references
  split
  case h_1 a b =>
    exact messages_of_reordered reorderedBase reorderedCandidate valid valid'
      (unanimous a b rfl rfl)
  case h_2 => exact enums_of_reordered reorderedBase reorderedCandidate _ _
  case h_3 => rfl

end Order

end Superset

end SchemaEvolution
