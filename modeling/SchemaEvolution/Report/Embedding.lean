import SchemaEvolution.Schema.Snapshot

/-! # Embedding

Which types hold values of a type in their fields, directly or through other types.  The types
that lead to a type are collected round by round: each round adds the types that refer to one
that was found, and the collection ends with a round that adds none.
-/

namespace SchemaEvolution.Snapshot

/-- The types that the fields of a type refer to, each once, in order. -/
def references (s : Snapshot) (name : String) : NameSet :=
  match s.get? name with
  | none => .empty
  | some t => .ofList (t.references.filter s.has)

/-- Whether some field of a type refers to one of some names. -/
def refersTo (found : List String) (t : TypeDef) : Bool := t.references.any found.contains

/-- The types that refer to none of some names. -/
def unrelated (found : List String) (types : List TypeDef) : List TypeDef :=
  types.filter fun t => !refersTo found t

theorem unrelated_length_lt {found : List String} {types : List TypeDef} {t : TypeDef}
    (member : t ∈ types.filter (refersTo found)) :
    (unrelated found types).length < types.length := by
  have ⟨inside, refers⟩ := List.mem_filter.mp member
  exact List.length_filter_lt_length_iff_exists.mpr ⟨t, inside, by simp [refers]⟩

/-- Add the types among `others` that lead to one of the names found. -/
def collect (found : List String) (others : List TypeDef) : List String :=
  match _round : others.filter (refersTo found) with
  | [] => found
  | fresh :: more =>
    collect (found ++ (fresh :: more).map TypeDef.name) (unrelated found others)
termination_by others.length
decreasing_by exact unrelated_length_lt (t := fresh) (by rw [_round]; simp)

/-- The types that embed a type, directly or not, without the type itself, in order.  A name that
    no type has is embedded by none. -/
def embedders (s : Snapshot) (name : String) : List String :=
  if s.has name then
    let found := collect [name] (s.types.filter (·.name != name))
    s.names.filter fun other => other != name && found.contains other
  else []

end SchemaEvolution.Snapshot
