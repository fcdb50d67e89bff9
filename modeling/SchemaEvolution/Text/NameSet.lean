import SchemaEvolution.Order.Sorted

/-! # Sets of names

A set of names is the list of its members in the order of their code points, which is the order
of their UTF-8 bytes.  Two sets with the same members are therefore equal (`NameSet.ext_mem`).
-/

namespace SchemaEvolution

def nameBefore (a b : String) : Bool := decide (a < b)

theorem nameBefore_isStrictOrder : Sorted.IsStrictOrder nameBefore where
  irrefl a := by simp [nameBefore]
  trans a b c hab hbc := by
    simp only [nameBefore, decide_eq_true_eq] at *
    exact String.lt_trans hab hbc
  eq_of_neither a b hab hba := by
    simp only [nameBefore, decide_eq_false_iff_not, String.not_lt] at *
    exact String.le_antisymm hba hab

/-- A finite set of names. -/
structure NameSet where
  toList : List String
  ordered : toList.Pairwise (nameBefore · · = true)
deriving DecidableEq

namespace NameSet

/-- The names of a list, each once. -/
def ofList (names : List String) : NameSet :=
  ⟨Sorted.sortDistinct nameBefore names,
    Sorted.pairwise_sortDistinct nameBefore_isStrictOrder names⟩

def empty : NameSet := ⟨[], .nil⟩

instance : Inhabited NameSet := ⟨empty⟩

instance : Repr NameSet := ⟨fun s n => reprPrec s.toList n⟩

def insert (s : NameSet) (name : String) : NameSet :=
  ⟨Sorted.insertDistinct nameBefore name s.toList,
    Sorted.pairwise_insertDistinct nameBefore_isStrictOrder s.ordered⟩

def contains (s : NameSet) (name : String) : Bool := s.toList.contains name

def isEmpty (s : NameSet) : Bool := s.toList.isEmpty

/-- The members of the first set that the second one lacks, in order. -/
def without (s t : NameSet) : List String := s.toList.filter fun name => !t.contains name

theorem contains_ofList {names : List String} {name : String} :
    (ofList names).contains name = true ↔ name ∈ names := by
  simp [contains, ofList, Sorted.mem_sortDistinct nameBefore_isStrictOrder]

/-- Sets with the same members are equal. -/
theorem ext_mem {s t : NameSet} (same : ∀ name, s.contains name = t.contains name) : s = t := by
  have lists : s.toList = t.toList := by
    refine Sorted.eq_of_mem_iff nameBefore_isStrictOrder s.ordered t.ordered fun name => ?_
    have := same name
    simp only [contains, List.contains_eq_mem, decide_eq_decide] at this
    exact this
  cases s
  cases t
  simp only at lists
  subst lists
  rfl

end NameSet

end SchemaEvolution
