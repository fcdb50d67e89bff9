import Mathlib
import SchemaEvolution.Text.Identifier

/-! # Spelling of names

The words that pass as identifiers and as qualified names, told by the characters that they are
made of: `isIdentifier_iff` and `isQualified_iff`.  An identifier holds no dot, so a path shows
where the name of an owner ends (`path_inj`); a qualified name holds no blank
(`blank_not_mem`).
-/

namespace SchemaEvolution.Identifier

/-- An ASCII letter or an underscore. -/
def Letter (c : Char) : Prop := ('A' ≤ c ∧ c ≤ 'Z') ∨ ('a' ≤ c ∧ c ≤ 'z') ∨ c = '_'

/-- An ASCII digit. -/
def Digit (c : Char) : Prop := '0' ≤ c ∧ c ≤ '9'

/-- A letter in front of letters and digits. -/
def Spelled (word : List Char) : Prop :=
  ∃ first rest, word = first :: rest ∧ Letter first ∧ ∀ c ∈ rest, Letter c ∨ Digit c

/-- Identifiers, one or more, joined by dots. -/
def Dotted (name : List Char) : Prop :=
  ∃ words, words ≠ [] ∧ (∀ word ∈ words, Spelled word) ∧ name = ['.'].intercalate words

theorem isStart_iff {c : Char} : isStart c = true ↔ Letter c := by
  simp [isStart, Letter, Char.isAlpha, Char.isUpper, Char.isLower, Char.le_def, or_assoc]

theorem isFollow_iff {c : Char} : isFollow c = true ↔ Letter c ∨ Digit c := by
  rw [← isStart_iff]
  simp [isFollow, isStart, Digit, Char.isAlphanum, Char.isDigit, Char.le_def, or_right_comm]

theorem isIdentifier_iff {word : List Char} : isIdentifier word = true ↔ Spelled word := by
  cases word with
  | nil => simp [isIdentifier, Spelled]
  | cons c rest =>
      simp [isIdentifier, Spelled, isStart_iff, isFollow_iff]

theorem dot_not_mem {cs : List Char} (identifier : isIdentifier cs = true) : '.' ∉ cs := by
  cases cs with
  | nil => simp
  | cons c rest =>
      simp only [isIdentifier, Bool.and_eq_true, List.all_eq_true] at identifier
      intro member
      rcases List.mem_cons.mp member with rfl | member
      · exact absurd identifier.1 (by decide)
      · exact absurd (identifier.2 '.' member) (by decide)

theorem isQualified_iff {name : List Char} : isQualified name = true ↔ Dotted name := by
  rw [isQualified, List.all_eq_true]
  constructor
  · intro identifiers
    exact ⟨name.splitOn '.', List.splitOn_ne_nil '.' name,
      fun word member => isIdentifier_iff.mp (identifiers word member),
      (List.intercalate_splitOn '.').symm⟩
  · rintro ⟨words, nonempty, spelled, rfl⟩
    have identifiers : ∀ word ∈ words, isIdentifier word = true :=
      fun word member => isIdentifier_iff.mpr (spelled word member)
    rwa [List.splitOn_intercalate '.' (fun word member => dot_not_mem (identifiers word member))
      nonempty]

theorem exists_part_of_mem {c : Char} {cs : List Char} (notDot : c ≠ '.') (member : c ∈ cs) :
    ∃ part ∈ cs.splitOn '.', c ∈ part := by
  induction cs with
  | nil => cases member
  | cons d rest ih =>
      rw [List.splitOn_cons_eq_if_modifyHead]
      split
      case isTrue dot =>
        have later := (List.mem_cons.mp member).resolve_left
          fun same => notDot (same.trans (beq_iff_eq.mp dot))
        obtain ⟨part, found, inside⟩ := ih later
        exact ⟨part, List.mem_cons_of_mem _ found, inside⟩
      case isFalse =>
        cases pieces : rest.splitOn '.' with
        | nil => exact absurd pieces (List.splitOn_ne_nil '.' rest)
        | cons first others =>
            rw [pieces] at ih
            rw [List.modifyHead_cons]
            rcases List.mem_cons.mp member with rfl | later
            · exact ⟨_, List.mem_cons_self, List.mem_cons_self⟩
            · obtain ⟨part, found, inside⟩ := ih later
              rcases List.mem_cons.mp found with rfl | found
              · exact ⟨_, List.mem_cons_self, List.mem_cons_of_mem _ inside⟩
              · exact ⟨part, List.mem_cons_of_mem _ found, inside⟩

theorem isFollow_of_mem {c : Char} {word : List Char} (identifier : isIdentifier word = true)
    (member : c ∈ word) : isFollow c = true := by
  obtain ⟨first, rest, rfl, letter, follows⟩ := isIdentifier_iff.mp identifier
  rw [isFollow_iff]
  rcases List.mem_cons.mp member with rfl | later
  · exact .inl letter
  · exact follows c later

theorem blank_not_mem {name : List Char} (qualified : isQualified name = true) : ' ' ∉ name := by
  intro blank
  obtain ⟨part, found, inside⟩ := exists_part_of_mem (by decide) blank
  exact absurd (isFollow_of_mem (List.all_eq_true.mp qualified part found) inside) (by decide)

theorem append_cons_inj_of_not_mem {α : Type} {d : α} {x₁ x₂ z₁ z₂ : List α} (left : d ∉ z₁)
    (right : d ∉ z₂) (same : x₁ ++ d :: z₁ = x₂ ++ d :: z₂) : x₁ = x₂ ∧ z₁ = z₂ := by
  rcases List.append_eq_append_iff.mp same with ⟨c, rfl, tail⟩ | ⟨c, rfl, tail⟩
  · cases c with
    | nil => simpa using tail
    | cons e c =>
        obtain ⟨-, rfl⟩ := List.cons_eq_cons.mp tail
        simp at left
  · cases c with
    | nil => simpa using tail.symm
    | cons e c =>
        obtain ⟨-, rfl⟩ := List.cons_eq_cons.mp tail
        simp at right

/-- Names without dots are read back from a path. -/
theorem path_inj {a b x y : String} (left : isIdentifier x.toList = true)
    (right : isIdentifier y.toList = true) (same : s!"{a}.{x}" = s!"{b}.{y}") : a = b ∧ x = y := by
  have lists := congrArg String.toList same
  have dotted (s t : String) : (s!"{s}.{t}").toList = s.toList ++ '.' :: t.toList := by
    simp [toString]
  rw [dotted, dotted] at lists
  obtain ⟨owners, names⟩ :=
    append_cons_inj_of_not_mem (dot_not_mem left) (dot_not_mem right) lists
  exact ⟨String.toList_inj.mp owners, String.toList_inj.mp names⟩

end SchemaEvolution.Identifier
