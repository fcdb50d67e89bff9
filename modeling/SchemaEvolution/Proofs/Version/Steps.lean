import Mathlib
import SchemaEvolution.Version.Bump

/-! # Steps along versions

Versions are ordered by one key after the other, so the order is total and transitive
(`Version.compare_trans`).  Whether a step is at least as large as a given one is a question about
the two versions alone (`Version.Reaches`), and a chain of versions reaches as far as the farthest
of its links.  That carries the size of a step, and what it is enough for, from the links to the
whole: `version_steps_compose`.
-/

namespace SchemaEvolution

namespace Version

section Order

/-- Whether a segment is no number. -/
def isWord (segment : String) : Bool := (Digits.natural? segment.toList).isNone

/-- The value of a segment, if it is a number. -/
def numeral (segment : String) : Nat := (Digits.natural? segment.toList).getD 0

/-- How many digits a segment has, if it is a number. -/
def width (segment : String) : Nat := if isWord segment then 0 else segment.length

/-- The text of a segment, if it is a word. -/
def wordText (segment : String) : String := if isWord segment then segment else ""

theorem compareSegments_eq : compareSegments =
    compareLex (compareOn isWord) (compareLex (compareOn numeral)
      (compareLex (compareOn width) (compareOn wordText))) := by
  have words : Ord.compare true false = .gt ∧ Ord.compare false true = .lt := by decide
  funext a b
  cases first : Digits.natural? a.toList <;> cases second : Digits.natural? b.toList <;>
    simp [compareSegments, compareLex, compareOn, isWord, numeral, width, wordText, first, second,
      words]

theorem compareSegments_trans : Std.TransCmp compareSegments := by
  rw [compareSegments_eq]
  infer_instance

theorem compareLists_eq : compareLists = List.compareLex compareSegments := by
  funext as bs
  fun_induction compareLists as bs with
  | case1 | case2 | case3 => rfl
  | case4 a as b bs ih => rw [List.compareLex_cons_cons, ih]

theorem compareLists_trans : Std.TransCmp compareLists := by
  have segments := compareSegments_trans
  rw [compareLists_eq]
  infer_instance

theorem comparePre_eq : comparePre = compareLex (compareOn List.isEmpty) compareLists := by
  funext as bs
  cases as <;> cases bs <;> rfl

theorem comparePre_trans : Std.TransCmp comparePre := by
  have lists := compareLists_trans
  rw [comparePre_eq]
  infer_instance

theorem compare_eq : compare =
    compareLex (compareOn major) (compareLex (compareOn minor) (compareLex (compareOn patch)
      (compareLex (Ordering.byKey pre comparePre) (Ordering.byKey build compareLists)))) :=
  rfl

/-- Versions stand in one line. -/
theorem compare_trans : Std.TransCmp compare := by
  have lists := compareLists_trans
  have pres := comparePre_trans
  rw [compare_eq]
  infer_instance

variable {u v w : Version}

theorem notAfter_iff : u.notAfter v = true ↔ (u.compare v).isLE = true := by
  unfold notAfter
  cases u.compare v <;> decide

theorem notAfter_refl (v : Version) : v.notAfter v = true := by
  have order := compare_trans
  have same : v.compare v = .eq := Std.ReflCmp.compare_self
  rw [notAfter_iff, same]
  rfl

theorem notAfter_trans (first : u.notAfter v = true) (second : v.notAfter w = true) :
    u.notAfter w = true := by
  have order := compare_trans
  rw [notAfter_iff] at *
  exact Std.TransCmp.isLE_trans first second

theorem major_le (ordered : u.notAfter v = true) : u.major ≤ v.major := by
  by_contra larger
  have after : Ord.compare u.major v.major = .gt := Nat.compare_eq_gt.mpr (by omega)
  simp [notAfter, compare, after] at ordered

theorem minor_le (ordered : u.notAfter v = true) (same : u.major = v.major) :
    u.minor ≤ v.minor := by
  by_contra larger
  have after : Ord.compare u.minor v.minor = .gt := Nat.compare_eq_gt.mpr (by omega)
  simp [notAfter, compare, same, after] at ordered

end Order

end Version

namespace Bump

theorem rank_inj {a b : Bump} (same : a.rank = b.rank) : a = b := by
  cases a <;> cases b <;> first | rfl | cases same

theorem eq_of_atLeast {a b : Bump} (same : ∀ c, a.atLeast c = true ↔ b.atLeast c = true) :
    a = b := by
  have first : a.rank ≤ b.rank := by simpa [atLeast] using (same a).mp
  have second : b.rank ≤ a.rank := by simpa [atLeast] using (same b).mpr
  exact rank_inj (Nat.le_antisymm first second)

theorem atLeast_trans {a b c : Bump} (first : a.atLeast b = true) (second : b.atLeast c = true) :
    a.atLeast c = true := by
  simp only [atLeast, decide_eq_true_eq] at *
  omega

theorem atLeast_max {a b c : Bump} :
    (a.max b).atLeast c = true ↔ a.atLeast c = true ∨ b.atLeast c = true := by
  cases a <;> cases b <;> cases c <;> decide

/-- The least step that is enough where another one is required. -/
def enough (required : Bump) (previous : Version) : Bump :=
  if previous.major = 0 && required = major then minor else required

theorem satisfies_eq (declared required : Bump) (previous : Version) :
    declared.satisfies required previous = declared.atLeast (required.enough previous) := by
  unfold satisfies enough
  split <;> rfl

/-- What is enough for two requirements is enough for the greater one. -/
theorem atLeast_enough_max {declared r₁ r₂ : Bump} {previous : Version}
    (first : declared.atLeast (r₁.enough previous) = true)
    (second : declared.atLeast (r₂.enough previous) = true) :
    declared.atLeast ((r₁.max r₂).enough previous) = true := by
  unfold max
  split
  · exact second
  · exact first

/-- The same change asks no less of a step that begins at a later version. -/
theorem atLeast_enough (required : Bump) {u v : Version} (grows : u.major ≤ v.major) :
    (required.enough v).atLeast (required.enough u) = true := by
  cases required with
  | none | patch | minor => simp [enough, atLeast]
  | major =>
      by_cases unstable : v.major = 0
      · have earlier : u.major = 0 := by omega
        simp [enough, unstable, earlier, atLeast]
      · simp only [enough, unstable, decide_false, Bool.false_and, Bool.false_eq_true, ↓reduceIte]
        split <;> decide

end Bump

namespace Version

/-- Whether a version is so far behind another one that a step between them has at least a size. -/
def Reaches (size : Bump) (u v : Version) : Prop :=
  match size with
  | .none => True
  | .patch => v.notAfter u = false
  | .minor => u.major < v.major ∨ u.major = v.major ∧ u.minor < v.minor
  | .major => u.major < v.major

variable {u v w : Version}

theorem atLeast_bumpFrom_iff (ordered : u.notAfter v = true) (size : Bump) :
    (v.bumpFrom u).atLeast size = true ↔ Reaches size u v := by
  have majors := major_le ordered
  have minors := minor_le ordered
  unfold bumpFrom
  cases back : v.notAfter u with
  | true =>
      have majorsBack := major_le back
      have minorsBack := minor_le back
      cases size <;> simp [Reaches, Bump.atLeast, Bump.rank, back] <;> omega
  | false =>
      cases size <;> simp only [Reaches, back, Bool.false_eq_true, ↓reduceIte] <;> split_ifs <;>
        simp [Bump.atLeast, Bump.rank] <;> omega

/-- A chain reaches as far as one of its links. -/
theorem reaches_iff (first : u.notAfter v = true) (second : v.notAfter w = true) (size : Bump) :
    Reaches size u w ↔ Reaches size u v ∨ Reaches size v w := by
  cases size with
  | none => simp [Reaches]
  | patch =>
      have back : w.notAfter u = true ↔ v.notAfter u = true ∧ w.notAfter v = true := by
        constructor
        · intro back
          exact ⟨notAfter_trans second back, notAfter_trans back first⟩
        · rintro ⟨backFirst, backSecond⟩
          exact notAfter_trans backSecond backFirst
      simp only [Reaches, ← Bool.not_eq_true, back, not_and_or]
  | minor | major =>
      have majors := major_le first
      have minors := minor_le first
      have majors' := major_le second
      have minors' := minor_le second
      simp only [Reaches]
      omega

theorem bumpFrom_trans (first : u.notAfter v = true) (second : v.notAfter w = true) :
    w.bumpFrom u = (v.bumpFrom u).max (w.bumpFrom v) := by
  refine Bump.eq_of_atLeast fun size => ?_
  rw [Bump.atLeast_max, atLeast_bumpFrom_iff (notAfter_trans first second),
    atLeast_bumpFrom_iff first, atLeast_bumpFrom_iff second, reaches_iff first second]

theorem satisfies_trans {r₁ r₂ : Bump} (first : u.notAfter v = true)
    (second : v.notAfter w = true) (satisfied₁ : (v.bumpFrom u).satisfies r₁ u = true)
    (satisfied₂ : (w.bumpFrom v).satisfies r₂ v = true) :
    (w.bumpFrom u).satisfies (r₁.max r₂) u = true := by
  rw [Bump.satisfies_eq] at *
  rw [bumpFrom_trans first second]
  apply Bump.atLeast_enough_max
  · exact Bump.atLeast_max.mpr (.inl satisfied₁)
  · -- the second link begins later, where at least as much is asked for
    have asked := Bump.atLeast_enough r₂ (major_le first)
    exact Bump.atLeast_max.mpr (.inr (Bump.atLeast_trans satisfied₂ asked))

theorem bumpFrom_bumped (v : Version) (size : Bump) : (v.bumped size).bumpFrom v = size := by
  cases size with
  | none => rw [bumped, bumpFrom, if_pos (notAfter_refl v)]
  | patch | minor | major =>
      simp [bumpFrom, bumped, release, notAfter, compare, Nat.compare_eq_gt.mpr]

end Version

/-- The step along a chain of versions is the greatest of its links, and where each link is enough
    for a requirement, also below version one, the whole is enough for the greater one.  A version
    that is made by a step is this step away, which is enough where such a step is required. -/
theorem version_steps_compose :
    (∀ u v w : Version, u.notAfter v = true → v.notAfter w = true →
      w.bumpFrom u = (v.bumpFrom u).max (w.bumpFrom v) ∧
      ∀ r₁ r₂, (VersionCheck.of u v r₁).satisfied = true →
        (VersionCheck.of v w r₂).satisfied = true →
        (VersionCheck.of u w (r₁.max r₂)).satisfied = true) ∧
    ∀ (v : Version) (size : Bump), (v.bumped size).bumpFrom v = size ∧
      ((v.bumped size).bumpFrom v).satisfies size v = true := by
  refine ⟨?_, ?_⟩
  · intro u v w first second
    exact ⟨Version.bumpFrom_trans first second,
      fun r₁ r₂ => Version.satisfies_trans first second⟩
  · intro v size
    refine ⟨Version.bumpFrom_bumped v size, ?_⟩
    rw [Version.bumpFrom_bumped, Bump.satisfies_eq, Bump.enough]
    cases size <;> split <;> simp_all [Bump.atLeast, Bump.rank]

/-- A pre-release below version one, with build metadata. -/
def rehearsal : Version := ⟨0, 9, 0, ["rc", "1"], ["007"]⟩

/-- A later pre-release below version one. -/
def preview : Version := ⟨0, 10, 0, ["beta"], []⟩

/-- A build of version one. -/
def premiere : Version := ⟨1, 0, 0, [], ["linux"]⟩

/-- Below version one a minor step is enough for what breaks, also as the first link of a chain that
    leads to version one. -/
theorem preview_leads_to_premiere :
    rehearsal.notAfter preview = true ∧ preview.notAfter premiere = true ∧
      (VersionCheck.of rehearsal preview .major).satisfied = true ∧
      (VersionCheck.of preview premiere .patch).satisfied = true ∧
      (VersionCheck.of rehearsal premiere .major).satisfied = true ∧
      premiere.bumpFrom rehearsal = (preview.bumpFrom rehearsal).max (premiere.bumpFrom preview) ∧
      (preview.bumped .patch).bumpFrom preview = .patch := by
  have first : rehearsal.notAfter preview = true := by decide +kernel
  have second : preview.notAfter premiere = true := by decide +kernel
  have enoughFirst : (VersionCheck.of rehearsal preview .major).satisfied = true := by
    decide +kernel
  have enoughSecond : (VersionCheck.of preview premiere .patch).satisfied = true := by
    decide +kernel
  obtain ⟨chains, steps⟩ := version_steps_compose
  obtain ⟨size, enough⟩ := chains rehearsal preview premiere first second
  exact ⟨first, second, enoughFirst, enoughSecond, enough _ _ enoughFirst enoughSecond, size,
    (steps preview .patch).1⟩

end SchemaEvolution
