/-!
# Version — version numbers of a definition

A version is a pair of numbers.  Versions are ordered by the major number first, and a definition
may carry one whose numbers are at most `Version.maxNumber` and not both zero.
-/

namespace WireSchema

/-- **The version of a definition.** -/
structure Version where
  major : Nat
  minor : Nat
  deriving DecidableEq, Repr

namespace Version

/-- The largest number that a version may have. -/
def maxNumber : Nat := 255

/-- **Whether a definition may carry the version.** -/
def isValid (v : Version) : Bool :=
  v.major ≤ maxNumber && v.minor ≤ maxNumber && !(v.major == 0 && v.minor == 0)

theorem isValid_iff {v : Version} :
    v.isValid = true ↔ v.major ≤ maxNumber ∧ v.minor ≤ maxNumber ∧ (v.major ≠ 0 ∨ v.minor ≠ 0) := by
  simp only [isValid, Bool.and_eq_true, decide_eq_true_eq, Bool.not_eq_true',
    Bool.and_eq_false_iff, beq_eq_false_iff_ne, and_assoc]

/-- The order of versions: by the major number, then by the minor one. -/
instance : Ord Version where
  compare v w := (compare v.major w.major).then (compare v.minor w.minor)

/-- The two numbers with a dot between them. -/
def text (v : Version) : String := toString v.major ++ "." ++ toString v.minor

end Version
end WireSchema
