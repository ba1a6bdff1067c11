import Mathlib.Data.List.DropRight
import WireSchema.Error.Located

/-!
# Proofs/Error/Locating — where an error is after a run of steps

Two steps say where an error is.  It is **placed**, wherever it was before; or it is **offered** a
place, of which it takes the path if it has none, and the line if it has none.  The empty path is no
path in both.  `Error.locate` takes a run of such steps.

All that counts of a run is its last placing and the offers behind it (`Error.lastPlace?`,
`Error.offersBehind`): what the placing says stays, and of each part that it leaves open the first
offer that has one stays.  This is the invariant `Error.Knows`.  One more step keeps it
(`Error.Knows.step`), so every run does, by induction on the run from its end
(`Error.knows_locate`).

The main theorem `Error.located_after` adds what is shown of the place.
-/

namespace WireSchema
namespace Error

/-! ## Runs -/

/-- **A step that says where an error is.** -/
inductive Locating where
  /-- It is there, wherever it was before. -/
  | place (path : String) (line? : Option Nat)
  /-- It is there as far as its own place is not known. -/
  | offer (path? : Option String) (line? : Option Nat)

namespace Locating

/-- What the step makes of an error. -/
def apply (e : Error) : Locating → Error
  | place path line? => e.withLocation path line?
  | offer path? line? => e.locatedAt path? line?

/-- Whether the step leaves alone what is known. -/
def isOffer : Locating → Bool
  | place _ _ => false
  | offer _ _ => true

/-- The path and the line of a placing. -/
def place? : Locating → Option (String × Option Nat)
  | place path line? => some (path, line?)
  | offer _ _ => none

/-- The path that the step says, which is not empty. -/
def path? : Locating → Option String
  | place path _ => nonempty? path
  | offer path? _ => path?.bind nonempty?

/-- The line that the step says. -/
def line? : Locating → Option Nat
  | place _ line? | offer _ line? => line?

end Locating

/-- **The error after a run of steps.** -/
def locate (e : Error) (steps : List Locating) : Error := steps.foldl Locating.apply e

/-- **The last placing** of a run. -/
def lastPlace? (steps : List Locating) : Option (String × Option Nat) :=
  (steps.filterMap Locating.place?).getLast?

/-- **The offers behind the last placing**, or all of them if there is none. -/
def offersBehind (steps : List Locating) : List Locating := steps.rtakeWhile Locating.isOffer

/-! ## One step -/

section Step

variable (steps : List Locating) (path : String) (path? : Option String) (line? : Option Nat)

@[simp] theorem lastPlace?_concat_place :
    lastPlace? (steps ++ [.place path line?]) = some (path, line?) := by
  simp [lastPlace?, Locating.place?]

@[simp] theorem lastPlace?_concat_offer :
    lastPlace? (steps ++ [.offer path? line?]) = lastPlace? steps := by
  simp [lastPlace?, Locating.place?]

@[simp] theorem offersBehind_concat_place : offersBehind (steps ++ [.place path line?]) = [] :=
  List.rtakeWhile_concat_neg _ _ _ Bool.false_ne_true

@[simp] theorem offersBehind_concat_offer :
    offersBehind (steps ++ [.offer path? line?]) = offersBehind steps ++ [.offer path? line?] :=
  List.rtakeWhile_concat_pos _ _ _ rfl

end Step

/-- **What is known of an error after a run**: the cause that it began with; the path of the last
placing, or else the first one offered behind it; and for the line the same. -/
structure Knows (cause : Cause) (steps : List Locating) (e : Error) : Prop where
  cause_eq : e.cause = cause
  path_eq : e.path? = ((lastPlace? steps).bind fun place => nonempty? place.1).or
    ((offersBehind steps).findSome? Locating.path?)
  line_eq : e.line? = ((lastPlace? steps).bind fun place => place.2).or
    ((offersBehind steps).findSome? Locating.line?)

variable {cause : Cause} {steps : List Locating} {e : Error}

/-- **One more step** adds what it says to what is known. -/
theorem Knows.step (h : Knows cause steps e) :
    ∀ s : Locating, Knows cause (steps ++ [s]) (s.apply e)
  | .place path line? => by
      refine ⟨(cause_withLocation e path line?).trans h.cause_eq, ?_, ?_⟩
      · rw [lastPlace?_concat_place, offersBehind_concat_place]
        exact (Option.or_none).symm
      · rw [lastPlace?_concat_place, offersBehind_concat_place]
        exact (Option.or_none).symm
  | .offer path? line? => by
      -- what the placing and the offers before leave open is taken from this one
      refine ⟨(cause_locatedAt e path? line?).trans h.cause_eq, ?_, ?_⟩
      · rw [lastPlace?_concat_offer, offersBehind_concat_offer, List.findSome?_append,
          ← Option.or_assoc, ← h.path_eq, List.findSome?_singleton]
        exact Option.orElse_eq_or
      · rw [lastPlace?_concat_offer, offersBehind_concat_offer, List.findSome?_append,
          ← Option.or_assoc, ← h.line_eq, List.findSome?_singleton]
        exact Option.orElse_eq_or

/-- **Every run** leaves known what its last placing and the offers behind it say. -/
theorem knows_locate (cause : Cause) (steps : List Locating) :
    Knows cause steps ((ofCause cause).locate steps) := by
  induction steps using List.reverseRecOn with
  | nil => exact ⟨rfl, rfl, rfl⟩
  | append_singleton steps s ih =>
    rw [locate, List.foldl_append]
    exact ih.step s

/-! ## What is shown -/

theorem nonempty?_ne_some_empty (path : String) : nonempty? path ≠ some "" := by
  rw [nonempty?]
  split_ifs with h
  · exact nofun
  · exact fun hpath => h (Option.some.inj hpath)

/-- No step says the empty path. -/
theorem Locating.path?_ne_some_empty : ∀ s : Locating, s.path? ≠ some ""
  | .place path _ => nonempty?_ne_some_empty path
  | .offer none _ => nofun
  | .offer (some path) _ => nonempty?_ne_some_empty path

/-- **The empty path** is never known. -/
theorem Knows.path?_ne_some_empty (h : Knows cause steps e) : e.path? ≠ some "" := by
  rw [h.path_eq, ne_eq, Option.or_eq_some_iff]
  rintro (hplace | ⟨-, hoffer⟩)
  · obtain ⟨place, -, hpath⟩ := Option.bind_eq_some_iff.1 hplace
    exact nonempty?_ne_some_empty place.1 hpath
  · obtain ⟨s, -, hs⟩ := List.exists_of_findSome?_eq_some hoffer
    exact s.path?_ne_some_empty hs

/-- **What is shown of an error**: its message, behind the path if there is one; and only behind a
path there is the line. -/
theorem text_eq (e : Error) :
    e.text = (e.path?.elim "" fun path =>
      path ++ (e.line?.elim "" fun line => ":" ++ toString line) ++ ": ") ++ e.cause.message := by
  rw [text]
  rcases e.path? with - | path
  · exact String.empty_append.symm
  · rcases e.line? with - | line
    · exact congrArg (· ++ ": " ++ e.cause.message) String.append_empty.symm
    · simp only [Option.elim_some, String.append_assoc]

/-- **Where an error is after any run of steps**, and how it is shown.  It has the cause that it
began with.  Its path is that of the last placing, or else the first one that is offered behind it,
and never the empty one; and so for its line, whatever became of the path.  It is shown as its
message, behind the path and the line, or behind the path alone; without a path the line is not
shown. -/
theorem located_after (cause : Cause) (steps : List Locating) :
    ((ofCause cause).locate steps).cause = cause ∧
    ((ofCause cause).locate steps).kind = cause.kind ∧
    ((ofCause cause).locate steps).path? ≠ some "" ∧
    ((ofCause cause).locate steps).path? =
      ((lastPlace? steps).bind fun place => nonempty? place.1).or
        ((offersBehind steps).findSome? Locating.path?) ∧
    ((ofCause cause).locate steps).line? =
      ((lastPlace? steps).bind fun place => place.2).or
        ((offersBehind steps).findSome? Locating.line?) ∧
    ((ofCause cause).locate steps).text =
      (((ofCause cause).locate steps).path?.elim "" fun path =>
        path ++ (((ofCause cause).locate steps).line?.elim "" fun line => ":" ++ toString line) ++
          ": ") ++ cause.message := by
  have h := knows_locate cause steps
  refine ⟨h.cause_eq, congrArg Cause.kind h.cause_eq, h.path?_ne_some_empty, h.path_eq, h.line_eq,
    ?_⟩
  rw [text_eq, h.cause_eq]

-- a placing without a path forgets the one before, and keeps its own line
example : ((ofCause .zeroCapacity).locate [.place "a" (some 1), .place "" (some 2),
    .offer none (some 3), .offer (some "") none, .offer (some "b") (some 4)]).text =
    "b:2: Array capacity cannot be zero" := by decide +kernel

end Error
end WireSchema
