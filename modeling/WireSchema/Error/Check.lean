/-!
# Error/Check — checks that may stop a computation

A definition is checked one rule after the other, and the first rule that is broken decides the
error.  A rule is either a value that is needed (`require`) or a defect that must not be there
(`refuse`).
-/

namespace WireSchema

/-- **Goes on with the value**, or stops where there is none. -/
def require {ε α : Type} (e : ε) : Option α → Except ε α
  | some a => .ok a
  | none => .error e

/-- **Stops at the defect**, or goes on where there is none. -/
def refuse {ε : Type} : Option ε → Except ε Unit
  | some e => .error e
  | none => .ok ()

@[simp] theorem require_eq_ok_iff {ε α : Type} {e : ε} {a? : Option α} {a : α} :
    require e a? = .ok a ↔ a? = some a := by
  cases a? <;> simp [require]

@[simp] theorem refuse_eq_ok_iff {ε : Type} {e? : Option ε} {u : Unit} :
    refuse e? = .ok u ↔ e? = none := by
  cases e? <;> simp [refuse]

@[simp] theorem require_eq_error_iff {ε α : Type} {e e' : ε} {a? : Option α} :
    require e a? = .error e' ↔ a? = none ∧ e = e' := by
  cases a? <;> simp [require]

@[simp] theorem refuse_eq_error_iff {ε : Type} {e? : Option ε} {e : ε} :
    refuse e? = .error e ↔ e? = some e := by
  cases e? <;> simp [refuse]

/-- **Two steps go on** exactly if the first does and the second does with its value. -/
theorem bind_eq_ok_iff {ε α β : Type} {x : Except ε α} {f : α → Except ε β} {b : β} :
    (x >>= f) = .ok b ↔ ∃ a, x = .ok a ∧ f a = .ok b := by
  cases x <;> simp [bind, Except.bind]

/-- **Two steps stop** where the first does, or where the second does with its value. -/
theorem bind_eq_error_iff {ε α β : Type} {x : Except ε α} {f : α → Except ε β} {e : ε} :
    (x >>= f) = .error e ↔ x = .error e ∨ ∃ a, x = .ok a ∧ f a = .error e := by
  cases x <;> simp [bind, Except.bind]

theorem mapError_eq_ok_iff {ε ε' α : Type} {x : Except ε α} {f : ε → ε'} {a : α} :
    x.mapError f = .ok a ↔ x = .ok a := by
  cases x with
  | error e => exact iff_of_false nofun nofun
  | ok b =>
    change Except.ok b = Except.ok a ↔ _
    rw [Except.ok.injEq, Except.ok.injEq]

theorem mapError_eq_error_iff {ε ε' α : Type} {x : Except ε α} {f : ε → ε'} {e' : ε'} :
    x.mapError f = .error e' ↔ ∃ e, x = .error e ∧ f e = e' := by
  cases x with
  | error e =>
    change Except.error (f e) = Except.error e' ↔ _
    simp
  | ok a => exact iff_of_false nofun nofun

/-- What is made of a value that is needed is refused where there is none. -/
theorem map_require_eq_error_iff {ε α β : Type} {e e' : ε} {a? : Option α} {f : α → β} :
    (require e a?).map f = .error e' ↔ e' = e ∧ ¬ ∃ a, a? = some a := by
  cases a? with
  | none =>
    change Except.error e = Except.error e' ↔ _
    simp [eq_comm]
  | some a => exact iff_of_false nofun fun h => h.2 ⟨a, rfl⟩

/-- Errors may be changed after two steps, or after each of them. -/
theorem mapError_bind {ε ε' α β : Type} (x : Except ε α) (f : α → Except ε β) (g : ε → ε') :
    (x >>= f).mapError g = (x.mapError g >>= fun a => (f a).mapError g) := by
  cases x <;> rfl

/-- A value may be changed before the error is, or after. -/
theorem mapError_map {ε ε' α β : Type} (x : Except ε α) (f : α → β) (g : ε → ε') :
    (x.map f).mapError g = (x.mapError g).map f := by
  cases x <;> rfl

theorem mapError_mapError {ε ε' ε'' α : Type} (x : Except ε α) (f : ε → ε') (g : ε' → ε'') :
    (x.mapError f).mapError g = x.mapError fun e => g (f e) := by
  cases x <;> rfl

/-- A run whose value is known through `f` went well. -/
theorem toOption_map_eq_some_iff {ε α β : Type} {x : Except ε α} {f : α → β} {b : β} :
    x.toOption.map f = some b ↔ ∃ a, x = .ok a ∧ f a = b := by
  cases x <;> simp [Except.toOption]

/-- What is looked for in the value of a run is found if the run went well. -/
theorem toOption_bind_eq_some_iff {ε α β : Type} {x : Except ε α} {f : α → Option β} {b : β} :
    x.toOption.bind f = some b ↔ ∃ a, x = .ok a ∧ f a = some b := by
  cases x <;> simp [Except.toOption]

/-- A run without a value has an error. -/
theorem exists_error_of_isNone {ε α : Type} {x : Except ε α} (h : x.toOption.isNone = true) :
    ∃ e, x = .error e := by
  cases x with
  | error e => exact ⟨e, rfl⟩
  | ok a => exact absurd h Bool.false_ne_true

end WireSchema
