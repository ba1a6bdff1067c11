import WireSchema.Error.Check
import WireSchema.Error.Kind

/-!
# Proofs/Error/SameOutcome — two runs side by side

Two runs of the same checks on different inputs have the **same outcome** if both go well, with
values that are related, or both stop, at errors of the same kind.  Like `OnlyFails` it is put
together step by step: related values of one step go into the next (`SameOutcome.bind`).
-/

namespace WireSchema

variable {ε ε' α α' β β' : Type} {kind : ε → ErrorKind} {R : α → α' → Prop} {x : Except ε α}
  {y : Except ε α'}

/-- **The same outcome of two runs**: related values, or errors of the same kind. -/
inductive SameOutcome (kind : ε → ErrorKind) (R : α → α' → Prop) : Except ε α → Except ε α' → Prop
  | ok {a : α} {a' : α'} (h : R a a') : SameOutcome kind R (.ok a) (.ok a')
  | error {e e' : ε} (h : kind e = kind e') : SameOutcome kind R (.error e) (.error e')

theorem SameOutcome.refl {R : α → α → Prop} (hR : ∀ a, R a a) (x : Except ε α) :
    SameOutcome kind R x x := by
  cases x with
  | ok a => exact .ok (hR a)
  | error e => exact .error rfl

/-- **One step after the other**, in both runs. -/
theorem SameOutcome.bind {S : β → β' → Prop} {f : α → Except ε β} {g : α' → Except ε β'}
    (h : SameOutcome kind R x y) (hf : ∀ a a', R a a' → SameOutcome kind S (f a) (g a')) :
    SameOutcome kind S (x >>= f) (y >>= g) := by
  cases h with
  | ok h => exact hf _ _ h
  | error h => exact .error h

/-- What is related may be related otherwise, for what the two runs come to. -/
theorem SameOutcome.imp {S : α → α' → Prop} (h : SameOutcome kind R x y)
    (hRS : ∀ a a', x = .ok a → y = .ok a' → R a a' → S a a') : SameOutcome kind S x y := by
  cases h with
  | ok h => exact .ok (hRS _ _ rfl rfl h)
  | error h => exact .error h

theorem SameOutcome.mapError {kind' : ε' → ErrorKind} {f g : ε → ε'} (h : SameOutcome kind R x y)
    (hf : ∀ e, kind' (f e) = kind e) (hg : ∀ e, kind' (g e) = kind e) :
    SameOutcome kind' R (x.mapError f) (y.mapError g) := by
  cases h with
  | ok h => exact .ok h
  | error h => exact .error ((hf _).trans (h.trans (hg _).symm))

/-- The same value is needed in both runs. -/
theorem sameOutcome_require {e e' : ε} (he : kind e = kind e') (a? : Option α) :
    SameOutcome kind Eq (require e a?) (require e' a?) := by
  cases a? with
  | some a => exact .ok rfl
  | none => exact .error he

/-- Defects of the same kind stop both runs. -/
theorem sameOutcome_refuse {e? e'? : Option ε} (h : e?.map kind = e'?.map kind) :
    SameOutcome kind Eq (refuse e?) (refuse e'?) := by
  match e?, e'?, h with
  | some e, some e', h => exact .error (Option.some.inj h)
  | none, none, _ => exact .ok rfl

end WireSchema
