import WireSchema.Error.Check

/-!
# Proofs/Error/OnlyFails — what a run may stop at

`OnlyFails P x` says that if the run `x` stops, it stops at an error of which `P` holds.  It is put
together step by step: what follows a step is looked at only for the values that the step can have
(`OnlyFails.bind`), and so a check behind an earlier one may be shown never to stop the run.
-/

namespace WireSchema

variable {ε ε' α β : Type} {P : ε → Prop} {x : Except ε α}

/-- **The run stops only at errors of which `P` holds**, if it stops. -/
def OnlyFails (P : ε → Prop) (x : Except ε α) : Prop := ∀ e, x = .error e → P e

theorem onlyFails_ok (P : ε → Prop) (a : α) : OnlyFails P (.ok a) := nofun

/-- **One step after the other**, the second with what the first came to. -/
theorem OnlyFails.bind {f : α → Except ε β} (hx : OnlyFails P x)
    (hf : ∀ a, x = .ok a → OnlyFails P (f a)) : OnlyFails P (x >>= f) := by
  intro e he
  rcases bind_eq_error_iff.1 he with he | ⟨a, ha, he⟩
  · exact hx e he
  · exact hf a ha e he

theorem onlyFails_require {e : ε} {a? : Option α} (h : a? = none → P e) :
    OnlyFails P (require e a?) := by
  intro e' he
  obtain ⟨hnone, rfl⟩ := require_eq_error_iff.1 he
  exact h hnone

theorem onlyFails_refuse {e? : Option ε} (h : ∀ e, e? = some e → P e) : OnlyFails P (refuse e?) :=
  fun e he => h e (refuse_eq_error_iff.1 he)

theorem OnlyFails.mapError {f : ε → ε'} {R : ε' → Prop} (h : OnlyFails P x)
    (hf : ∀ e, P e → R (f e)) : OnlyFails R (x.mapError f) := by
  intro e' he
  obtain ⟨e, hx, rfl⟩ := mapError_eq_error_iff.1 he
  exact hf e (h e hx)

end WireSchema
