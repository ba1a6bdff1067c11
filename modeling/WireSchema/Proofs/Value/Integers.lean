import WireSchema.Value.Basic

/-!
# Proofs/Value/Integers — values as integers

What integer a value is, is said in unbounded arithmetic (`Value.IsInteger`).  Where it is an
integer of 128 bits the view of the value finds it, and otherwise there is none.  One rational
number is left out of this: the quotient of the lowest integer and minus one is an integer, but the
first that is too large (`Int128.ofInt?_tdiv_eq_none_iff`), and the view faults where it should find
nothing (`Value.asInteger_lowestNegated`).  The main theorem is `Value.views_of_integers`.
-/

namespace WireSchema

/-! ## Quotients of 128 bits -/

namespace Int128

variable {n d : Int128}

theorem ofInt?_eq_none_iff {z : Int} :
    ofInt? z = none ↔ ¬ (-int128Limit ≤ z ∧ z < int128Limit) := by
  rw [ofInt?]
  split
  · next h => exact iff_of_false (Option.some_ne_none _) (not_not_intro h)
  · next h => exact iff_of_true rfl h

theorem toInt_inj {n d : Int128} : n.toInt = d.toInt ↔ n = d := by
  cases n
  cases d
  rw [mk.injEq]

/-- The lowest integer. -/
def lowest : Int128 := ⟨-int128Limit, Int.le_refl _, by decide⟩

/-- Minus one. -/
def minusOne : Int128 := ⟨-1, by decide, by decide⟩

/-- **A quotient leaves the range** only for the lowest integer over minus one. -/
theorem ofInt?_tdiv_eq_none_iff (hd : d.toInt ≠ 0) :
    ofInt? (n.toInt.tdiv d.toInt) = none ↔ n = lowest ∧ d = minusOne := by
  rw [ofInt?_eq_none_iff, ← toInt_inj, ← toInt_inj]
  constructor
  · intro hout
    have hlow := n.le_toInt
    have hhigh := n.toInt_lt
    have hcases : d.toInt = 1 ∨ d.toInt = -1 ∨ 2 ≤ d.toInt.natAbs := by omega
    rcases hcases with hone | hminus | htwo
    · rw [hone, Int.tdiv_one] at hout
      exact absurd ⟨hlow, hhigh⟩ hout
    · rw [hminus, Int.tdiv_neg, Int.tdiv_one] at hout
      refine ⟨?_, hminus⟩
      change n.toInt = -int128Limit
      omega
    · -- any other divisor at least halves the dividend
      have hhalf : (n.toInt.tdiv d.toInt).natAbs ≤ n.toInt.natAbs / 2 := by
        rw [Int.natAbs_tdiv]
        exact Nat.div_le_div_left htwo Nat.two_pos
      have hpos : 0 < int128Limit := by decide
      omega
  · rintro ⟨hn, hd⟩
    rw [hn, hd]
    decide

end Int128

namespace Value

variable {v : Value} {n d q : Int128}

/-- **The value is the integer `q`**, in unbounded arithmetic. -/
def IsInteger : Value → Int → Prop
  | .integer n, q => n.toInt = q
  | .rational n d, q => d.toInt ≠ 0 ∧ n.toInt = q * d.toInt
  | _, _ => False

/-- The rational number whose quotient is an integer that leaves the range. -/
def lowestNegated : Value := .rational .lowest .minusOne

/-- **A rational number is viewed** as its quotient, if that leaves no remainder. -/
theorem asInteger_rational (hd : d.toInt ≠ 0) : (rational n d).asInteger =
    match Int128.ofInt? (n.toInt.tdiv d.toInt) with
    | none => .error .remainder
    | some q => .ok (if n.toInt.tmod d.toInt = 0 then some q else none) :=
  if_neg hd

theorem asInteger_rational_zero (hd : d.toInt = 0) : (rational n d).asInteger = .ok none :=
  if_pos hd

theorem asInteger_rational_eq_some_iff (hd : d.toInt ≠ 0) :
    (rational n d).asInteger = .ok (some q) ↔ n.toInt = q.toInt * d.toInt := by
  rw [asInteger_rational hd]
  constructor
  · intro h
    split at h
    · exact absurd h nofun
    · next q' hquotient =>
      rw [Int128.ofInt?_eq_some_iff] at hquotient
      have hsome := Except.ok.inj h
      split at hsome
      · next hrest =>
        rw [← Option.some.inj hsome, hquotient, Int.tdiv_mul_cancel_of_tmod_eq_zero hrest]
      · exact absurd hsome nofun
  · intro hn
    have hquotient : Int128.ofInt? (n.toInt.tdiv d.toInt) = some q :=
      Int128.ofInt?_eq_some_iff.2 (Int.tdiv_eq_of_eq_mul_left hd hn).symm
    have hrest : n.toInt.tmod d.toInt = 0 := by rw [hn, Int.mul_tmod_left]
    rw [hquotient, hrest]
    rfl

/-- **The view finds the integer** that the value is. -/
theorem asInteger_eq_some_iff : v.asInteger = .ok (some q) ↔ v.IsInteger q.toInt := by
  cases v with
  | boolean | string => exact iff_of_false nofun id
  | integer n =>
    rw [asInteger, Except.ok.injEq, Option.some.injEq, ← Int128.toInt_inj]
    rfl
  | rational n d =>
    by_cases hd : d.toInt = 0
    · rw [asInteger_rational_zero hd]
      exact iff_of_false nofun fun h => h.1 hd
    · exact (asInteger_rational_eq_some_iff hd).trans (and_iff_right hd).symm

/-- **The view faults** at one value only. -/
theorem asInteger_eq_error_iff {f : Fault} :
    v.asInteger = .error f ↔ f = .remainder ∧ v = lowestNegated := by
  cases v with
  | boolean | string | integer => exact iff_of_false nofun fun h => nomatch h.2
  | rational n d =>
    rw [lowestNegated, rational.injEq]
    by_cases hd : d.toInt = 0
    · rw [asInteger_rational_zero hd]
      refine iff_of_false nofun fun ⟨_, _, hminus⟩ => ?_
      rw [hminus] at hd
      exact absurd hd (by decide)
    · rw [asInteger_rational hd, ← Int128.ofInt?_tdiv_eq_none_iff hd]
      split
      · next hnone => exact ⟨fun h => ⟨(Except.error.inj h).symm, hnone⟩, fun h => h.1 ▸ rfl⟩
      · next hsome => exact iff_of_false nofun fun h => absurd (hsome.symm.trans h.2) nofun

/-- **The view finds nothing** where the value is no integer in range, but for the one value at
which it faults. -/
theorem asInteger_eq_none_iff :
    v.asInteger = .ok none ↔ v ≠ lowestNegated ∧ ∀ q : Int128, ¬ v.IsInteger q.toInt := by
  cases hview : v.asInteger with
  | error f =>
    obtain ⟨-, hv⟩ := asInteger_eq_error_iff.1 hview
    exact iff_of_false nofun fun h => h.1 hv
  | ok n? =>
    have hne : v ≠ lowestNegated := fun hv =>
      absurd (hview.symm.trans (asInteger_eq_error_iff.2 ⟨rfl, hv⟩)) nofun
    cases n? with
    | none =>
      refine iff_of_true rfl ⟨hne, fun q hq => ?_⟩
      exact absurd (hview.symm.trans (asInteger_eq_some_iff.2 hq)) nofun
    | some q => exact iff_of_false nofun fun h => h.2 q (asInteger_eq_some_iff.1 hview)

/-! ## Views as words -/

theorem asWord_of_error {f : Fault} (h : v.asInteger = .error f) : v.asWord = .error f := by
  rw [asWord, h, Except.map]

theorem asWord_of_none (h : v.asInteger = .ok none) : v.asWord = .ok none := by
  rw [asWord, h, Except.map, Option.bind_none]

theorem asWord_of_some (h : v.asInteger = .ok (some q)) : v.asWord =
    .ok (if 0 ≤ q.toInt ∧ q.toInt < lengthLimit then some q.toInt.toNat else none) := by
  rw [asWord, h, Except.map, Option.bind_some]

/-- **The view as a word** has the integers that are words. -/
theorem asWord_eq_some_iff {n : Nat} : v.asWord = .ok (some n) ↔
    n < lengthLimit ∧ ∃ q : Int128, v.asInteger = .ok (some q) ∧ q.toInt = n := by
  cases hview : v.asInteger with
  | error f =>
    rw [asWord_of_error hview]
    exact iff_of_false nofun fun ⟨_, _, h, _⟩ => nomatch h
  | ok n? =>
    cases n? with
    | none =>
      rw [asWord_of_none hview]
      exact iff_of_false nofun fun ⟨_, _, h, _⟩ => nomatch h
    | some q =>
      rw [asWord_of_some hview, Except.ok.injEq]
      constructor
      · intro h
        split at h
        · next hword =>
          have hn := Option.some.inj h
          exact ⟨by omega, q, rfl, by omega⟩
        · exact absurd h nofun
      · rintro ⟨hlt, _, hq, hn⟩
        obtain rfl := Option.some.inj (Except.ok.inj hq)
        rw [hn, if_pos ⟨Int.natCast_nonneg n, Int.ofNat_lt.2 hlt⟩, Int.toNat_natCast]

/-- The view as a word faults where the view as an integer does. -/
theorem asWord_eq_error_iff {f : Fault} : v.asWord = .error f ↔ v.asInteger = .error f := by
  cases hview : v.asInteger with
  | error f' => rw [asWord_of_error hview, Except.error.injEq, Except.error.injEq]
  | ok n? =>
    cases n? with
    | none =>
      rw [asWord_of_none hview]
      exact iff_of_false nofun nofun
    | some q =>
      rw [asWord_of_some hview]
      exact iff_of_false nofun nofun

/-! ## All values -/

/-- **The views of a value as an integer are exact.**  The value is found to be an integer exactly
if it is one in unbounded arithmetic, and to be a word exactly if it is one that fits.  It is found
to be none otherwise, but for the lowest integer over minus one, where both views fault. -/
theorem views_of_integers (v : Value) :
    (∀ q : Int128, v.asInteger = .ok (some q) ↔ v.IsInteger q.toInt) ∧
      (v.asInteger = .ok none ↔ v ≠ lowestNegated ∧ ∀ q : Int128, ¬ v.IsInteger q.toInt) ∧
      (∀ f, v.asInteger = .error f ↔ f = .remainder ∧ v = lowestNegated) ∧
      (∀ n : Nat, v.asWord = .ok (some n) ↔
        n < lengthLimit ∧ ∃ q : Int128, v.asInteger = .ok (some q) ∧ q.toInt = n) ∧
      ∀ f, v.asWord = .error f ↔ v.asInteger = .error f :=
  ⟨fun _ => asInteger_eq_some_iff, asInteger_eq_none_iff, fun _ => asInteger_eq_error_iff,
    fun _ => asWord_eq_some_iff, fun _ => asWord_eq_error_iff⟩

/-- **The views are not total**: at the lowest integer over minus one both fault, though no integer
in range is its quotient and nothing should be found. -/
theorem asInteger_lowestNegated :
    lowestNegated.asInteger = .error .remainder ∧ lowestNegated.asWord = .error .remainder ∧
      ∀ q : Int128, ¬ lowestNegated.IsInteger q.toInt := by
  have hfault : lowestNegated.asInteger = .error .remainder := asInteger_eq_error_iff.2 ⟨rfl, rfl⟩
  refine ⟨hfault, asWord_of_error hfault, fun q hq => ?_⟩
  exact absurd (hfault.symm.trans (asInteger_eq_some_iff.2 hq)) nofun

end Value
end WireSchema
