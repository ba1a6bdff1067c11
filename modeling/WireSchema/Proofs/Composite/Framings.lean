import Mathlib.Tactic.SplitIfs
import WireSchema.Composite.Extent
import WireSchema.Composite.Framing

/-!
# Proofs/Composite/Framings — extents, headers, and lengths behind them

What a successful step says about an extent (`dvd_of_resolve`, `minimal_le_of_resolve`,
`eq_minimal_of_resolve`), about a header (`header?_eq_ok`), and about the lengths of a type as
others see it: those of a delimited type are the header and any multiple of the alignment up to the
extent (`mem_of_delimited`).
-/

namespace WireSchema

/-! ## Extents -/

namespace Extent

variable {e : Extent} {alignment longest : Nat} {asked? : Option Nat} {isFinal : Bool}

/-- **An extent without a defect** is aligned, not below the minimal one, and for a final type not
above it either. -/
theorem defect?_eq_none_iff :
    e.defect? alignment isFinal = none ↔
      alignment ∣ e.bits ∧ e.minimal ≤ e.bits ∧ (isFinal = true → e.bits ≤ e.minimal) := by
  rw [defect?, Nat.dvd_iff_mod_eq_zero]
  split_ifs with haligned hsmall hlarge
  · simp [haligned]
  · simp only [false_iff]
    omega
  · simp only [Bool.and_eq_true, decide_eq_true_eq] at hlarge
    simp only [false_iff]
    exact fun h => Nat.not_le.2 hlarge.2 (h.2.2 hlarge.1)
  · simp only [Bool.and_eq_true, decide_eq_true_eq, not_and, Nat.not_lt] at hlarge
    simp only [true_iff]
    exact ⟨Decidable.not_not.1 haligned, Nat.not_lt.1 hsmall, hlarge⟩

theorem roundUp?_eq_some_iff {n a m : Nat} :
    roundUp? n a = some m ↔ roundUp n a < lengthLimit ∧ roundUp n a = m := by
  rw [roundUp?]
  split_ifs with h <;> simp [h]

/-- **The steps behind a resolved extent.** -/
theorem resolve_eq_ok_iff :
    resolve alignment longest asked? isFinal = .ok e ↔
      roundUp? longest alignment = some e.minimal ∧
        choose alignment longest e.minimal asked? isFinal = .ok e.bits ∧
        e.defect? alignment isFinal = none := by
  constructor
  · intro h
    obtain ⟨minimal, hminimal, h⟩ := bind_eq_ok_iff.1 h
    obtain ⟨bits, hbits, h⟩ := bind_eq_ok_iff.1 h
    obtain ⟨_, hdefect, h⟩ := bind_eq_ok_iff.1 h
    obtain rfl := Except.ok.inj h
    exact ⟨require_eq_ok_iff.1 hminimal, hbits, refuse_eq_ok_iff.1 hdefect⟩
  · rintro ⟨hminimal, hbits, hdefect⟩
    refine bind_eq_ok_iff.2 ⟨e.minimal, require_eq_ok_iff.2 hminimal, ?_⟩
    refine bind_eq_ok_iff.2 ⟨e.bits, hbits, ?_⟩
    exact bind_eq_ok_iff.2 ⟨(), refuse_eq_ok_iff.2 hdefect, rfl⟩

/-- **What a resolved extent is**: beside the longest aggregate rounded up, the bits that were
chosen, without a defect. -/
theorem resolve_eq_ok (h : resolve alignment longest asked? isFinal = .ok e) :
    e.minimal = roundUp longest alignment ∧
      choose alignment longest e.minimal asked? isFinal = .ok e.bits ∧
      e.defect? alignment isFinal = none :=
  have ⟨hminimal, hchosen⟩ := resolve_eq_ok_iff.1 h
  ⟨(roundUp?_eq_some_iff.1 hminimal).2.symm, hchosen⟩

/-- **A resolved extent may be asked for**: the bits that were chosen have no defect. -/
theorem resolve_some_bits (h : resolve alignment longest asked? isFinal = .ok e) :
    resolve alignment longest (some e.bits) isFinal = .ok e :=
  have ⟨hminimal, _, hdefect⟩ := resolve_eq_ok_iff.1 h
  resolve_eq_ok_iff.2 ⟨hminimal, rfl, hdefect⟩

theorem dvd_of_resolve (h : resolve alignment longest asked? isFinal = .ok e) :
    alignment ∣ e.bits :=
  (defect?_eq_none_iff.1 (resolve_eq_ok h).2.2).1

theorem minimal_le_of_resolve (h : resolve alignment longest asked? isFinal = .ok e) :
    e.minimal ≤ e.bits :=
  (defect?_eq_none_iff.1 (resolve_eq_ok h).2.2).2.1

theorem eq_minimal_of_resolve (h : resolve alignment longest asked? isFinal = .ok e)
    (hfinal : isFinal = true) : e.bits = e.minimal :=
  Nat.le_antisymm ((defect?_eq_none_iff.1 (resolve_eq_ok h).2.2).2.2 hfinal)
    (minimal_le_of_resolve h)

end Extent

/-! ## Headers -/

namespace Framing

variable {alignment extent headerBits : Nat} {isFinal : Bool} {header? : Option UnsignedType}
  {r : LengthSet} {z : Nat}

/-- **A final type has no header**, and any other has one as wide as its alignment asks. -/
theorem header?_eq_ok (h : Framing.header? alignment isFinal = .ok header?) :
    if isFinal then header? = none
    else ∃ header, header? = some header ∧ header.bits = max defaultHeaderBits alignment := by
  unfold Framing.header? at h
  split_ifs at h ⊢
  · exact (Except.ok.inj h).symm
  · dsimp only at h
    split at h
    · next header hbits =>
      exact ⟨header, (Except.ok.inj h).symm, (UnsignedType.ofBits_eq_ok_iff.1 hbits).1⟩
    · exact absurd h (by simp)

/-! ## Lengths -/

theorem mem_of_progression? {start stride count : Nat}
    (h : LengthSet.progression? start stride count = some r) :
    z ∈ r ↔ ∃ i < count, start + stride * i = z := by
  unfold LengthSet.progression? at h
  split_ifs at h
  obtain rfl := Option.some.inj h
  rw [← LengthSet.mem_toList, List.mem_range']
  simp only [eq_comm]

/-- **The lengths of a delimited type** are the header and any multiple of the alignment that is
not above the extent. -/
theorem mem_of_delimited (hpos : 0 < alignment)
    (h : delimited alignment extent headerBits = .ok r) :
    z ∈ r ↔ ∃ n ≤ extent, alignment ∣ n ∧ headerBits + n = z := by
  obtain ⟨_, -, h⟩ := bind_eq_ok_iff.1 h
  obtain ⟨_, -, h⟩ := bind_eq_ok_iff.1 h
  obtain ⟨body, hbody, hshift⟩ := Option.bind_eq_some_iff.1 (require_eq_ok_iff.1 h)
  simp only [LengthSet.mem_of_shift? hshift, mem_of_progression? hbody]
  constructor
  · rintro ⟨_, ⟨i, hi, rfl⟩, rfl⟩
    refine ⟨alignment * i, ?_, Nat.dvd_mul_right alignment i, by omega⟩
    rw [Nat.mul_comm]
    exact (Nat.le_div_iff_mul_le hpos).1 (Nat.lt_succ_iff.1 hi)
  · rintro ⟨_, hn, ⟨i, rfl⟩, rfl⟩
    refine ⟨alignment * i, ⟨i, Nat.lt_succ_of_le ?_, Nat.zero_add _⟩, Nat.add_comm _ _⟩
    rw [Nat.le_div_iff_mul_le hpos, Nat.mul_comm]
    exact hn

end Framing
end WireSchema
