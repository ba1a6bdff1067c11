import WireSchema.Bits.RoundUp
import WireSchema.Proofs.LengthSet.RowSums

/-!
# Proofs/Layout/Slot — where values that are laid out may end

A **slot** is room for one value: the alignment that it asks for and the lengths that it may take.
Slots are filled one behind the other (`endsInRow`), or one of them is (`endsOfOne`); every value
starts at the next multiple of its alignment.  All of this is in unbounded arithmetic.

Two facts carry the theory.  A start that every alignment divides may be taken out of a row
(`mem_endsInRow_add`), because rounding up commutes with a shift by a multiple.  And a row of equal
slots whose lengths are all aligned needs no padding: its ends are sums (`mem_endsInRow_replicate`).
-/

namespace WireSchema

/-- **Room for a value**: where it may start, and how long it may be. -/
structure Slot where
  alignment : Nat
  lengths : Set Nat

namespace Slot

variable {slots : List Slot} {start stop base : Nat}

/-- **Where a row of values may end** that starts at `start`: each value starts at the next multiple
of its alignment and has one of its lengths. -/
def endsInRow : List Slot → Nat → Set Nat
  | [], start => {start}
  | s :: rest, start =>
      {stop | ∃ x ∈ s.lengths, stop ∈ endsInRow rest (roundUp start s.alignment + x)}

/-- **Where a single value may end** that starts at `start` and fills any one of the slots. -/
def endsOfOne (slots : List Slot) (start : Nat) : Set Nat :=
  {stop | ∃ s ∈ slots, ∃ x ∈ s.lengths, roundUp start s.alignment + x = stop}

@[simp] theorem mem_endsInRow_nil : stop ∈ endsInRow [] start ↔ stop = start := Iff.rfl

theorem mem_endsInRow_cons {s : Slot} :
    stop ∈ endsInRow (s :: slots) start ↔
      ∃ x ∈ s.lengths, stop ∈ endsInRow slots (roundUp start s.alignment + x) := Iff.rfl

theorem mem_endsOfOne :
    stop ∈ endsOfOne slots start ↔
      ∃ s ∈ slots, ∃ x ∈ s.lengths, roundUp start s.alignment + x = stop := Iff.rfl

/-- A row does not end before it starts. -/
theorem le_of_mem_endsInRow :
    ∀ {slots : List Slot} {start : Nat}, stop ∈ endsInRow slots start → start ≤ stop
  | [], _, h => (mem_endsInRow_nil.1 h).ge
  | s :: _, start, ⟨x, _, h⟩ => by
      have hstart : start ≤ roundUp start s.alignment := le_roundUp start s.alignment
      have hrest := le_of_mem_endsInRow h
      omega

/-- A row of slots that can all be filled ends somewhere. -/
theorem exists_mem_endsInRow : ∀ {slots : List Slot} (start : Nat),
    (∀ s ∈ slots, s.lengths.Nonempty) → ∃ stop, stop ∈ endsInRow slots start
  | [], start, _ => ⟨start, rfl⟩
  | s :: rest, start, h => by
      obtain ⟨x, hx⟩ := h s List.mem_cons_self
      obtain ⟨stop, hstop⟩ := exists_mem_endsInRow (roundUp start s.alignment + x)
        fun r hr => h r (List.mem_cons_of_mem s hr)
      exact ⟨stop, x, hx, hstop⟩

/-- **A shift by a multiple of every alignment** shifts the ends of a row with it. -/
theorem mem_endsInRow_add : ∀ {slots : List Slot} {start : Nat},
    (∀ s ∈ slots, s.alignment ∣ base) →
    (stop ∈ endsInRow slots (base + start) ↔ ∃ z ∈ endsInRow slots start, base + z = stop)
  | [], start, _ => by simp [eq_comm]
  | s :: rest, start, h => by
      have hrest : ∀ r ∈ rest, r.alignment ∣ base := fun r hr => h r (List.mem_cons_of_mem s hr)
      simp only [mem_endsInRow_cons, roundUp_add_left start (h s List.mem_cons_self), Nat.add_assoc,
        mem_endsInRow_add hrest]
      constructor
      · rintro ⟨x, hx, z, hz, rfl⟩
        exact ⟨z, ⟨x, hx, hz⟩, rfl⟩
      · rintro ⟨z, ⟨x, hx, hz⟩, rfl⟩
        exact ⟨x, hx, z, hz, rfl⟩

/-- **A row of equal slots with aligned lengths** has no padding: from an aligned start it ends a
sum of so many lengths further on. -/
theorem mem_endsInRow_replicate {a : Nat} {L : Set Nat} (hL : ∀ x ∈ L, a ∣ x) :
    ∀ {k start stop : Nat}, a ∣ start →
    (stop ∈ endsInRow (List.replicate k ⟨a, L⟩) start ↔ ∃ y ∈ rowSums L k, start + y = stop)
  | 0, start, stop, _ => by simp [eq_comm]
  | k + 1, start, stop, hstart => by
      simp only [List.replicate_succ, mem_endsInRow_cons, roundUp_eq_self hstart, mem_rowSums_succ]
      constructor
      · rintro ⟨x, hx, hstop⟩
        have hnext : a ∣ start + x := Nat.dvd_add hstart (hL x hx)
        obtain ⟨y, hy, rfl⟩ := (mem_endsInRow_replicate hL hnext).1 hstop
        exact ⟨x + y, ⟨x, hx, y, hy, rfl⟩, (Nat.add_assoc start x y).symm⟩
      · rintro ⟨_, ⟨x, hx, y, hy, rfl⟩, rfl⟩
        have hnext : a ∣ start + x := Nat.dvd_add hstart (hL x hx)
        exact ⟨x, hx, (mem_endsInRow_replicate hL hnext).2 ⟨y, hy, Nat.add_assoc start x y⟩⟩

end Slot
end WireSchema
