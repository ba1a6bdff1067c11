/-!
# Value/Int128 — signed integers of 128 bits

An `Int128` is an integer from `-int128Limit` on and below `int128Limit`.  `ofInt?` takes the
integers that are in range, and `ofInt` brings any integer into range by a multiple of their number.
-/

namespace WireSchema

/-- **The limit of 128-bit integers**: the first that is too large, and the last on the other
side. -/
def int128Limit : Int := 0x80000000000000000000000000000000

/-- **An integer of 128 bits** in two's complement. -/
structure Int128 where
  toInt : Int
  le_toInt : -int128Limit ≤ toInt
  toInt_lt : toInt < int128Limit
  deriving DecidableEq

namespace Int128

/-- The number of 128-bit integers. -/
def count : Nat := 0x100000000000000000000000000000000

/-- The integer itself, if it is in range. -/
def ofInt? (n : Int) : Option Int128 :=
  if h : -int128Limit ≤ n ∧ n < int128Limit then some ⟨n, h.1, h.2⟩ else none

theorem le_bmod (n : Int) : -int128Limit ≤ n.bmod count := by
  have := Int.le_bmod (x := n) (m := count) (by decide)
  unfold count int128Limit at *
  omega

theorem bmod_lt (n : Int) : n.bmod count < int128Limit := by
  have := Int.bmod_lt (x := n) (m := count) (by decide)
  unfold count int128Limit at *
  omega

/-- **The number in range that differs from `n` by a multiple of `count`.** -/
def ofInt (n : Int) : Int128 := ⟨n.bmod count, le_bmod n, bmod_lt n⟩

theorem toInt_ofInt {n : Int} (h : -int128Limit ≤ n) (h' : n < int128Limit) :
    (ofInt n).toInt = n := by
  refine Int.bmod_eq_of_le ?_ ?_ <;> unfold count int128Limit at * <;> omega

theorem ofInt?_eq_some_iff {n : Int} {q : Int128} : ofInt? n = some q ↔ q.toInt = n := by
  unfold ofInt?
  split
  · next h =>
    constructor
    · intro hq
      obtain rfl := Option.some.inj hq
      rfl
    · intro hq
      cases q
      simp_all
  · next h =>
    constructor
    · simp
    · rintro rfl
      exact absurd ⟨q.le_toInt, q.toInt_lt⟩ h

end Int128
end WireSchema
