import WireSchema.Error.Cause

/-!
# Primitive — types of a single fixed length

Integers with and without a sign, floating-point numbers and fillers are made for a width in bits.
Each family has a range of widths, which is part of the type; `ofBits` refuses every other width.
The cast mode says what becomes of a number that is out of range; here it is only kept and shown.
-/

namespace WireSchema

/-- **What becomes of a number out of range**: it is held at the end of the range, or cut. -/
inductive CastMode where
  | saturated
  | truncated
  deriving DecidableEq, Repr

/-- The word for the mode. -/
def CastMode.text : CastMode → String
  | .saturated => "saturated"
  | .truncated => "truncated"

/-- Whether the family has a type of so many bits. -/
def WidthFamily.Admits (family : WidthFamily) (bits : Nat) : Prop :=
  family.narrowest ≤ bits ∧ bits ≤ widestPrimitive

instance (family : WidthFamily) (bits : Nat) : Decidable (family.Admits bits) :=
  inferInstanceAs (Decidable (_ ∧ _))

theorem WidthFamily.Admits.lt_lengthLimit {family : WidthFamily} {bits : Nat}
    (h : family.Admits bits) : bits < lengthLimit :=
  Nat.lt_of_le_of_lt h.2 (by decide)

/-! ## Integers -/

/-- **An integer type without a sign.** -/
structure UnsignedType where
  bits : Nat
  cast : CastMode
  admitted : WidthFamily.unsigned.Admits bits
  deriving DecidableEq

/-- The type of the width, if the family has it. -/
def UnsignedType.ofBits (bits : Nat) (cast : CastMode) : Except Cause UnsignedType :=
  if h : WidthFamily.unsigned.Admits bits then .ok ⟨bits, cast, h⟩
  else .error (.width .unsigned bits)

theorem UnsignedType.ofBits_eq_ok_iff {bits : Nat} {cast : CastMode} {t : UnsignedType} :
    ofBits bits cast = .ok t ↔ t.bits = bits ∧ t.cast = cast := by
  unfold ofBits
  split
  · next h =>
    cases t
    simp [eq_comm]
  · next h =>
    simp only [reduceCtorEq, false_iff]
    rintro ⟨rfl, -⟩
    exact h t.admitted

theorem UnsignedType.exists_ofBits {bits : Nat} (h : WidthFamily.unsigned.Admits bits)
    (cast : CastMode) : ∃ t, ofBits bits cast = .ok t :=
  ⟨⟨bits, cast, h⟩, dif_pos h⟩

/-- The type as it is written. -/
def UnsignedType.text (t : UnsignedType) : String := t.cast.text ++ " uint" ++ toString t.bits

/-- The one length of its values. -/
def UnsignedType.lengths (t : UnsignedType) : LengthSet :=
  .singleton t.bits t.admitted.lt_lengthLimit

/-- **An integer type with a sign.** -/
structure SignedType where
  bits : Nat
  cast : CastMode
  admitted : WidthFamily.signed.Admits bits
  deriving DecidableEq

/-- The type of the width, if the family has it. -/
def SignedType.ofBits (bits : Nat) (cast : CastMode) : Except Cause SignedType :=
  if h : WidthFamily.signed.Admits bits then .ok ⟨bits, cast, h⟩
  else .error (.width .signed bits)

/-- The type as it is written. -/
def SignedType.text (t : SignedType) : String := t.cast.text ++ " int" ++ toString t.bits

/-- The one length of its values. -/
def SignedType.lengths (t : SignedType) : LengthSet :=
  .singleton t.bits t.admitted.lt_lengthLimit

/-! ## Floating-point numbers -/

/-- The widths of floating-point formats. -/
def floatWidths : List Nat := [16, 32, 64]

/-- **A floating-point type.** -/
structure FloatType where
  bits : Nat
  cast : CastMode
  admitted : bits ∈ floatWidths
  deriving DecidableEq

/-- The type of the width, if there is such a format. -/
def FloatType.ofBits (bits : Nat) (cast : CastMode) : Except Cause FloatType :=
  if h : bits ∈ floatWidths then .ok ⟨bits, cast, h⟩ else .error (.floatWidth bits)

/-- The type as it is written. -/
def FloatType.text (t : FloatType) : String := t.cast.text ++ " float" ++ toString t.bits

theorem FloatType.bits_lt_lengthLimit (t : FloatType) : t.bits < lengthLimit := by
  have := t.admitted
  simp only [floatWidths, List.mem_cons, List.not_mem_nil, or_false] at this
  unfold lengthLimit
  omega

/-- The one length of its values. -/
def FloatType.lengths (t : FloatType) : LengthSet := .singleton t.bits t.bits_lt_lengthLimit

/-! ## Fillers -/

/-- **A filler**: bits without a value. -/
structure VoidType where
  bits : Nat
  admitted : WidthFamily.void.Admits bits
  deriving DecidableEq

/-- The filler of the width, if there is one. -/
def VoidType.ofBits (bits : Nat) : Except Cause VoidType :=
  if h : WidthFamily.void.Admits bits then .ok ⟨bits, h⟩ else .error (.width .void bits)

/-- The filler as it is written. -/
def VoidType.text (t : VoidType) : String := "void" ++ toString t.bits

/-- The one length of its values. -/
def VoidType.lengths (t : VoidType) : LengthSet := .singleton t.bits t.admitted.lt_lengthLimit

end WireSchema
