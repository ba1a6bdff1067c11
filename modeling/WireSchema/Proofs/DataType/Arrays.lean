import WireSchema.Proofs.Composite.Longest
import WireSchema.Proofs.DataType.Buildable
import WireSchema.Proofs.LengthSet.RowsOfRows

/-!
# Proofs/DataType/Arrays — the arrays that are refused

An array is refused for its row: because the longest row is no length, or because the grid that the
lengths of the row lie on cannot be filled.  Three facts:

* `LengthSet.union_of_replicateUpTo?` — a row of at most so many values is the union of the rows of
  each number of them, none of which is refused if it is not.  So an array of at most so many
  elements asks for more than any array of exactly as many or fewer.
* `LengthSet.replicate?_mul_add` — rows of rows are rows, and a row is its front and its back.  So
  an array of arrays asks for more than the flat array of all their elements.
* `DataType.Buildable.array_refused_iff` — when an array is refused.  Too many lengths are always a
  reason, as there are at least as many cells.  But cells are counted, not lengths, and a few lengths
  at great distances have many cells between them (`Composite.refused_sparse`).
-/

namespace WireSchema

/-! ## Rows of at most so many values -/

/-- **A row of at most so many values is the union of rows.**  Where it is not refused, no row of as
many or fewer values is, and it has the lengths of all of them.  So where an array of at most so
many elements can be made, every array of as many or fewer elements can be. -/
theorem LengthSet.union_of_replicateUpTo? :
    (∀ (s r : LengthSet) (count : Nat), s.replicateUpTo? count = some r →
      (∀ k ≤ count, ∃ q, s.replicate? k = some q) ∧
        r.toSet = {z | ∃ k ≤ count, ∃ q, s.replicate? k = some q ∧ z ∈ q}) ∧
    ∀ (element t : DataType) (capacity : Nat), DataType.ofVariableArray element capacity = .ok t →
      ∀ k, 1 ≤ k → k ≤ capacity → ∃ u, DataType.ofFixedArray element k = .ok u := by
  refine ⟨fun s r count h => ?_, fun element t capacity h k hk hle => ?_⟩
  · have hrows : ∀ k ≤ count, ∃ q, s.replicate? k = some q := fun _ =>
      exists_replicate?_of_replicateUpTo? h
    refine ⟨hrows, Set.ext fun z => (mem_of_replicateUpTo? h).trans ?_⟩
    constructor
    · rintro ⟨k, hk, hz⟩
      obtain ⟨q, hq⟩ := hrows k hk
      exact ⟨k, hk, q, hq, (mem_of_replicate? hq).2 hz⟩
    · rintro ⟨k, hk, q, hq, hz⟩
      exact ⟨k, hk, (mem_of_replicate? hq).1 hz⟩
  · obtain ⟨-, _, run, _, -, hrun, -, -⟩ := DataType.ofVariableArray_eq_ok_iff.1 h
    obtain ⟨q, hq⟩ := exists_replicate?_of_replicateUpTo? hrun hle
    exact ⟨_, DataType.ofFixedArray_eq_ok_iff.2 ⟨Nat.one_le_iff_ne_zero.1 hk, q, hq, rfl⟩⟩

theorem LengthSet.union_of_replicateUpTo?_uneven : ∃ r,
    uneven.replicateUpTo? 2 = some r ∧ r.toList = [0, 8, 16, 24, 32, 48, 64, 72, 88, 128] ∧
      (∃ q, uneven.replicate? 2 = some q ∧ q.toList = [16, 32, 48, 72, 88, 128]) ∧
      r.toSet = {z | ∃ k ≤ 2, ∃ q, uneven.replicate? k = some q ∧ z ∈ q} ∧
      DataType.ofVariableArray .octet 2 = .ok .octets ∧
      ∃ u, DataType.ofFixedArray .octet 1 = .ok u := by
  have hrun : (uneven.replicateUpTo? 2).map (·.toList) =
      some [0, 8, 16, 24, 32, 48, 64, 72, 88, 128] := by
    decide +kernel
  have hrow : (uneven.replicate? 2).map (·.toList) = some [16, 32, 48, 72, 88, 128] := by
    decide +kernel
  obtain ⟨r, hr, hlist⟩ := Option.map_eq_some_iff.1 hrun
  obtain ⟨hrows, harrays⟩ := union_of_replicateUpTo?
  have hoctets : DataType.ofVariableArray .octet 2 = .ok .octets := rfl
  exact ⟨r, hr, hlist, Option.map_eq_some_iff.1 hrow, (hrows _ r 2 hr).2, hoctets,
    harrays .octet .octets 2 hoctets 1 (by decide) (by decide)⟩

/-! ## Rows of rows -/

/-- **Rows are put together from rows.**  Where `n` rows of `m` values are not refused, the row of
all their values is not, and has the same lengths; so where an array of arrays can be made, the flat
array can be.  And where a row is not refused, neither are its front and its back, and it is the one
with the other behind. -/
theorem LengthSet.replicate?_mul_add :
    (∀ (s r q : LengthSet) (m n : Nat), s.replicate? m = some r → r.replicate? n = some q →
      s.replicate? (m * n) = some q) ∧
    (∀ (element row t : DataType) (m n : Nat), DataType.ofFixedArray element m = .ok row →
      DataType.ofFixedArray row n = .ok t →
      ∃ flat, DataType.ofFixedArray element (m * n) = .ok flat ∧ flat.lengths = t.lengths) ∧
    ∀ (s q : LengthSet) (m n : Nat), s.replicate? (m + n) = some q →
      ∃ front back, s.replicate? m = some front ∧ s.replicate? n = some back ∧
        front.add? back = some q := by
  refine ⟨fun s r q m n => replicate?_replicate?, fun element row t m n hrow ht => ?_,
    fun s q m n => add?_of_replicate?_add⟩
  obtain ⟨hm, rows, hrows, rfl⟩ := DataType.ofFixedArray_eq_ok_iff.1 hrow
  obtain ⟨hn, all, hall, rfl⟩ := DataType.ofFixedArray_eq_ok_iff.1 ht
  exact ⟨_, DataType.ofFixedArray_eq_ok_iff.2
    ⟨Nat.mul_ne_zero hm hn, all, replicate?_replicate? hrows hall, rfl⟩, rfl⟩

theorem LengthSet.replicate?_mul_add_uneven : ∃ r q row t flat front back,
    uneven.replicate? 1 = some r ∧ r.replicate? 2 = some q ∧
    q.toList = [16, 32, 48, 72, 88, 128] ∧ uneven.replicate? (1 * 2) = some q ∧
    DataType.ofFixedArray .octets 2 = .ok row ∧ DataType.ofFixedArray row 2 = .ok t ∧
    t.lengths.toList = [32, 40, 48, 56, 64, 72, 80, 88, 96] ∧
    DataType.ofFixedArray .octets (2 * 2) = .ok flat ∧ flat.lengths = t.lengths ∧
    uneven.replicate? 1 = some front ∧ uneven.replicate? 1 = some back ∧
    front.add? back = some q := by
  have hrows : ((uneven.replicate? 1).bind (·.replicate? 2)).map (·.toList) =
      some [16, 32, 48, 72, 88, 128] := by
    decide +kernel
  have harrays : (DataType.ofFixedArray .octets 2).toOption.map
      (fun row => (DataType.ofFixedArray row 2).toOption.map (·.lengths.toList)) =
      some (some [32, 40, 48, 56, 64, 72, 80, 88, 96]) := by
    decide +kernel
  obtain ⟨q, hq, hlist⟩ := Option.map_eq_some_iff.1 hrows
  obtain ⟨r, hr, hq⟩ := Option.bind_eq_some_iff.1 hq
  obtain ⟨row, hrow, harrays⟩ := toOption_map_eq_some_iff.1 harrays
  obtain ⟨t, ht, hnested⟩ := toOption_map_eq_some_iff.1 harrays
  obtain ⟨hmul, hflat, hadd⟩ := replicate?_mul_add
  have hall : uneven.replicate? (1 * 2) = some q := hmul uneven r q 1 2 hr hq
  obtain ⟨flat, hflat, hlengths⟩ := hflat .octets row t 2 2 hrow ht
  obtain ⟨front, back, hfront, hback, hsum⟩ := hadd uneven q 1 1 hall
  exact ⟨r, q, row, t, flat, front, back, hr, hq, hlist, hall, hrow, ht, hnested, hflat, hlengths,
    hfront, hback, hsum⟩

namespace DataType

open LengthSet (Fillable stepsAbove gridCells maxSize maxWork)

variable {element : DataType} {capacity : Nat} {cause : Cause}

/-! ## The lengths of arrays, in unbounded arithmetic -/

/-- **The shortest value** of a type. -/
def shortest (t : DataType) : Nat := t.lengths.min?.getD 0

/-- **The lengths of exactly `capacity` elements** in a row. -/
def lengthsOfExactly (element : DataType) (capacity : Nat) : Set Nat :=
  rowSums element.lengths.toSet capacity

/-- **The lengths of at most `capacity` elements** in a row, with the field in front that counts
them. -/
def lengthsOfAtMost (element : DataType) (capacity : Nat) : Set Nat :=
  {z | ∃ k ≤ capacity, ∃ y ∈ rowSums element.lengths.toSet k,
    y + lengthFieldBits capacity element.alignment = z}

theorem WellFormed.min?_lengths (he : element.WellFormed) :
    element.lengths.min? = some element.shortest := by
  obtain ⟨x, hx⟩ := he.inhabited
  obtain ⟨low, hlow⟩ := LengthSet.exists_min? hx
  rw [shortest, hlow, Option.getD_some]

theorem WellFormed.isGreatest_lengthsOfExactly (he : element.WellFormed) (capacity : Nat) :
    IsGreatest (element.lengthsOfExactly capacity) (element.longest * capacity) := by
  have hmax := Composite.max?_lengths he
  exact ⟨mul_mem_rowSums (LengthSet.mem_of_max? hmax) capacity,
    fun _ hz => le_of_mem_rowSums (fun _ hx => LengthSet.le_of_max? hmax hx) hz⟩

theorem WellFormed.isGreatest_lengthsOfAtMost (he : element.WellFormed) (capacity : Nat) :
    IsGreatest (element.lengthsOfAtMost capacity)
      (element.longest * capacity + lengthFieldBits capacity element.alignment) := by
  refine ⟨⟨capacity, le_rfl, _, (he.isGreatest_lengthsOfExactly capacity).1, rfl⟩, ?_⟩
  rintro _ ⟨k, hk, y, hy, rfl⟩
  have hle : y ≤ element.longest * k := (he.isGreatest_lengthsOfExactly k).2 hy
  exact Nat.add_le_add_right (hle.trans (Nat.mul_le_mul_left _ hk)) _

/-- Some length is too long exactly if the greatest is. -/
theorem exists_le_iff_of_isGreatest {S : Set Nat} {top n : Nat} (h : IsGreatest S top) :
    (∃ z ∈ S, n ≤ z) ↔ n ≤ top :=
  ⟨fun ⟨_, hz, hle⟩ => hle.trans (h.2 hz), fun hle => ⟨top, h.1, hle⟩⟩

/-- The field in front of rows makes them longer, and no more of them. -/
theorem ncard_lengthsOfAtMost_le (element : DataType) (capacity : Nat) :
    (element.lengthsOfAtMost capacity).ncard ≤
      gridCells (stepsAbove 0 element.lengths) capacity := by
  have himage : element.lengthsOfAtMost capacity = (· + lengthFieldBits capacity element.alignment) ''
      {z | ∃ k ≤ capacity, z ∈ rowSums element.lengths.toSet k} := by
    ext z
    constructor
    · rintro ⟨k, hk, y, hy, rfl⟩
      exact ⟨y, ⟨k, hk, hy⟩, rfl⟩
    · rintro ⟨y, ⟨k, hk, hy⟩, rfl⟩
      exact ⟨k, hk, y, hy, rfl⟩
  rw [himage, Set.ncard_image_of_injective _ (add_left_injective _)]
  exact LengthSet.ncard_rowSums_upTo_le element.lengths capacity

/-! ## Refusals -/

/-- **An array of exactly so many elements** is refused for a row that is too long, or for a grid
that cannot be filled. -/
theorem WellFormed.ofFixedArray_eq_error_iff (he : element.WellFormed) (hcapacity : capacity ≠ 0) :
    ofFixedArray element capacity = .error cause ↔ cause = element.tooLarge capacity ∧
      ((∃ z ∈ element.lengthsOfExactly capacity, lengthLimit ≤ z) ∨
        ¬ Fillable (stepsAbove element.shortest element.lengths) capacity) := by
  have hrun : ofFixedArray element capacity =
      (require (element.tooLarge capacity) (element.lengths.replicate? capacity)).map
        (.fixedArray element capacity) := by
    rw [ofFixedArray, if_neg hcapacity]
    rfl
  rw [hrun, map_require_eq_error_iff,
    LengthSet.exists_replicate?_iff he.min?_lengths (Composite.max?_lengths he) hcapacity,
    exists_le_iff_of_isGreatest (he.isGreatest_lengthsOfExactly capacity), not_and_or, Nat.not_lt]

/-- **The rows of at most so many elements**, with a field in front, that are not refused. -/
theorem WellFormed.exists_replicateUpTo?_shift?_iff (he : element.WellFormed)
    (hcapacity : capacity ≠ 0) (bits : Nat) :
    (∃ lengths, (element.lengths.replicateUpTo? capacity).bind (·.shift? bits) = some lengths) ↔
      element.longest * capacity + bits < lengthLimit ∧
        Fillable (stepsAbove 0 element.lengths) capacity := by
  have hrow := LengthSet.exists_replicateUpTo?_iff (Composite.max?_lengths he) hcapacity
  have hshift : ∀ row, element.lengths.replicateUpTo? capacity = some row →
      ((∃ lengths, row.shift? bits = some lengths) ↔
        element.longest * capacity + bits < lengthLimit) := by
    intro row hrow
    have hmax : row.max? = some (element.longest * capacity) :=
      LengthSet.max?_of_replicateUpTo? (Composite.max?_lengths he) hrow
    exact (LengthSet.reaches_shift? hmax bits).exists_iff
  constructor
  · rintro ⟨lengths, h⟩
    obtain ⟨row, hsome, hlengths⟩ := Option.bind_eq_some_iff.1 h
    exact ⟨(hshift row hsome).1 ⟨lengths, hlengths⟩, (hrow.1 ⟨row, hsome⟩).2⟩
  · rintro ⟨hlt, hfillable⟩
    obtain ⟨row, hsome⟩ := hrow.2 ⟨(Nat.le_add_right _ bits).trans_lt hlt, hfillable⟩
    rw [hsome]
    exact (hshift row hsome).2 hlt

/-- **An array of at most so many elements** is refused for a row that is too long behind the field
that counts them, or for a grid that cannot be filled; the field itself can always be made. -/
theorem WellFormed.ofVariableArray_eq_error_iff (he : element.WellFormed)
    (hcapacity : capacity ≠ 0) (hlimit : capacity < lengthLimit) :
    ofVariableArray element capacity = .error cause ↔ cause = element.tooLarge capacity ∧
      ((∃ z ∈ element.lengthsOfAtMost capacity, lengthLimit ≤ z) ∨
        ¬ Fillable (stepsAbove 0 element.lengths) capacity) := by
  obtain ⟨field, hfield⟩ : ∃ field, UnsignedType.ofBits
      (lengthFieldBits capacity element.alignment) .saturated = .ok field := by
    rw [he.lengthFieldBits_eq_wordBits]
    exact UnsignedType.exists_ofBits (admits_wordBits hlimit) .saturated
  have hrun : ofVariableArray element capacity = (require (element.tooLarge capacity)
      ((element.lengths.replicateUpTo? capacity).bind (·.shift? field.bits))).map
        (.variableArray element capacity field) := by
    rw [ofVariableArray, if_neg hcapacity, hfield]
    rfl
  rw [hrun, map_require_eq_error_iff, he.exists_replicateUpTo?_shift?_iff hcapacity,
    (UnsignedType.ofBits_eq_ok_iff.1 hfield).1,
    exists_le_iff_of_isGreatest (he.isGreatest_lengthsOfAtMost capacity), not_and_or, Nat.not_lt]

/-- **When an array is refused**, of a type that can be made and with room for an element.  It is
refused as too large, and only so: if some length, in unbounded arithmetic, is none that a word of
64 bits holds, or if the grid that the lengths lie on cannot be filled.  A grid with more lengths on
it than a set may have never can; but it is the cells that are counted, and the looks that filling
them takes. -/
theorem Buildable.array_refused_iff (he : element.Buildable) (hcapacity : capacity ≠ 0)
    (hlimit : capacity < lengthLimit) :
    (∀ cause, ofFixedArray element capacity = .error cause ↔ cause = element.tooLarge capacity ∧
      ((∃ z ∈ element.lengthsOfExactly capacity, lengthLimit ≤ z) ∨
        ¬ Fillable (stepsAbove element.shortest element.lengths) capacity)) ∧
    (∀ cause, ofVariableArray element capacity = .error cause ↔ cause = element.tooLarge capacity ∧
      ((∃ z ∈ element.lengthsOfAtMost capacity, lengthLimit ≤ z) ∨
        ¬ Fillable (stepsAbove 0 element.lengths) capacity)) ∧
    (element.tooLarge capacity).kind = .invalidType ∧
    (maxSize < (element.lengthsOfExactly capacity).ncard →
      ¬ Fillable (stepsAbove element.shortest element.lengths) capacity) ∧
    (maxSize < (element.lengthsOfAtMost capacity).ncard →
      ¬ Fillable (stepsAbove 0 element.lengths) capacity) := by
  have hwf := he.wellFormed
  refine ⟨fun _ => hwf.ofFixedArray_eq_error_iff hcapacity,
    fun _ => hwf.ofVariableArray_eq_error_iff hcapacity hlimit, rfl, fun hmany h => ?_,
    fun hmany h => ?_⟩
  · have hcells := LengthSet.ncard_rowSums_le hwf.min?_lengths capacity
    exact Nat.not_lt.2 (hcells.trans h.size) hmany
  · have hcells := element.ncard_lengthsOfAtMost_le capacity
    exact Nat.not_lt.2 (hcells.trans h.size) hmany

theorem Buildable.array_refused_iff_octets : octets.Buildable ∧
    ofFixedArray octets 0x2000000000000000 = .error (octets.tooLarge 0x2000000000000000) ∧
    ofVariableArray octets 0x2000000000000000 = .error (octets.tooLarge 0x2000000000000000) := by
  obtain ⟨hfixed, hvariable, -⟩ := @Buildable.array_refused_iff octets 0x2000000000000000
    buildable_octets (by decide) (by decide)
  have hlong : 24 * 0x2000000000000000 ∈ octets.lengthsOfExactly 0x2000000000000000 :=
    mul_mem_rowSums (List.mem_of_getLast? rfl) _
  refine ⟨buildable_octets, (hfixed _).2 ⟨rfl, Or.inl ⟨_, hlong, by decide⟩⟩,
    (hvariable _).2 ⟨rfl, Or.inl ⟨_, ⟨_, le_rfl, _, hlong, rfl⟩, by decide⟩⟩⟩

/-! ## Few lengths with many cells between them -/

/-- An integer of sixteen bits. -/
def pair : DataType := .unsigned ⟨16, .saturated, by decide⟩

/-- A row of octets, one more than a set may have lengths. -/
def blob : DataType := .fixedArray octet 1048577 ⟨[8388616], by decide, by decide⟩

theorem buildable_blob : blob.Buildable := by
  have h : ofFixedArray octet 1048577 = .ok blob := rfl
  exact .fixedArray (.primitive rfl) h

end DataType

/-- A final union of a small, a slightly larger and a very large variant. -/
def Declaration.sparse : Declaration :=
  { flagged with
    name := "sample.Sparse"
    attributes := [.field "octet" .octet, .field "pair" .pair, .field "blob" .blob] }

theorem Declaration.buildable_sparse : ∀ a ∈ sparse.attributes, a.type.Buildable :=
  List.forall_mem_cons.2 ⟨.primitive rfl, List.forall_mem_cons.2 ⟨.primitive rfl,
    List.forall_mem_singleton.2 DataType.buildable_blob⟩⟩

/-- A set of a few numbers that all fit has no length that is too long, and not too many. -/
theorem not_exists_le_or_lt_ncard {S : Set Nat} {t : Finset Nat} (h : S ⊆ t)
    (hfits : ∀ z ∈ t, z < lengthLimit) (hcard : t.card ≤ LengthSet.maxSize) :
    ¬ ((∃ z ∈ S, lengthLimit ≤ z) ∨ LengthSet.maxSize < S.ncard) := by
  rintro (⟨z, hz, hle⟩ | hmany)
  · exact Nat.not_lt.2 hle (hfits z (Finset.mem_coe.1 (h hz)))
  · have hle : S.ncard ≤ t.card := by
      rw [← Set.ncard_coe_finset]
      exact Set.ncard_le_ncard h (Finset.finite_toSet t)
    exact Nat.not_lt.2 (hle.trans hcard) hmany

/-- The array of a single element with three lengths, refused. -/
theorem Composite.exists_refused_array : ∃ c, ofUnion 0 .sparse = .ok c ∧
    (DataType.composite c).Buildable ∧ c.lengths.toList = [16, 24, 8388624] ∧
    DataType.ofFixedArray (.composite c) 1 = .error ((DataType.composite c).tooLarge 1) ∧
    (DataType.composite c).lengthsOfExactly 1 ⊆ ({16, 24, 8388624} : Finset Nat) := by
  have hrun : (ofUnion 0 .sparse).toOption.map (fun c => (c.lengths.toList,
      (DataType.ofFixedArray (.composite c) 1).toOption.isNone)) =
      some ([16, 24, 8388624], true) := by
    decide +kernel
  obtain ⟨c, hc, hrun⟩ := toOption_map_eq_some_iff.1 hrun
  obtain ⟨hlist, hnone⟩ := Prod.mk.inj hrun
  have hbuildable : (DataType.composite c).Buildable := .union Declaration.buildable_sparse hc
  obtain ⟨cause, hcause⟩ := exists_error_of_isNone hnone
  obtain ⟨rfl, -⟩ := (hbuildable.wellFormed.ofFixedArray_eq_error_iff Nat.one_ne_zero).1 hcause
  refine ⟨c, hc, hbuildable, hlist, hcause, ?_⟩
  rintro _ ⟨x, hx, y, hy, rfl⟩
  have hmem : x ∈ c.lengths.toList := hx
  rw [mem_rowSums_zero.1 hy, Nat.add_zero]
  simpa [hlist] using hmem

/-- The array of at most one element with two lengths, refused. -/
theorem DataType.exists_refused_array : ∃ items, ofVariableArray .blob 1 = .ok items ∧
    items.Buildable ∧ items.lengths.toList = [8, 8388624] ∧
    ofVariableArray items 1 = .error (items.tooLarge 1) ∧
    items.lengthsOfAtMost 1 ⊆ ({8, 16, 8388632} : Finset Nat) := by
  have hrun : (ofVariableArray .blob 1).toOption.map (fun items => (items.lengths.toList,
      (ofVariableArray items 1).toOption.isNone)) = some ([8, 8388624], true) := by
    decide +kernel
  obtain ⟨items, hitems, hrun⟩ := toOption_map_eq_some_iff.1 hrun
  obtain ⟨hlist, hnone⟩ := Prod.mk.inj hrun
  have hbuildable : items.Buildable := .variableArray buildable_blob hitems
  obtain ⟨cause, hcause⟩ := exists_error_of_isNone hnone
  obtain ⟨rfl, -⟩ := (hbuildable.wellFormed.ofVariableArray_eq_error_iff Nat.one_ne_zero
    (by decide)).1 hcause
  refine ⟨items, hitems, hbuildable, hlist, hcause, ?_⟩
  have hfield : lengthFieldBits 1 items.alignment = 8 := by
    rw [hbuildable.wellFormed.lengthFieldBits_eq_wordBits]
    decide
  rintro _ ⟨k, hk, y, hy, rfl⟩
  rw [hfield]
  rcases Nat.le_one_iff_eq_zero_or_eq_one.1 hk with rfl | rfl
  · rw [mem_rowSums_zero.1 hy]
    decide
  · obtain ⟨x, hx, y, hy, rfl⟩ := hy
    have hmem : x ∈ items.lengths.toList := hx
    rw [hlist] at hmem
    rw [mem_rowSums_zero.1 hy, Nat.add_zero]
    simp only [List.mem_cons, List.not_mem_nil, or_false] at hmem
    rcases hmem with rfl | rfl <;> decide

/-- **Arrays of a few short lengths may be refused**, as too large: that of a single element with
three lengths, and that of at most one element with two.  No length of theirs is too long, and there
are not too many. -/
theorem Composite.refused_sparse : ∃ c items,
    ofUnion 0 .sparse = .ok c ∧ (DataType.composite c).Buildable ∧
    c.lengths.toList = [16, 24, 8388624] ∧
    DataType.ofFixedArray (.composite c) 1 = .error ((DataType.composite c).tooLarge 1) ∧
    (¬ ((∃ z ∈ (DataType.composite c).lengthsOfExactly 1, lengthLimit ≤ z) ∨
      LengthSet.maxSize < ((DataType.composite c).lengthsOfExactly 1).ncard)) ∧
    DataType.ofVariableArray .blob 1 = .ok items ∧ items.Buildable ∧
    items.lengths.toList = [8, 8388624] ∧
    DataType.ofVariableArray items 1 = .error (items.tooLarge 1) ∧
    ¬ ((∃ z ∈ items.lengthsOfAtMost 1, lengthLimit ≤ z) ∨
      LengthSet.maxSize < (items.lengthsOfAtMost 1).ncard) := by
  obtain ⟨c, hc, hcbuildable, hclist, hcrefused, hcfew⟩ := exists_refused_array
  obtain ⟨items, hitems, hbuildable, hlist, hrefused, hfew⟩ := DataType.exists_refused_array
  exact ⟨c, items, hc, hcbuildable, hclist, hcrefused,
    not_exists_le_or_lt_ncard hcfew (by decide) (by decide), hitems, hbuildable, hlist, hrefused,
    not_exists_le_or_lt_ncard hfew (by decide) (by decide)⟩

end WireSchema
