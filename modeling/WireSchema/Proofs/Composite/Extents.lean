import WireSchema.Proofs.Catalog.Refusals
import WireSchema.Proofs.Composite.Nested

/-!
# Proofs/Composite/Extents — the extent of a type, and the longest of its values

The extent covers every aggregate, rounded up (`MadeFrom.roundUp_le_extent`).  A final type has no
more than that: its extent is the longest of its values.  Any other type has an extent of its own,
or twice its longest aggregate, rounded up (`Composite.KeepsExtent`).

The lengths of a type that may still change are a progression: from the header on, in steps of the
alignment, up to the extent behind the header (`MadeFrom.toList_lengths_of_delimited`).  The bound
on their number keeps the extent far below what the header can count.
-/

namespace WireSchema

/-! ## Progressions -/

namespace Framing

variable {alignment extent headerBits : Nat} {r : LengthSet}

/-- **The lengths of a delimited type are a progression** from the header on. -/
theorem toList_of_delimited (hpos : 0 < alignment)
    (h : delimited alignment extent headerBits = .ok r) :
    r.toList = List.range' headerBits (extent / alignment + 1) alignment := by
  refine Ascending.eq_of_mem_iff r.ascending (List.pairwise_lt_range' alignment hpos) fun z => ?_
  rw [LengthSet.mem_toList, mem_of_delimited hpos h, List.mem_range']
  constructor
  · rintro ⟨_, hn, ⟨i, rfl⟩, rfl⟩
    rw [Nat.mul_comm, ← Nat.le_div_iff_mul_le hpos] at hn
    exact ⟨i, Nat.lt_succ_of_le hn, rfl⟩
  · rintro ⟨i, hi, rfl⟩
    have hn := (Nat.le_div_iff_mul_le hpos).1 (Nat.lt_succ_iff.1 hi)
    exact ⟨alignment * i, Nat.mul_comm i alignment ▸ hn, Nat.dvd_mul_right alignment i, rfl⟩

/-- A delimited type has not too many lengths. -/
theorem div_lt_of_delimited (h : delimited alignment extent headerBits = .ok r) :
    extent / alignment < LengthSet.maxSize := by
  obtain ⟨_, hsize, -⟩ := bind_eq_ok_iff.1 h
  have hnone := refuse_eq_ok_iff.1 hsize
  split_ifs at hnone with hlarge
  exact Nat.not_le.1 hlarge

/-- **A header counts every extent** that is not too large. -/
theorem lt_two_pow_headerBits (h : extent / bitsPerByte < LengthSet.maxSize) :
    extent < Nat.pow 2 defaultHeaderBits := by
  have hlimit : LengthSet.maxSize * bitsPerByte ≤ Nat.pow 2 defaultHeaderBits := by decide
  exact ((Nat.div_lt_iff_lt_mul bitsPerByte_pos).1 h).trans_le hlimit

end Framing

/-- **The longest value** of what a declaration defines, in unbounded arithmetic: its extent, behind
a header unless the type is final. -/
def Declaration.longestValue (d : Declaration) (kind : Kind) : Nat :=
  if d.isFinal then d.extentBits kind else Framing.defaultHeaderBits + d.extentBits kind

namespace Composite

variable {shape : Shape} {bounded : Bool} {d : Declaration} {c : Composite}

/-! ## Delimited types -/

/-- **The lengths of a type that is not final**: its header, and then every multiple of the
alignment that is not above the extent. -/
theorem MadeFrom.toList_lengths_of_delimited (h : MadeFrom shape bounded d c)
    (hwf : ∀ t ∈ fieldTypes c.attributes, t.WellFormed) (hfinal : c.isFinal = false) :
    ∃ header, c.header? = some header ∧ header.bits = Framing.defaultHeaderBits ∧
      c.extent / c.alignment < LengthSet.maxSize ∧
      c.lengths.toList = List.range' header.bits (c.extent / c.alignment + 1) c.alignment := by
  obtain ⟨header, hheader, hbits, -⟩ := h.mem_lengths_of_delimited hwf hfinal
  have hpos : 0 < c.alignment := h.alignment_eq_byte hwf ▸ bitsPerByte_pos
  have hlengths := h.lengths_eq
  rw [hheader] at hlengths
  exact ⟨header, hheader, hbits, Framing.div_lt_of_delimited hlengths,
    Framing.toList_of_delimited hpos hlengths⟩

/-- The longest length of a type that is not final has the extent behind the header. -/
theorem MadeFrom.max?_lengths_of_delimited (h : MadeFrom shape bounded d c)
    (hwf : ∀ t ∈ fieldTypes c.attributes, t.WellFormed) (hfinal : c.isFinal = false) :
    c.lengths.max? = some (Framing.defaultHeaderBits + c.extent) := by
  obtain ⟨header, -, hbits, hmem⟩ := h.mem_lengths_of_delimited hwf hfinal
  rw [← hbits, LengthSet.max?_eq_some_iff]
  refine ⟨(hmem _).2 ⟨c.extent, le_rfl, h.alignment_dvd_extent, rfl⟩, fun z hz => ?_⟩
  obtain ⟨n, hn, -, rfl⟩ := (hmem z).1 hz
  exact Nat.add_le_add_left hn header.bits

/-! ## Final types -/

/-- **The longest length of a final type is its extent.** -/
theorem MadeFrom.max?_lengths_of_final (h : MadeFrom shape bounded d c)
    (hfinal : c.isFinal = true) : c.lengths.max? = some c.extent := by
  obtain ⟨longest, minimal, hlongest, hresolve⟩ := h.extent_eq
  have hextent : c.extent = roundUp longest c.alignment :=
    (Extent.eq_minimal_of_resolve hresolve hfinal).trans (Extent.resolve_eq_ok hresolve).1
  have hset : c.lengths.toSet = {z | ∃ x ∈ c.aggregate, roundUp x c.alignment = z} :=
    Set.ext fun z => h.mem_lengths_of_final hfinal
  rw [LengthSet.max?_eq_some_iff, hset, hextent]
  exact LengthSet.isGreatest_roundUp hlongest c.alignment

/-! ## What a declaration says about them -/

/-- **The extent of a composite** is the one that its declaration comes to in unbounded
arithmetic. -/
theorem MadeFrom.extent_eq_extentBits (h : MadeFrom shape bounded d c)
    (hwf : ∀ t ∈ fieldTypes d.attributes, t.WellFormed)
    (hlen : (fieldTypes d.attributes).length ≤ lengthLimit) :
    c.extent = d.extentBits shape.kind := by
  obtain ⟨longest, minimal, hlongest, hresolve⟩ := h.extent_eq
  obtain ⟨r?, haggregate, hreach⟩ := aggregateOf_reaches shape.kind hwf hlen
  have hrun := h.aggregate_eq
  rw [h.attributes_eq, haggregate] at hrun
  have hmax := hreach.max?_eq (require_eq_ok_iff.1 hrun)
  obtain rfl : longest = d.longest shape.kind := Option.some.inj (hlongest.symm.trans hmax)
  have halign : c.alignment = d.alignment := by
    rw [h.alignment_eq, h.attributes_eq, Declaration.alignment]
  rw [halign, h.isFinal_eq] at hresolve
  exact congrArg Extent.bits (Declaration.resolve_eq_ok_iff.1 hresolve).2

/-- **The longest length of a composite** is the longest value that its declaration comes to. -/
theorem MadeFrom.max?_lengths_eq (h : MadeFrom shape bounded d c)
    (hwf : ∀ t ∈ fieldTypes d.attributes, t.WellFormed)
    (hlen : (fieldTypes d.attributes).length ≤ lengthLimit) :
    c.lengths.max? = some (d.longestValue shape.kind) := by
  rw [Declaration.longestValue, ← h.extent_eq_extentBits hwf hlen, ← h.isFinal_eq]
  split_ifs with hfinal
  · exact h.max?_lengths_of_final hfinal
  · refine h.max?_lengths_of_delimited ?_ (Bool.eq_false_iff.2 hfinal)
    rwa [h.attributes_eq]

/-! ## The extent law -/

/-- **What the extent of a composite is**, for which that extent was asked, or none: aligned, enough
for every aggregate rounded up, and the longest length of a final type. -/
structure KeepsExtent (c : Composite) (asked? : Option Nat) : Prop where
  dvd : c.alignment ∣ c.extent
  enough : ∀ x ∈ c.aggregate, roundUp x c.alignment ≤ c.extent
  /-- The lengths of a final type are its aggregates, rounded up one by one. -/
  mem_lengths : c.isFinal = true →
    ∀ z, z ∈ c.lengths ↔ ∃ x ∈ c.aggregate, roundUp x c.alignment = z
  longest : c.isFinal = true → c.lengths.max? = some c.extent
  /-- The longest aggregate is doubled first, and rounded up then. -/
  derived : c.isFinal = false → asked? = none →
    ∃ longest, c.aggregate.max? = some longest ∧ c.extent = roundUp (2 * longest) c.alignment
  asked : ∀ bits, asked? = some bits → c.extent = bits

/-- **A composite has the extent that its declaration asks for**, or the derived one. -/
theorem MadeFrom.keepsExtent (h : MadeFrom shape bounded d c) : c.KeepsExtent d.extent? where
  dvd := h.alignment_dvd_extent
  enough _ := h.roundUp_le_extent
  mem_lengths hfinal _ := h.mem_lengths_of_final hfinal
  longest := h.max?_lengths_of_final
  derived hfinal hnone := by
    obtain ⟨longest, minimal, hlongest, hresolve⟩ := h.extent_eq
    obtain ⟨-, hchoose, -⟩ := Extent.resolve_eq_ok hresolve
    rw [hnone, hfinal] at hchoose
    exact ⟨longest, hlongest, (Extent.roundUp?_eq_some_iff.1 (require_eq_ok_iff.1 hchoose)).2.symm⟩
  asked bits hasked := by
    obtain ⟨longest, minimal, -, hresolve⟩ := h.extent_eq
    obtain ⟨-, hchoose, -⟩ := Extent.resolve_eq_ok hresolve
    rw [hasked] at hchoose
    exact (Except.ok.inj hchoose).symm

/-- **Every composite keeps the extent that its definition asks for**, or the derived one where none
is asked for: structures, unions, services, which never ask for one, and the halves of services,
each with the extent of its own schema. -/
theorem keeps_extent (serial : Nat) :
    (∀ (d : Declaration) (c : Composite),
      ofStructure serial d = .ok c ∨ ofUnion serial d = .ok c → c.KeepsExtent d.extent?) ∧
    ∀ (d : ServiceDeclaration) (c : Composite), ofService serial d = .ok c →
      c.KeepsExtent none ∧ ∃ request response,
        c.request? = some request ∧ request.KeepsExtent d.request.extent? ∧
        c.response? = some response ∧ response.KeepsExtent d.response.extent? := by
  constructor
  · rintro d c (h | h)
    · exact (madeFrom_of_build (ofStructure_eq_ok_iff.1 h)).keepsExtent
    · exact (madeFrom_of_build (ofUnion_eq_ok_iff.1 h)).keepsExtent
  · intro d c h
    obtain ⟨request, response, hrequest, hresponse, hbuild⟩ := exists_of_ofService h
    have hmade := madeFrom_of_build hbuild
    obtain ⟨hreq, hres⟩ := hmade.halves_eq
    exact ⟨hmade.keepsExtent, request, response, hreq, (madeFrom_of_build hrequest).keepsExtent,
      hres, (madeFrom_of_build hresponse).keepsExtent⟩

theorem keeps_extent_exchange : ∃ c request response,
    ofService 0 .exchange = .ok c ∧ c.request? = some request ∧ c.response? = some response ∧
      c.KeepsExtent none ∧ request.KeepsExtent none ∧ response.KeepsExtent (some 64) ∧
      request.isFinal = true ∧ response.isFinal = false ∧ response.extent = 64 := by
  have hrun : (ofService 0 .exchange).toOption.map (fun c =>
      (c.request?.map (·.isFinal), c.response?.map (·.isFinal))) =
        some (some true, some false) := by
    decide +kernel
  obtain ⟨c, hc, hfinal⟩ := toOption_map_eq_some_iff.1 hrun
  obtain ⟨hwhole, request, response, hreq, hrequest, hres, hresponse⟩ :=
    (keeps_extent 0).2 .exchange c hc
  rw [hreq, hres, Option.map_some, Option.map_some, Prod.mk.injEq, Option.some.injEq,
    Option.some.injEq] at hfinal
  exact ⟨c, request, response, hc, hreq, hres, hwhole, hrequest, hresponse, hfinal.1, hfinal.2,
    hresponse.asked 64 rfl⟩

end Composite

/-- **The lengths of a type that is not final account for every body up to its extent**, and for no
other.  They are the header and any multiple of the alignment behind it that is not above the
extent; so each aggregate, rounded up, is the body of one of them, and the header can count every
body. -/
theorem DataType.Buildable.delimited_lengths {c : Composite} (h : (DataType.composite c).Buildable)
    (hfinal : c.isFinal = false) :
    ∃ header, c.header? = some header ∧
      (∀ z, z ∈ c.lengths ↔ ∃ i ≤ c.extent / c.alignment, header.bits + i * c.alignment = z) ∧
      c.lengths.size = c.extent / c.alignment + 1 ∧
      c.lengths.min? = some header.bits ∧ c.lengths.max? = some (header.bits + c.extent) ∧
      (∀ x ∈ c.aggregate, roundUp x c.alignment + header.bits ∈ c.lengths) ∧
      c.alignment ∣ c.extent ∧ c.alignment ∣ header.bits ∧
      c.extent < Nat.pow 2 header.bits := by
  obtain ⟨shape, bounded, d, hmade, hwf⟩ := h.exists_madeFrom
  obtain ⟨header, hheader, hbits, hsize, hlist⟩ := hmade.toList_lengths_of_delimited hwf hfinal
  have halign := hmade.alignment_eq_byte hwf
  have hmem : ∀ z, z ∈ c.lengths ↔
      ∃ i ≤ c.extent / c.alignment, header.bits + i * c.alignment = z := by
    intro z
    rw [← LengthSet.mem_toList, hlist, List.mem_range']
    simp only [Nat.lt_succ_iff, Nat.mul_comm c.alignment, eq_comm]
  refine ⟨header, hheader, hmem, ?_, ?_, ?_, fun x hx => ?_, hmade.alignment_dvd_extent, ?_, ?_⟩
  · rw [LengthSet.size, hlist, List.length_range']
  · rw [LengthSet.min?, hlist]
    rfl
  · rw [hbits]
    exact hmade.max?_lengths_of_delimited hwf hfinal
  · obtain ⟨n, hn⟩ : c.alignment ∣ roundUp x c.alignment :=
      dvd_roundUp_of_pos x (halign ▸ bitsPerByte_pos)
    refine (hmem _).2 ⟨n, ?_, by rw [hn, Nat.add_comm, Nat.mul_comm]⟩
    rw [Nat.le_div_iff_mul_le (halign ▸ bitsPerByte_pos), Nat.mul_comm, ← hn]
    exact hmade.roundUp_le_extent hx
  · rw [hbits, halign]
    decide
  · rw [halign] at hsize
    exact hbits ▸ Framing.lt_two_pow_headerBits hsize

theorem DataType.Buildable.delimited_lengths_growing : ∃ c header,
    Composite.ofStructure 0 .growing = .ok c ∧ c.isFinal = false ∧ c.header? = some header ∧
      c.alignment = 8 ∧ c.extent = 56 ∧ c.lengths.size = 8 ∧
      c.lengths.max? = some (header.bits + 56) ∧
      (∀ x ∈ c.aggregate, roundUp x 8 + header.bits ∈ c.lengths) ∧
      56 < Nat.pow 2 header.bits := by
  have hrun : (Composite.ofStructure 0 .growing).toOption.map (fun c => (c.alignment, c.extent)) =
      some (8, 56) := by
    decide +kernel
  obtain ⟨c, hc, hpair⟩ := toOption_map_eq_some_iff.1 hrun
  obtain ⟨halign, hextent⟩ := Prod.mk.inj hpair
  have hfinal : c.isFinal = false :=
    (Composite.madeFrom_of_build (Composite.ofStructure_eq_ok_iff.1 hc)).isFinal_eq
  obtain ⟨header, hheader, -, hsize, -, hmax, haggregate, -, -, hcount⟩ :=
    Buildable.delimited_lengths (.struct Declaration.buildable_growing hc) hfinal
  rw [halign, hextent] at hsize
  rw [halign] at haggregate
  rw [hextent] at hmax hcount
  exact ⟨c, header, hc, hfinal, hheader, halign, hextent, hsize, hmax, haggregate, hcount⟩

end WireSchema
