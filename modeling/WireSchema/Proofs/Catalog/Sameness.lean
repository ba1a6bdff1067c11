import WireSchema.Proofs.Catalog.Objects

/-!
# Proofs/Catalog/Sameness — types are told apart by structure and by objects

Arrays are compared by all that they keep, which is more than they were made of: the lengths of an
array, and the field that counts its elements, were computed when it was made.  Nor is it looked at
what composites are like, but only whether they are one object.

Two invariants of the types at hand show that neither makes a difference.  An array keeps what
making it again would compute, at every depth (`Catalog.Offers.isComputed`), and the composite at
its bottom is an object of the catalog (`Catalog.Offers.keeps`).  So types that are made alike,
whatever they keep (`DataType.SameStructure`), are equal (`DataType.eq_of_sameStructure`).

The main theorem is `Catalog.same_by_structure`.
-/

namespace WireSchema

namespace DataType

variable {element element' t u : DataType} {capacity capacity' : Nat}
  {count count' : UnsignedType} {lengths lengths' : LengthSet}

/-! ## An equivalence -/

theorem same_fixedArray_iff :
    (fixedArray element capacity lengths).same (fixedArray element' capacity' lengths') = true ↔
      element.same element' = true ∧ capacity = capacity' ∧ lengths = lengths' := by
  simp only [same, Bool.and_eq_true, beq_iff_eq, decide_eq_true_eq, and_assoc]

theorem same_variableArray_iff :
    (variableArray element capacity count lengths).same
        (variableArray element' capacity' count' lengths') = true ↔
      element.same element' = true ∧ capacity = capacity' ∧ count = count' ∧
        lengths = lengths' := by
  simp only [same, Bool.and_eq_true, beq_iff_eq, decide_eq_true_eq, and_assoc]

theorem same_symm : ∀ {t u : DataType}, t.same u = true → u.same t = true
  | .boolean, .boolean, _ => rfl
  | .unsigned _, .unsigned _, h | .signed _, .signed _, h | .float _, .float _, h
  | .void _, .void _, h | .composite _, .composite _, h =>
    decide_eq_true (of_decide_eq_true h).symm
  | .fixedArray _ _ _, .fixedArray _ _ _, h => by
    obtain ⟨helement, rfl, rfl⟩ := same_fixedArray_iff.1 h
    exact same_fixedArray_iff.2 ⟨same_symm helement, rfl, rfl⟩
  | .variableArray _ _ _ _, .variableArray _ _ _ _, h => by
    obtain ⟨helement, rfl, rfl, rfl⟩ := same_variableArray_iff.1 h
    exact same_variableArray_iff.2 ⟨same_symm helement, rfl, rfl, rfl⟩

theorem same_trans : ∀ {t u v : DataType}, t.same u = true → u.same v = true → t.same v = true
  | .boolean, .boolean, _, _, h => h
  | .unsigned _, .unsigned _, _, h, h' | .signed _, .signed _, _, h, h'
  | .float _, .float _, _, h, h' | .void _, .void _, _, h, h' => of_decide_eq_true h ▸ h'
  | .fixedArray _ _ _, .fixedArray _ _ _, .fixedArray _ _ _, h, h' => by
    obtain ⟨helement, rfl, rfl⟩ := same_fixedArray_iff.1 h
    obtain ⟨helement', rfl, rfl⟩ := same_fixedArray_iff.1 h'
    exact same_fixedArray_iff.2 ⟨same_trans helement helement', rfl, rfl⟩
  | .variableArray _ _ _ _, .variableArray _ _ _ _, .variableArray _ _ _ _, h, h' => by
    obtain ⟨helement, rfl, rfl, rfl⟩ := same_variableArray_iff.1 h
    obtain ⟨helement', rfl, rfl, rfl⟩ := same_variableArray_iff.1 h'
    exact same_variableArray_iff.2 ⟨same_trans helement helement', rfl, rfl, rfl⟩
  | .composite _, .composite _, .composite _, h, h' =>
    decide_eq_true ((of_decide_eq_true h).trans (of_decide_eq_true h'))

/-! ## What is computed -/

/-- **Made alike**, whatever was computed: the same primitive, arrays of one form and capacity over
elements that are made alike, or one object. -/
inductive SameStructure : DataType → DataType → Prop
  | primitive {t : DataType} (h : t.isPrimitive = true) : SameStructure t t
  | fixedArray {element element' : DataType} {capacity : Nat} {lengths lengths' : LengthSet}
      (h : SameStructure element element') :
      SameStructure (.fixedArray element capacity lengths) (.fixedArray element' capacity lengths')
  | variableArray {element element' : DataType} {capacity : Nat} {count count' : UnsignedType}
      {lengths lengths' : LengthSet} (h : SameStructure element element') :
      SameStructure (.variableArray element capacity count lengths)
        (.variableArray element' capacity count' lengths')
  | object {c c' : Composite} (h : c.identity = c'.identity) :
      SameStructure (.composite c) (.composite c')

/-- Types that are the same are made alike: what is computed is only looked at besides. -/
theorem sameStructure_of_same : ∀ {t u : DataType}, t.same u = true → t.SameStructure u
  | .boolean, .boolean, _ => .primitive rfl
  | .unsigned _, .unsigned _, h | .signed _, .signed _, h | .float _, .float _, h
  | .void _, .void _, h => of_decide_eq_true h ▸ .primitive rfl
  | .fixedArray _ _ _, .fixedArray _ _ _, h => by
    obtain ⟨helement, rfl, -⟩ := same_fixedArray_iff.1 h
    exact .fixedArray (sameStructure_of_same helement)
  | .variableArray _ _ _ _, .variableArray _ _ _ _, h => by
    obtain ⟨helement, rfl, -⟩ := same_variableArray_iff.1 h
    exact .variableArray (sameStructure_of_same helement)
  | .composite _, .composite _, h => .object (of_decide_eq_true h)

/-- **An array keeps what making it again computes**, and so do its elements. -/
def IsComputed : DataType → Prop
  | .fixedArray element capacity lengths => element.IsComputed ∧
      ofFixedArray element capacity = .ok (.fixedArray element capacity lengths)
  | .variableArray element capacity count lengths => element.IsComputed ∧
      ofVariableArray element capacity = .ok (.variableArray element capacity count lengths)
  | _ => True

theorem isComputed_of_isPrimitive (h : t.isPrimitive = true) : t.IsComputed := by
  cases t with
  | boolean | unsigned | signed | float | void => trivial
  | fixedArray | variableArray | composite => exact absurd h Bool.false_ne_true

theorem IsComputed.ofFixedArray (he : element.IsComputed)
    (h : ofFixedArray element capacity = .ok t) : t.IsComputed := by
  obtain ⟨-, lengths, -, rfl⟩ := ofFixedArray_eq_ok_iff.1 h
  exact ⟨he, h⟩

theorem IsComputed.ofVariableArray (he : element.IsComputed)
    (h : ofVariableArray element capacity = .ok t) : t.IsComputed := by
  obtain ⟨-, count, run, lengths, -, -, -, rfl⟩ := ofVariableArray_eq_ok_iff.1 h
  exact ⟨he, h⟩

/-- **What is made alike is equal**, of types with objects of one catalog.  By induction on how they
are made, and so from the bottom of both up: of equal elements equal arrays are made. -/
theorem eq_of_sameStructure {catalog : Catalog} (hstructure : t.SameStructure u)
    (ht : t.IsComputed) (hu : u.IsComputed) (hkeeps : ∀ c, t.innermost? = some c → catalog.Keeps c)
    (hkeeps' : ∀ c, u.innermost? = some c → catalog.Keeps c) : t = u := by
  induction hstructure with
  | primitive => rfl
  | fixedArray _ ih =>
    obtain ⟨helement, hrun⟩ := ht
    obtain ⟨helement', hrun'⟩ := hu
    obtain rfl := ih helement helement' hkeeps hkeeps'
    exact Except.ok.inj (hrun.symm.trans hrun')
  | variableArray _ ih =>
    obtain ⟨helement, hrun⟩ := ht
    obtain ⟨helement', hrun'⟩ := hu
    obtain rfl := ih helement helement' hkeeps hkeeps'
    exact Except.ok.inj (hrun.symm.trans hrun')
  | @object c c' hidentity => exact eq_of_same hkeeps hkeeps' (decide_eq_true hidentity)

end DataType

namespace Catalog

variable {catalog later : Catalog} {element element' t u : DataType} {capacity capacity' : Nat}
  {count count' : UnsignedType} {lengths lengths' : LengthSet} {c c' : Composite}

/-! ## Types at hand -/

/-- **Every array at hand** keeps what making it again computes, at every depth. -/
theorem Offers.isComputed (h : catalog.Offers t) : t.IsComputed := by
  induction h with
  | primitive h => exact DataType.isComputed_of_isPrimitive h
  | fixedArray _ h ih => exact ih.ofFixedArray h
  | variableArray _ h ih => exact ih.ofVariableArray h
  | struct | union | service | half => trivial
  | later _ _ ih => exact ih

/-- **Types at hand are the same** exactly if they are made alike. -/
theorem Offers.same_iff_sameStructure (h : catalog.Offers t) (h' : catalog.Offers u) :
    t.same u = true ↔ t.SameStructure u := by
  refine ⟨DataType.sameStructure_of_same, fun hstructure => ?_⟩
  obtain rfl :=
    DataType.eq_of_sameStructure hstructure h.isComputed h'.isComputed h.keeps h'.keeps
  exact t.same_refl

/-- What is computed never decides whether two arrays of fixed length are the same. -/
theorem Offers.same_fixedArray_iff (h : catalog.Offers (.fixedArray element capacity lengths))
    (h' : catalog.Offers (.fixedArray element' capacity' lengths')) :
    (DataType.fixedArray element capacity lengths).same
        (.fixedArray element' capacity' lengths') = true ↔
      element.same element' = true ∧ capacity = capacity' := by
  constructor
  · intro hsame
    obtain ⟨helement, hcapacity, -⟩ := DataType.same_fixedArray_iff.1 hsame
    exact ⟨helement, hcapacity⟩
  · rintro ⟨helement, rfl⟩
    exact (h.same_iff_sameStructure h').2 (.fixedArray (DataType.sameStructure_of_same helement))

/-- Nor does it for two arrays of variable length. -/
theorem Offers.same_variableArray_iff
    (h : catalog.Offers (.variableArray element capacity count lengths))
    (h' : catalog.Offers (.variableArray element' capacity' count' lengths')) :
    (DataType.variableArray element capacity count lengths).same
        (.variableArray element' capacity' count' lengths') = true ↔
      element.same element' = true ∧ capacity = capacity' := by
  constructor
  · intro hsame
    obtain ⟨helement, hcapacity, -⟩ := DataType.same_variableArray_iff.1 hsame
    exact ⟨helement, hcapacity⟩
  · rintro ⟨helement, rfl⟩
    exact (h.same_iff_sameStructure h').2 (.variableArray (DataType.sameStructure_of_same helement))

/-! ## Objects -/

/-- **The objects that one construction adds**: a definition, and of a service the halves too. -/
inductive Adds (catalog later : Catalog) : Composite → Prop
  | struct {d : Declaration} {c : Composite} (h : catalog.addStructure d = .ok (c, later)) :
      Adds catalog later c
  | union {d : Declaration} {c : Composite} (h : catalog.addUnion d = .ok (c, later)) :
      Adds catalog later c
  | service {d : ServiceDeclaration} {c : Composite} (h : catalog.addService d = .ok (c, later)) :
      Adds catalog later c
  | half {d : ServiceDeclaration} {c half : Composite} (h : catalog.addService d = .ok (c, later))
      (hhalf : c.request? = some half ∨ c.response? = some half) : Adds catalog later half

theorem Adds.serial_eq (h : catalog.Adds later c) : c.identity.serial = catalog.nextSerial := by
  cases h with
  | struct h =>
    obtain ⟨hc, -⟩ := addStructure_eq_ok_iff.1 h
    rw [Composite.identity_of_build (Composite.ofStructure_eq_ok_iff.1 hc)]
  | union h =>
    obtain ⟨hc, -⟩ := addUnion_eq_ok_iff.1 h
    rw [Composite.identity_of_build (Composite.ofUnion_eq_ok_iff.1 hc)]
  | service h =>
    obtain ⟨hc, -⟩ := addService_eq_ok_iff.1 h
    obtain ⟨request, response, -, -, hbuild⟩ := Composite.exists_of_ofService hc
    rw [Composite.identity_of_build hbuild]
  | half h hhalf =>
    obtain ⟨hc, -⟩ := addService_eq_ok_iff.1 h
    rcases hhalf with hreq | hres
    · rw [Composite.identity_of_request hc hreq]
    · rw [Composite.identity_of_response hc hres]

/-- The objects of a catalog have the numbers of its definitions. -/
theorem Keeps.serial_lt (h : catalog.Keeps c) : c.identity.serial < catalog.nextSerial := by
  obtain ⟨definition, hdefinition, -⟩ := Option.bind_eq_some_iff.1 h
  exact (Array.getElem?_eq_some_iff.1 hdefinition).1

/-- **A new object** is the same as no type that was at hand before. -/
theorem Offers.same_of_adds (ht : catalog.Offers t) (h : catalog.Adds later c) :
    t.same (.composite c) = false := by
  rw [Bool.eq_false_iff]
  intro hsame
  cases t with
  | composite c' =>
    have hidentity : c'.identity = c.identity := of_decide_eq_true hsame
    have hlt : c'.identity.serial < catalog.nextSerial := (ht.keeps c' rfl).serial_lt
    rw [hidentity, h.serial_eq] at hlt
    exact lt_irrefl _ hlt
  | boolean | unsigned | signed | float | void | fixedArray | variableArray =>
    exact absurd hsame Bool.false_ne_true

/-- **A service and its halves** are three objects. -/
theorem same_halves {d : ServiceDeclaration} {request response : Composite}
    (h : catalog.addService d = .ok (c, later)) (hreq : c.request? = some request)
    (hres : c.response? = some response) :
    (DataType.composite c).same (.composite request) = false ∧
      (DataType.composite c).same (.composite response) = false ∧
      (DataType.composite request).same (.composite response) = false := by
  obtain ⟨hc, -⟩ := addService_eq_ok_iff.1 h
  obtain ⟨_, _, -, -, hbuild⟩ := Composite.exists_of_ofService hc
  simp only [DataType.same, Composite.identity_of_build hbuild,
    Composite.identity_of_request hc hreq, Composite.identity_of_response hc hres,
    Identity.mk.injEq, reduceCtorEq, and_false, decide_false, and_self]

/-- **Types are compared by their structure and their objects alone.**  Being the same is an
equivalence.  Types at hand are the same exactly if they are made alike, whatever was computed when
they were; in particular arrays of one form are exactly if their elements are the same and their
capacities equal.  Types that are the same have the same lengths and alignment and are written
alike.  A composite is the same only as itself: none that is made is the same as anything that was
at hand before, and a service is not the same as its halves, nor they as one another. -/
theorem same_by_structure (catalog : Catalog) :
    Equivalence (fun t u : DataType => t.same u = true) ∧
    (∀ t u, catalog.Offers t → catalog.Offers u →
      (t.same u = true ↔ t.SameStructure u) ∧
      (t.same u = true → t.lengths = u.lengths ∧ t.alignment = u.alignment ∧ t.text = u.text)) ∧
    (∀ element element' capacity capacity' lengths lengths',
      catalog.Offers (.fixedArray element capacity lengths) →
      catalog.Offers (.fixedArray element' capacity' lengths') →
      ((DataType.fixedArray element capacity lengths).same
          (.fixedArray element' capacity' lengths') = true ↔
        element.same element' = true ∧ capacity = capacity')) ∧
    (∀ element element' capacity capacity' count count' lengths lengths',
      catalog.Offers (.variableArray element capacity count lengths) →
      catalog.Offers (.variableArray element' capacity' count' lengths') →
      ((DataType.variableArray element capacity count lengths).same
          (.variableArray element' capacity' count' lengths') = true ↔
        element.same element' = true ∧ capacity = capacity')) ∧
    (∀ c c', catalog.Offers (.composite c) → catalog.Offers (.composite c') →
      ((DataType.composite c).same (.composite c') = true ↔ c = c')) ∧
    (∀ later c, catalog.Adds later c → ∀ t, catalog.Offers t → t.same (.composite c) = false) ∧
    (∀ d later c request response, catalog.addService d = .ok (c, later) →
      c.request? = some request → c.response? = some response →
      (DataType.composite c).same (.composite request) = false ∧
        (DataType.composite c).same (.composite response) = false ∧
        (DataType.composite request).same (.composite response) = false) := by
  refine ⟨⟨DataType.same_refl, DataType.same_symm, DataType.same_trans⟩, fun t u ht hu =>
    ⟨ht.same_iff_sameStructure hu, fun hsame => ?_⟩, fun _ _ _ _ _ _ => Offers.same_fixedArray_iff,
    fun _ _ _ _ _ _ _ _ => Offers.same_variableArray_iff, fun c c' hc hc' => ?_,
    fun _ _ hadds _ ht => ht.same_of_adds hadds, fun _ _ _ _ _ => same_halves⟩
  · obtain rfl := DataType.eq_of_same ht.keeps hu.keeps hsame
    exact ⟨rfl, rfl, rfl⟩
  · refine ⟨fun hsame => ?_, fun hcc' => hcc' ▸ DataType.same_refl _⟩
    exact DataType.composite.inj (DataType.eq_of_same hc.keeps hc'.keeps hsame)

/-- One definition made twice, and two arrays of each of the two composites that come of it: alike
in all that can be seen, and yet only the arrays of one composite are the same. -/
theorem same_by_structure_flagged : ∃ c c' later latest t u,
    empty.addStructure .flagged = .ok (c, later) ∧ later.addStructure .flagged = .ok (c', latest) ∧
    DataType.ofFixedArray (.composite c) 2 = .ok t ∧
    DataType.ofFixedArray (.composite c') 2 = .ok u ∧ latest.Offers t ∧ latest.Offers u ∧
    t.lengths.toList = [32, 40, 48, 56, 64] ∧ u.lengths.toList = [32, 40, 48, 56, 64] ∧
    t.text = "sample.Flagged.1.0[2]" ∧ u.text = "sample.Flagged.1.0[2]" ∧
    t.same u = false ∧ t.same t = true := by
  have hrun : ((empty.addStructure .flagged).toOption.bind fun first =>
      (first.2.addStructure .flagged).toOption.bind fun second =>
      (DataType.ofFixedArray (.composite first.1) 2).toOption.bind fun t =>
      (DataType.ofFixedArray (.composite second.1) 2).toOption.map fun u =>
        (t.lengths.toList, u.lengths.toList, t.text, u.text)) =
      some ([32, 40, 48, 56, 64], [32, 40, 48, 56, 64], "sample.Flagged.1.0[2]",
        "sample.Flagged.1.0[2]") := by
    decide +kernel
  simp only [toOption_bind_eq_some_iff, toOption_map_eq_some_iff, Prod.exists,
    Prod.mk.injEq] at hrun
  obtain ⟨c, later, hc, c', latest, hc', t, ht, u, hu, htlist, hulist, httext, hutext⟩ := hrun
  have hgrows : later.GrowsTo latest := by
    obtain ⟨-, rfl⟩ := addStructure_eq_ok_iff.1 hc'
    exact growsTo_push later c'
  have hold : later.Offers (.composite c) := .struct (offers_flagged empty) hc
  have hnew : latest.Offers (.composite c') := .struct (offers_flagged later) hc'
  have hoffers : latest.Offers t := .fixedArray (.later hold hgrows) ht
  have hoffers' : latest.Offers u := .fixedArray hnew hu
  obtain ⟨⟨hrefl, -, -⟩, -, harrays, -⟩ := same_by_structure latest
  obtain ⟨-, -, -, -, -, hadds, -⟩ := same_by_structure later
  refine ⟨c, c', later, latest, t, u, hc, hc', ht, hu, hoffers, hoffers', htlist, hulist, httext,
    hutext, ?_, hrefl t⟩
  obtain ⟨-, lengths, -, rfl⟩ := DataType.ofFixedArray_eq_ok_iff.1 ht
  obtain ⟨-, lengths', -, rfl⟩ := DataType.ofFixedArray_eq_ok_iff.1 hu
  have hobjects : (DataType.composite c).same (.composite c') = false :=
    hadds latest c' (.struct hc') _ hold
  rw [Bool.eq_false_iff]
  intro hsame
  obtain ⟨helement, -⟩ := (harrays _ _ _ _ _ _ hoffers hoffers').1 hsame
  exact Bool.false_ne_true (hobjects.symm.trans helement)

end Catalog
end WireSchema
