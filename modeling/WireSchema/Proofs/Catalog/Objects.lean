import WireSchema.DataType.Equality
import WireSchema.Proofs.Catalog.Services

/-!
# Proofs/Catalog/Objects — composites are told apart by their places

Two composites are the same if they are one and the same object, and an object is known by its
identity.  Under an identity a catalog has at most one composite (`Catalog.find?`), and whatever is
added later leaves it where it is (`Catalog.GrowsTo`).  A program only has types at hand whose
composites the catalog keeps (`Catalog.Offers.keeps`); so two of its types are the same exactly if
they are equal (`Catalog.Offers.same_iff_eq`).
-/

namespace WireSchema

/-! ## Identities -/

namespace Composite

variable {serial : Nat} {d : ServiceDeclaration} {c half : Composite}

/-- The request of a service has its number. -/
theorem identity_of_request (h : ofService serial d = .ok c) (hreq : c.request? = some half) :
    half.identity = ⟨serial, .request⟩ :=
  identity_of_build (half_of_request h hreq)

/-- The response of a service has its number. -/
theorem identity_of_response (h : ofService serial d = .ok c) (hres : c.response? = some half) :
    half.identity = ⟨serial, .response⟩ :=
  identity_of_build (half_of_response h hres)

end Composite

namespace Catalog

variable {catalog later : Catalog} {c : Composite}

/-! ## Growth -/

/-- **What is added later** leaves every definition at its place. -/
def GrowsTo (catalog later : Catalog) : Prop :=
  ∀ (serial : Nat) (c : Composite), catalog.definitions[serial]? = some c →
    later.definitions[serial]? = some c

theorem growsTo_push (catalog : Catalog) (c : Composite) : catalog.GrowsTo (catalog.push c) := by
  intro serial c' h
  obtain ⟨hlt, -⟩ := Array.getElem?_eq_some_iff.1 h
  exact (Array.getElem?_push_lt hlt).trans ((Array.getElem?_eq_getElem hlt).symm.trans h)

/-- The composite that is added has the number that was next. -/
theorem getElem?_push (catalog : Catalog) (c : Composite) :
    (catalog.push c).definitions[catalog.nextSerial]? = some c :=
  Array.getElem?_push_size

/-- A run whose composite is added to the catalog. -/
theorem bind_push_eq_ok_iff {x : Except Error Composite} :
    (x >>= fun c => pure (c, catalog.push c)) = .ok (c, later) ↔
      x = .ok c ∧ later = catalog.push c := by
  cases x with
  | error e => exact iff_of_false nofun nofun
  | ok c' =>
    change Except.ok (c', catalog.push c') = .ok (c, later) ↔ _
    rw [Except.ok.injEq, Except.ok.injEq, Prod.mk.injEq]
    exact and_congr_right fun hc => by rw [hc, eq_comm]

theorem addStructure_eq_ok_iff {d : Declaration} : catalog.addStructure d = .ok (c, later) ↔
    Composite.ofStructure catalog.nextSerial d = .ok c ∧ later = catalog.push c := by
  rw [addStructure]
  exact bind_push_eq_ok_iff

theorem addUnion_eq_ok_iff {d : Declaration} : catalog.addUnion d = .ok (c, later) ↔
    Composite.ofUnion catalog.nextSerial d = .ok c ∧ later = catalog.push c := by
  rw [addUnion]
  exact bind_push_eq_ok_iff

theorem addService_eq_ok_iff {d : ServiceDeclaration} : catalog.addService d = .ok (c, later) ↔
    Composite.ofService catalog.nextSerial d = .ok c ∧ later = catalog.push c := by
  rw [addService_eq]
  generalize Composite.ofService catalog.nextSerial d = run
  exact bind_push_eq_ok_iff

/-! ## Objects -/

/-- **The object of the identity**: a definition, or one of the halves of a service. -/
def find? (catalog : Catalog) (identity : Identity) : Option Composite :=
  catalog.definitions[identity.serial]?.bind fun c =>
    match identity.role with
    | .whole => some c
    | .request => c.request?
    | .response => c.response?

/-- **The composite is an object of the catalog.** -/
def Keeps (catalog : Catalog) (c : Composite) : Prop := catalog.find? c.identity = some c

theorem Keeps.of_growsTo (h : catalog.Keeps c) (hlater : catalog.GrowsTo later) : later.Keeps c := by
  obtain ⟨definition, hdefinition, hpart⟩ := Option.bind_eq_some_iff.1 h
  exact Option.bind_eq_some_iff.2 ⟨definition, hlater _ _ hdefinition, hpart⟩

theorem keeps_push {shape : Shape} {bounded : Bool} {d : Declaration}
    (h : Composite.build ⟨catalog.nextSerial, .whole⟩ shape bounded d = .ok c) :
    (catalog.push c).Keeps c := by
  rw [Keeps, find?, Composite.identity_of_build h, getElem?_push]
  rfl

/-- **The halves of a service that is added** are objects of their own. -/
theorem keeps_push_half {d : ServiceDeclaration} {half : Composite}
    (h : Composite.ofService catalog.nextSerial d = .ok c)
    (hhalf : c.request? = some half ∨ c.response? = some half) : (catalog.push c).Keeps half := by
  rcases hhalf with hreq | hres
  · rw [Keeps, find?, Composite.identity_of_request h hreq, getElem?_push, Option.bind_some]
    exact hreq
  · rw [Keeps, find?, Composite.identity_of_response h hres, getElem?_push, Option.bind_some]
    exact hres

/-! ## Types at hand -/

/-- **The types that a program has at hand** when it has come to the catalog: primitives, arrays of
what is at hand, the definitions that it added with their halves, and all that it had before. -/
inductive Offers : Catalog → DataType → Prop
  | primitive {catalog : Catalog} {t : DataType} (h : t.isPrimitive = true) : Offers catalog t
  | fixedArray {catalog : Catalog} {element t : DataType} {capacity : Nat}
      (he : Offers catalog element) (h : DataType.ofFixedArray element capacity = .ok t) :
      Offers catalog t
  | variableArray {catalog : Catalog} {element t : DataType} {capacity : Nat}
      (he : Offers catalog element) (h : DataType.ofVariableArray element capacity = .ok t) :
      Offers catalog t
  | struct {catalog later : Catalog} {d : Declaration} {c : Composite}
      (ha : ∀ a ∈ d.attributes, Offers catalog a.type)
      (h : catalog.addStructure d = .ok (c, later)) : Offers later (.composite c)
  | union {catalog later : Catalog} {d : Declaration} {c : Composite}
      (ha : ∀ a ∈ d.attributes, Offers catalog a.type)
      (h : catalog.addUnion d = .ok (c, later)) : Offers later (.composite c)
  | service {catalog later : Catalog} {d : ServiceDeclaration} {c : Composite}
      (hrequest : ∀ a ∈ d.request.attributes, Offers catalog a.type)
      (hresponse : ∀ a ∈ d.response.attributes, Offers catalog a.type)
      (h : catalog.addService d = .ok (c, later)) : Offers later (.composite c)
  | half {catalog later : Catalog} {d : ServiceDeclaration} {c half : Composite}
      (hrequest : ∀ a ∈ d.request.attributes, Offers catalog a.type)
      (hresponse : ∀ a ∈ d.response.attributes, Offers catalog a.type)
      (h : catalog.addService d = .ok (c, later))
      (hhalf : c.request? = some half ∨ c.response? = some half) : Offers later (.composite half)
  | later {catalog later : Catalog} {t : DataType} (h : Offers catalog t)
      (hlater : catalog.GrowsTo later) : Offers later t

end Catalog

namespace DataType

/-- A primitive has no composite at its bottom. -/
theorem innermost?_of_isPrimitive {t : DataType} (h : t.isPrimitive = true) :
    t.innermost? = none := by
  cases t with
  | boolean | unsigned | signed | float | void => rfl
  | fixedArray | variableArray | composite => exact absurd h Bool.false_ne_true

end DataType

/-- **The composite at the bottom of a type at hand** is an object of the catalog. -/
theorem Catalog.Offers.keeps {catalog : Catalog} {t : DataType} (h : catalog.Offers t) :
    ∀ c, t.innermost? = some c → catalog.Keeps c := by
  induction h with
  | primitive h =>
    rw [DataType.innermost?_of_isPrimitive h]
    exact nofun
  | fixedArray he h ih =>
    obtain ⟨-, lengths, -, rfl⟩ := DataType.ofFixedArray_eq_ok_iff.1 h
    rwa [DataType.innermost?]
  | variableArray he h ih =>
    obtain ⟨-, field, run, lengths, -, -, -, rfl⟩ := DataType.ofVariableArray_eq_ok_iff.1 h
    rwa [DataType.innermost?]
  | struct ha h =>
    obtain ⟨hc, rfl⟩ := addStructure_eq_ok_iff.1 h
    rintro _ ⟨⟩
    exact keeps_push (Composite.ofStructure_eq_ok_iff.1 hc)
  | union ha h =>
    obtain ⟨hc, rfl⟩ := addUnion_eq_ok_iff.1 h
    rintro _ ⟨⟩
    exact keeps_push (Composite.ofUnion_eq_ok_iff.1 hc)
  | service hreq hres h =>
    obtain ⟨hc, rfl⟩ := addService_eq_ok_iff.1 h
    obtain ⟨request, response, -, -, hbuild⟩ := Composite.exists_of_ofService hc
    rintro _ ⟨⟩
    exact keeps_push hbuild
  | half hreq hres h hhalf =>
    obtain ⟨hc, rfl⟩ := addService_eq_ok_iff.1 h
    rintro _ ⟨⟩
    exact keeps_push_half hc hhalf
  | later h hlater ih => exact fun c hc => (ih c hc).of_growsTo hlater

/-! ## Equality -/

namespace DataType

theorem same_refl : ∀ t : DataType, t.same t = true
  | .boolean => rfl
  | .unsigned _ | .signed _ | .float _ | .void _ | .composite _ => decide_eq_true rfl
  | .fixedArray element _ _ | .variableArray element _ _ _ => by
      simp only [same, element.same_refl, beq_self_eq_true, decide_true, Bool.and_self]

/-- **Types with objects of one catalog** are equal if they are the same. -/
theorem eq_of_same {catalog : Catalog} {t t' : DataType}
    (h : ∀ c, t.innermost? = some c → catalog.Keeps c)
    (h' : ∀ c, t'.innermost? = some c → catalog.Keeps c) (hsame : t.same t' = true) : t = t' := by
  -- down both types at once, to primitives or to two composites with one identity
  fun_induction same t t' with
  | case1 => rfl
  | case2 u u' | case3 u u' | case4 u u' | case5 u u' => rw [of_decide_eq_true hsame]
  | case6 element n s element' n' s' ih =>
    simp only [Bool.and_eq_true, beq_iff_eq, decide_eq_true_eq] at hsame
    obtain ⟨⟨helement, rfl⟩, rfl⟩ := hsame
    rw [ih h h' helement]
  | case7 element n f s element' n' f' s' ih =>
    simp only [Bool.and_eq_true, beq_iff_eq, decide_eq_true_eq] at hsame
    obtain ⟨⟨⟨helement, rfl⟩, rfl⟩, rfl⟩ := hsame
    rw [ih h h' helement]
  | case8 c c' =>
    have hc := h c rfl
    rw [Catalog.Keeps, of_decide_eq_true hsame, h' c' rfl] at hc
    rw [Option.some.inj hc]
  | case9 => exact absurd hsame Bool.false_ne_true

end DataType

/-- **Types at hand are the same exactly if they are equal**: the objects of a catalog are told apart
by their identities. -/
theorem Catalog.Offers.same_iff_eq {catalog : Catalog} {t t' : DataType} (h : catalog.Offers t)
    (h' : catalog.Offers t') : t.same t' = true ↔ t = t' := by
  constructor
  · exact DataType.eq_of_same h.keeps h'.keeps
  · rintro rfl
    exact t.same_refl

/-! ## A sample -/

theorem Catalog.offers_flagged (catalog : Catalog) :
    ∀ a ∈ Declaration.flagged.attributes, catalog.Offers a.type := by
  have hoctets : DataType.ofVariableArray .octet 2 = .ok .octets := rfl
  exact List.forall_mem_cons.2 ⟨.primitive rfl,
    List.forall_mem_singleton.2 (.variableArray (.primitive rfl) hoctets)⟩

end WireSchema
