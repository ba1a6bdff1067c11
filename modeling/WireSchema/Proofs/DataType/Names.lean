import Std.Data.String.ToNat
import WireSchema.Proofs.Catalog.Services
import WireSchema.Proofs.Composite.Remade
import WireSchema.Proofs.Name.Joined

/-!
# Proofs/DataType/Names — the names of composites, taken apart and written out

The name of every composite that can be made has a dot, so it may be cut at its first dot, at its
last one or at all of them, and the parts agree.  The halves of a service are named behind it: the
full namespace of a half is the name of the service (`DataType.Buildable.fullNamespace_of_half`).

A composite is written as its name with two more components, the numbers of its version.  Numbers
have no dots, so the name and the version are found again in what is written
(`Composite.text_eq_iff`).  The main theorem `DataType.Buildable.names_taken_apart` says all of this.
-/

namespace WireSchema

/-! ## Written out -/

/-- A number is written in digits. -/
theorem Name.isDigit_of_mem_toString {n : Nat} {c : Char} (h : c ∈ (toString n).toList) :
    c.isDigit = true := by
  rw [Nat.toString_eq_repr, Nat.toList_repr] at h
  exact Nat.isDigit_of_mem_toDigits (by decide) le_rfl h

/-- A number is written without a dot. -/
theorem Name.not_mem_toString (n : Nat) : separator ∉ (toString n).toList :=
  fun h => absurd (isDigit_of_mem_toString h) (by decide)

/-- Versions are the same exactly if their numbers are written alike. -/
theorem Version.eq_iff_toString {v w : Version} : v = w ↔
    toString v.major = toString w.major ∧ toString v.minor = toString w.minor := by
  obtain ⟨major, minor⟩ := v
  obtain ⟨major', minor'⟩ := w
  rw [Version.mk.injEq]
  exact and_congr Nat.repr_inj.symm Nat.repr_inj.symm

namespace Composite

variable {serial : Nat} {d : ServiceDeclaration} {role : Role} {s : Schema} {c c' inner : Composite}

/-- **What is written of a composite** is its name with the two numbers of the version behind. -/
theorem text_eq_child (c : Composite) : c.text =
    Name.child (Name.child c.name (toString c.version.major)) (toString c.version.minor) := by
  rw [text, Version.text, ← String.append_assoc, ← String.append_assoc]
  rfl

/-- **Composites are written alike** exactly if they have the same name and the same version. -/
theorem text_eq_iff : c.text = c'.text ↔ c.name = c'.name ∧ c.version = c'.version := by
  rw [text_eq_child, text_eq_child, Version.eq_iff_toString, ← and_assoc,
    Name.child_inj (Name.not_mem_toString _) (Name.not_mem_toString _),
    Name.child_inj (Name.not_mem_toString _) (Name.not_mem_toString _)]

/-! ## Halves -/

/-- The run that made a half of a service. -/
theorem exists_half_of_ofService (h : ofService serial d = .ok c)
    (hinner : c.request? = some inner ∨ c.response? = some inner) :
    ∃ role s, half serial d (Text.trim d.name) role s = .ok inner := by
  rcases hinner with hreq | hres
  · exact ⟨.request, d.request, half_of_request h hreq⟩
  · exact ⟨.response, d.response, half_of_response h hres⟩

/-- A half is a structure or a union. -/
theorem kind_ne_service_of_half (h : half serial d (Text.trim d.name) role s = .ok inner) :
    inner.kind ≠ .service := by
  rw [(madeFrom_of_build h).kind_eq]
  rcases s.shape_eq with hs | hs <;> rw [hs] <;> nofun

/-- **A half is named behind its service.** -/
theorem fullNamespace_of_half (h : half serial d (Text.trim d.name) role s = .ok inner) :
    Name.fullNamespace inner.name = Text.trim d.name := by
  have hname : inner.name = Name.child (Text.trim d.name) (halfName role) :=
    (madeFrom_of_build h).name_eq.trans (Name.trim_child (isComponent_halfName role))
  rw [hname, Name.fullNamespace_child (isComponent_halfName role).not_mem_separator]

theorem name_of_ofService (h : ofService serial d = .ok c) : c.name = Text.trim d.name := by
  obtain ⟨_, _, -, -, hbuild⟩ := exists_of_ofService h
  exact (madeFrom_of_build hbuild).name_eq.trans (Text.trim_trim d.name)

end Composite

namespace DataType

variable {c : Composite}

/-- **What is a service was made as one.** -/
theorem Buildable.exists_ofService (h : (DataType.composite c).Buildable)
    (hkind : c.kind = .service) : ∃ serial d, Composite.ofService serial d = .ok c := by
  cases h with
  | primitive hp => exact absurd hp Bool.false_ne_true
  | fixedArray _ h =>
    obtain ⟨-, _, -, hc⟩ := ofFixedArray_eq_ok_iff.1 h
    exact absurd hc nofun
  | variableArray _ h =>
    obtain ⟨-, _, _, _, -, -, -, hc⟩ := ofVariableArray_eq_ok_iff.1 h
    exact absurd hc nofun
  | struct _ h =>
    have hmade := Composite.madeFrom_of_build (Composite.ofStructure_eq_ok_iff.1 h)
    exact absurd (hmade.kind_eq.symm.trans hkind) nofun
  | union _ h =>
    have hmade := Composite.madeFrom_of_build (Composite.ofUnion_eq_ok_iff.1 h)
    exact absurd (hmade.kind_eq.symm.trans hkind) nofun
  | service _ _ h => exact ⟨_, _, h⟩
  | half _ _ h hhalf =>
    obtain ⟨_, _, hrun⟩ := Composite.exists_half_of_ofService h hhalf
    exact absurd hkind (Composite.kind_ne_service_of_half hrun)

/-- The full namespace of a half is the name of its service. -/
theorem Buildable.fullNamespace_of_half (h : (DataType.composite c).Buildable) {half : Composite}
    (hhalf : c.request? = some half ∨ c.response? = some half) :
    Name.fullNamespace half.name = c.name := by
  obtain ⟨_, _, hservice⟩ := h.exists_ofService (Composite.kind_of_half hhalf)
  obtain ⟨_, _, hrun⟩ := Composite.exists_half_of_ofService hservice hhalf
  rw [Composite.fullNamespace_of_half hrun, Composite.name_of_ofService hservice]

/-! ## All composites -/

/-- **No name is lost in its parts**, and the parts agree.  The name of a composite that can be made
has two components at least, all of them without a defect, which joined by dots are the name.  So
are its full namespace and its short name; the short name is the last component, and the root
namespace is the first one of the name and of the full namespace.  The full namespace of a half is
the name of its service.  And what is written of a composite tells its name and its version. -/
theorem Buildable.names_taken_apart (h : (DataType.composite c).Buildable) :
    2 ≤ (Name.components c.name).length ∧
      (∀ word ∈ Name.components c.name, Name.componentDefect? word = none) ∧
      ".".intercalate (Name.components c.name) = c.name ∧
      Name.fullNamespace c.name ++ "." ++ Name.shortName c.name = c.name ∧
      (Name.components c.name).getLast? = some (Name.shortName c.name) ∧
      (Name.components c.name).head? = some (Name.rootNamespace c.name) ∧
      (Name.components (Name.fullNamespace c.name)).head? = some (Name.rootNamespace c.name) ∧
      (∀ half : Composite, c.request? = some half ∨ c.response? = some half →
        Name.fullNamespace half.name = c.name) ∧
      ∀ c' : Composite, c.text = c'.text ↔ c.name = c'.name ∧ c.version = c'.version := by
  obtain ⟨shape, bounded, d, hmade, -⟩ := h.exists_madeFrom
  have hfull := Composite.isFull_of_headingDefect? hmade.heading
  have hdot := hfull.dotted
  refine ⟨Name.two_le_length_components_iff.2 hdot,
    fun word hword => Name.componentDefect?_eq_none_iff.2 (hfull.words word hword),
    Name.intercalate_components c.name, Name.child_shortName hdot, Name.getLast?_components hdot,
    Name.head?_components c.name, ?_, fun _ => h.fullNamespace_of_half,
    fun _ => Composite.text_eq_iff⟩
  rw [Name.head?_components, Name.rootNamespace_fullNamespace hdot]

theorem Buildable.names_taken_apart_exchange : ∃ s request,
    Composite.ofService 0 .exchange = .ok s ∧ s.request? = some request ∧
    ".".intercalate (Name.components s.name) = s.name ∧
    2 ≤ (Name.components request.name).length ∧ Name.fullNamespace request.name = s.name ∧
    request.text ≠ s.text := by
  have hrun : ((Composite.ofService 0 .exchange).toOption.map fun s =>
      s.request?.map fun request => (request.name, s.name)) =
      some (some ("sample.Exchange.Request", "sample.Exchange")) := by
    decide +kernel
  obtain ⟨s, hs, hrun⟩ := toOption_map_eq_some_iff.1 hrun
  obtain ⟨request, hreq, hnames⟩ := Option.map_eq_some_iff.1 hrun
  obtain ⟨hrequest, hservice⟩ := Prod.mk.inj hnames
  obtain ⟨-, -, hjoined, -, -, -, -, hhalf, -⟩ :=
    names_taken_apart (.service Declaration.buildable_flagged Declaration.buildable_flagged hs)
  obtain ⟨htwo, -, -, -, -, -, -, -, htext⟩ := names_taken_apart
    (.half Declaration.buildable_flagged Declaration.buildable_flagged hs (Or.inl hreq))
  refine ⟨s, request, hs, hreq, hjoined, htwo, hhalf request (Or.inl hreq), ?_⟩
  intro h
  have hname := ((htext s).1 h).1
  rw [hrequest, hservice] at hname
  exact absurd hname (by decide)

end DataType
end WireSchema
