import WireSchema.Proofs.Composite.Extents
import WireSchema.Proofs.Name.Child

/-!
# Proofs/Catalog/Services — the services that are accepted

A service is made in three runs: of its request, of its response, and of the container around them.
A half is checked like a definition of its own, but that its name is not bounded and that it has no
port number (`Composite.half_checks`).  So whatever is wrong with a component of the name or with
the version comes up in the request, and never in the response.  The container finds two aligned
fields with distinct names, as deprecated as itself, and is left with three rules: the name needs a
namespace and may not be too long, the port number is in range, and the longest values of the halves
fit one behind the other (`Composite.container_checks`).

The main theorem `ServiceDeclaration.accepted_iff_acceptable` says which services are accepted, and
which of the three runs decides about the error of any other.
-/

namespace WireSchema

/-! ## The rules -/

namespace Schema

/-- **What a schema makes** of a definition: a structure or a union. -/
def make (s : Schema) (serial : Nat) (d : Declaration) : Except Error Composite :=
  if s.isUnion then Composite.ofUnion serial d else Composite.ofStructure serial d

theorem make_eq_ok_iff {s : Schema} {serial : Nat} {d : Declaration} {c : Composite} :
    s.make serial d = .ok c ↔ Composite.build ⟨serial, .whole⟩ s.shape true d = .ok c := by
  rw [make, shape]
  split_ifs
  · exact Composite.ofUnion_eq_ok_iff
  · exact Composite.ofStructure_eq_ok_iff

end Schema

/-- **The rules about the schema of a half.** -/
def Rule.ofSchema : List Rule := [.distinct, .dependencies, .extent, .variants, .size]

/-- **The rules that a half is checked for.** -/
def Rule.ofHalf : List Rule := .name :: .version :: Rule.ofSchema

/-- **The rules that are left to the container** of two halves. -/
def Rule.ofContainer : List Rule := [.name, .portId, .extent]

namespace ServiceDeclaration

/-- **The schema of a half as a definition of its own**, under the given name and in the given
file. -/
def alone (d : ServiceDeclaration) (s : Schema) (name path : String) : Declaration where
  name := name
  version := d.version
  attributes := s.attributes
  extent? := s.extent?
  isFinal := s.isFinal
  isDeprecated := d.isDeprecated
  portId? := none
  sourcePath := path

/-- **The composite of a schema by itself**, under some name that may be used. -/
def IsMadeAlone (d : ServiceDeclaration) (s : Schema) (c : Composite) : Prop :=
  ∃ serial name path, Name.IsFull true (Text.trim name) ∧
    (if s.isUnion then Composite.ofUnion serial (d.alone s name path)
      else Composite.ofStructure serial (d.alone s name path)) = .ok c

/-- The longest value of a half, in unbounded arithmetic. -/
def longestValue (d : ServiceDeclaration) (s : Schema) : Nat :=
  (d.alone s d.name d.sourcePath).longestValue s.shape.kind

/-- **A service that is accepted**: what it says itself is in order, both schemas are accepted by
themselves, and their longest values fit one behind the other. -/
structure Acceptable (d : ServiceDeclaration) : Prop where
  name : Name.IsFull true (Text.trim d.name)
  version : d.version.major ≤ Version.maxNumber ∧ d.version.minor ≤ Version.maxNumber ∧
    (d.version.major ≠ 0 ∨ d.version.minor ≠ 0)
  portId : ∀ id, d.portId? = some id → id ≤ PortScope.maxService
  halves : ∃ request response x y, d.IsMadeAlone d.request request ∧
    d.IsMadeAlone d.response response ∧ request.lengths.max? = some x ∧
    response.lengths.max? = some y ∧ x + y < lengthLimit

end ServiceDeclaration

/-- **Whether a half of a service keeps the rule**; what may be wrong with its name is what may be
wrong with a component of the name of the service. -/
def Rule.HoldsInHalf (d : ServiceDeclaration) (s : Schema) : Rule → Prop
  | .name => ∀ word ∈ Name.components (Text.trim d.name), Name.IsComponent word
  | r => r.Holds (d.alone s d.name d.sourcePath) s.shape.kind false

/-- **Whether the container of a service keeps the rule**, around halves that keep theirs. -/
def Rule.HoldsInContainer (d : ServiceDeclaration) : Rule → Prop
  | .name => Name.separator ∈ (Text.trim d.name).toList ∧
      (Text.trim d.name).length ≤ Name.maxLength
  | .portId => ∀ id, d.portId? = some id → id ≤ PortScope.maxService
  | .extent => d.longestValue d.request + d.longestValue d.response < lengthLimit
  | _ => True

/-! ## Schemas under different names -/

namespace ServiceDeclaration

variable {d : ServiceDeclaration} {s : Schema} {name path name' path' : String} {kind : Kind}
  {c : Composite}

theorem hasExtent_alone_iff :
    (d.alone s name path).HasExtent kind ↔ (d.alone s name' path').HasExtent kind :=
  ⟨fun h => ⟨h.fits, h.derived, h.aligned, h.enough, h.final⟩,
    fun h => ⟨h.fits, h.derived, h.aligned, h.enough, h.final⟩⟩

/-- **Only the rule about names looks at the name.** -/
theorem holdsInHalf_iff {bounded : Bool} {r : Rule} (hr : r ≠ .name) :
    r.HoldsInHalf d s ↔ r.Holds (d.alone s name path) s.shape.kind bounded := by
  cases r with
  | name => exact absurd rfl hr
  | extent => exact hasExtent_alone_iff
  | version | distinct | portId | dependencies | variants | size => exact Iff.rfl

/-- A composite of a schema by itself comes out of the run that makes composites. -/
theorem isMadeAlone_iff : d.IsMadeAlone s c ↔ ∃ serial name path,
    Name.IsFull true (Text.trim name) ∧
      Composite.build ⟨serial, .whole⟩ s.shape true (d.alone s name path) = .ok c :=
  exists₃_congr fun _ _ _ => and_congr_right fun _ => Schema.make_eq_ok_iff

/-- **A schema is checked like any definition**, but for a port number, which it has none of. -/
theorem alone_checks (d : ServiceDeclaration) (identity : Identity) (bounded : Bool)
    (h : Admissible s.attributes) (name path : String) :
    Checks (Rule.Holds (d.alone s name path) s.shape.kind bounded) Rule.Blames Rule.ofHalf
      (Composite.build identity s.shape bounded (d.alone s name path)) := by
  have hrun := Composite.build_checks (d := d.alone s name path) identity s.shape bounded
    h.wellFormed h.length_fieldTypes_le
  have hlist : Rule.inOrder.filter (· ∈ Rule.ofHalf) = Rule.ofHalf := by decide
  rw [← hlist]
  refine hrun.filter fun r _ hr => ?_
  obtain rfl : r = .portId := by
    revert hr
    cases r <;> decide
  exact fun id hid => absurd hid nofun

/-- **A schema is accepted by itself** exactly if the version is in range and its own rules hold. -/
theorem exists_isMadeAlone_iff (h : Admissible s.attributes) :
    (∃ c, d.IsMadeAlone s c) ↔ ∀ r ∈ Rule.version :: Rule.ofSchema, r.HoldsInHalf d s := by
  have hrules : ∀ name path, (∀ r ∈ Rule.version :: Rule.ofSchema, r.HoldsInHalf d s) ↔
      ∀ r ∈ Rule.version :: Rule.ofSchema, r.Holds (d.alone s name path) s.shape.kind true :=
    fun _ _ => forall₂_congr fun r hr => holdsInHalf_iff fun hname => by
      rw [hname] at hr
      exact absurd hr (by decide)
  simp only [isMadeAlone_iff]
  constructor
  · rintro ⟨c, serial, name, path, -, hrun⟩
    have hall := (d.alone_checks ⟨serial, .whole⟩ true h name path).holds c hrun
    exact (hrules name path).2 (List.forall_mem_cons.1 hall).2
  · intro hall
    have hname : Name.IsFull true (Text.trim "a.B") := Name.defect?_eq_none_iff.1 (by decide)
    obtain ⟨c, hrun⟩ := (d.alone_checks ⟨0, .whole⟩ true h "a.B" "").exists_ok_iff.2
      (List.forall_mem_cons.2 ⟨hname, (hrules "a.B" "").1 hall⟩)
    exact ⟨c, 0, "a.B", "", hname, hrun⟩

theorem IsMadeAlone.max?_lengths (h : Admissible s.attributes) (hc : d.IsMadeAlone s c) :
    c.lengths.max? = some (d.longestValue s) := by
  obtain ⟨_, _, _, -, hrun⟩ := isMadeAlone_iff.1 hc
  exact (Composite.madeFrom_of_build hrun).max?_lengths_eq h.wellFormed h.length_fieldTypes_le

end ServiceDeclaration

/-! ## Halves -/

theorem Composite.isComponent_halfName (role : Role) : Name.IsComponent (halfName role) :=
  Name.componentDefect?_eq_none_iff.1 (by cases role <;> decide)

/-- The name of a half may be used exactly if all components of the name of its service may. -/
theorem Name.isFull_half_iff (name : String) (role : Role) :
    IsFull false (Text.trim (child (Text.trim name) (Composite.halfName role))) ↔
      ∀ word ∈ components (Text.trim name), IsComponent word := by
  have hcomponent := Composite.isComponent_halfName role
  rw [trim_child hcomponent, isFull_child_iff hcomponent]

namespace Composite

variable {serial : Nat} {d : ServiceDeclaration} {s : Schema} {name : String} {role : Role}
  {c request response : Composite}

/-- **A half is checked like a definition**, but for a bound on its name and for a port number. -/
theorem half_checks (serial : Nat) (d : ServiceDeclaration) (role : Role)
    (h : Admissible s.attributes) :
    Checks (Rule.HoldsInHalf d s) Rule.Blames Rule.ofHalf
      (half serial d (Text.trim d.name) role s) := by
  refine (d.alone_checks ⟨serial, role⟩ false h _ "").congr fun r _ => ?_
  by_cases hname : r = .name
  · rw [hname]
    exact Name.isFull_half_iff d.name role
  · exact (ServiceDeclaration.holdsInHalf_iff hname).symm

theorem max?_lengths_of_half (h : Admissible s.attributes)
    (hc : half serial d name role s = .ok c) : c.lengths.max? = some (d.longestValue s) :=
  (madeFrom_of_build hc).max?_lengths_eq h.wellFormed h.length_fieldTypes_le

/-! ## Containers -/

theorem bitsPerByte_dvd_of_mem_lengths {x : Nat} (h : (DataType.composite c).WellFormed)
    (hx : x ∈ c.lengths) : bitsPerByte ∣ x := by
  have halign : c.alignment = bitsPerByte := h.alignment_eq
  exact halign ▸ h.dvd x hx

/-- **The extent of a container** is in order exactly if the longest values of its halves fit one
behind the other: the halves are aligned, so that nothing is padded. -/
theorem hasExtent_container_iff {x y : Nat} (hrequest : (DataType.composite request).WellFormed)
    (hresponse : (DataType.composite response).WellFormed) (hx : request.lengths.max? = some x)
    (hy : response.lengths.max? = some y) :
    (containerDeclaration d name request response).HasExtent .service ↔ x + y < lengthLimit := by
  have hwf : ∀ t ∈ [DataType.composite request, .composite response], t.WellFormed :=
    List.forall_mem_cons.2 ⟨hrequest, List.forall_mem_singleton.2 hresponse⟩
  have halign : (containerDeclaration d name request response).alignment = bitsPerByte :=
    alignmentOf_eq hwf
  have hdvdx := bitsPerByte_dvd_of_mem_lengths hrequest (LengthSet.mem_of_max? hx)
  have hdvdy := bitsPerByte_dvd_of_mem_lengths hresponse (LengthSet.mem_of_max? hy)
  have hlongest : (containerDeclaration d name request response).longest .service = x + y := by
    have hbyte : response.alignment = bitsPerByte := hresponse.alignment_eq
    have hlongx : (DataType.composite request).longest = x := congrArg (Option.getD · 0) hx
    have hlongy : (DataType.composite response).longest = y := congrArg (Option.getD · 0) hy
    calc (containerDeclaration d name request response).longest .service
        = roundUp (roundUp 0 request.alignment + (DataType.composite request).longest)
            response.alignment + (DataType.composite response).longest := rfl
      _ = x + y := by
          rw [hlongx, hlongy, roundUp_eq_self (Nat.dvd_zero _), Nat.zero_add, hbyte,
            roundUp_eq_self hdvdx]
  have hminimal :
      (containerDeclaration d name request response).minimalExtent .service = x + y := by
    rw [Declaration.minimalExtent, hlongest, halign, roundUp_eq_self (Nat.dvd_add hdvdx hdvdy)]
  have hbits : (containerDeclaration d name request response).extentBits .service = x + y :=
    hminimal
  constructor
  · exact fun h => hminimal ▸ h.fits
  · intro hfits
    exact
      { fits := hminimal ▸ hfits
        derived := fun _ => hbits ▸ hfits
        aligned := halign ▸ hbits ▸ Nat.dvd_add hdvdx hdvdy
        enough := (hminimal.trans hbits.symm).le
        final := fun _ => hbits.trans hminimal.symm }

/-- **The container is left with three rules**, as its halves keep theirs. -/
theorem container_checks (hreq : Admissible d.request.attributes)
    (hres : Admissible d.response.attributes)
    (hrequest : half serial d (Text.trim d.name) .request d.request = .ok request)
    (hresponse : half serial d (Text.trim d.name) .response d.response = .ok response) :
    Checks (Rule.HoldsInContainer d) Rule.Blames Rule.ofContainer
      (build ⟨serial, .whole⟩ (.service request response) true
        (containerDeclaration d (Text.trim d.name) request response)) := by
  have hwfreq := wellFormed_of_half hreq hrequest
  have hwfres := wellFormed_of_half hres hresponse
  have hhalf := (half_checks serial d .request hreq).holds request hrequest
  have htwo : 2 ≤ lengthLimit := by decide
  have hrun : Checks
      (Rule.Holds (containerDeclaration d (Text.trim d.name) request response) .service true)
      Rule.Blames Rule.inOrder (build ⟨serial, .whole⟩ (.service request response) true
        (containerDeclaration d (Text.trim d.name) request response)) :=
    build_checks (d := containerDeclaration d (Text.trim d.name) request response)
      ⟨serial, .whole⟩ (.service request response) true
      (List.forall_mem_cons.2 ⟨hwfreq, List.forall_mem_singleton.2 hwfres⟩) htwo
  have hlist : Rule.inOrder.filter (· ∈ Rule.ofContainer) = Rule.ofContainer := by decide
  rw [← hlist]
  refine (hrun.filter fun r _ hr => ?_).congr fun r hr => ?_
  · cases r with
    | name | portId | extent => exact absurd hr (by decide)
    | version => exact hhalf .version (by decide)
    | distinct =>
      have hnames : ["request", "response"].Nodup := by decide
      exact hnames
    | dependencies =>
      rw [Rule.Holds, or_iff_not_imp_left, Bool.not_eq_true]
      intro hd
      have hcurrent : ∀ {role : Role} {s : Schema} {c : Composite},
          half serial d (Text.trim d.name) role s = .ok c → c.isDeprecated = false :=
        fun hc => (madeFrom_of_build hc).isDeprecated_eq.trans hd
      refine List.forall_mem_cons.2 ⟨?_, List.forall_mem_singleton.2 ?_⟩
      · rintro _ ⟨⟩
        exact hcurrent hrequest
      · rintro _ ⟨⟩
        exact hcurrent hresponse
    | variants => exact fun hkind => absurd hkind (by decide)
    | size => exact fun hfinal => absurd hfinal.symm Bool.false_ne_true
  · cases r with
    | version | distinct | dependencies | variants | size => exact absurd hr (by decide)
    | name =>
      rw [Rule.Holds, containerDeclaration, Text.trim_trim]
      have hwords := hhalf .name (by decide)
      exact ⟨fun h => ⟨h.dotted, h.short rfl⟩, fun h => ⟨h.1, fun _ => h.2, hwords⟩⟩
    | portId => exact Iff.rfl
    | extent =>
      exact hasExtent_container_iff hwfreq hwfres (max?_lengths_of_half hreq hrequest)
        (max?_lengths_of_half hres hresponse)

/-! ## Services -/

/-- **A service is made** where its three runs go well. -/
theorem exists_ofService (hreq : Admissible d.request.attributes)
    (hres : Admissible d.response.attributes)
    (hrequest : ∀ r ∈ Rule.ofHalf, r.HoldsInHalf d d.request)
    (hresponse : ∀ r ∈ Rule.ofHalf, r.HoldsInHalf d d.response)
    (hcontainer : ∀ r ∈ Rule.ofContainer, r.HoldsInContainer d) (serial : Nat) :
    ∃ c, ofService serial d = .ok c := by
  obtain ⟨request, hrequest⟩ := (half_checks serial d .request hreq).exists_ok_iff.2 hrequest
  obtain ⟨response, hresponse⟩ := (half_checks serial d .response hres).exists_ok_iff.2 hresponse
  obtain ⟨c, hc⟩ := (container_checks hreq hres hrequest hresponse).exists_ok_iff.2 hcontainer
  refine ⟨c, mapError_eq_ok_iff.2 ?_⟩
  exact bind_eq_ok_iff.2 ⟨request, hrequest, bind_eq_ok_iff.2 ⟨response, hresponse, hc⟩⟩

end Composite

/-- **How a service comes to an error of the kind**: by the first broken rule, in the first of its
three runs that stops. -/
inductive ServiceDeclaration.StopsWith (d : ServiceDeclaration) (serial : Nat) (kind : ErrorKind) :
    Prop
  /-- The request cannot be made; the name and the version are among its rules. -/
  | inRequest {cause : Cause} {r : Rule}
      (hrequest : Composite.half serial d (Text.trim d.name) .request d.request = .error cause)
      (hkind : kind = cause.kind)
      (hfirst : FirstBroken (Rule.HoldsInHalf d d.request) Rule.ofHalf r)
      (hrule : kind = r.errorKind)
  /-- The response cannot be made, for its schema. -/
  | inResponse {request : Composite} {cause : Cause} {r : Rule}
      (hrequest : Composite.half serial d (Text.trim d.name) .request d.request = .ok request)
      (hresponse : Composite.half serial d (Text.trim d.name) .response d.response = .error cause)
      (hkind : kind = cause.kind)
      (hfirst : FirstBroken (Rule.HoldsInHalf d d.response) Rule.ofSchema r)
      (hrule : kind = r.errorKind)
  /-- Both halves are fine, and the container cannot be made. -/
  | inContainer {request response : Composite} {r : Rule}
      (hrequest : Composite.half serial d (Text.trim d.name) .request d.request = .ok request)
      (hresponse : Composite.half serial d (Text.trim d.name) .response d.response = .ok response)
      (hfirst : FirstBroken (Rule.HoldsInContainer d) Rule.ofContainer r)
      (hrule : kind = r.errorKind)

namespace Catalog

variable {catalog : Catalog} {d : ServiceDeclaration}

/-- **A service that can be made is accepted**: its halves belong to no other. -/
theorem addService_eq (catalog : Catalog) (d : ServiceDeclaration) :
    catalog.addService d =
      (Composite.ofService catalog.nextSerial d).map fun c => (c, catalog.push c) := by
  rw [addService]
  cases h : Composite.ofService catalog.nextSerial d with
  | error e => rfl
  | ok c =>
    change (refuse ((catalog.takenHalf? c).map _) >>= fun _ => _) = _
    rw [takenHalf?_eq_none h]
    rfl

theorem exists_addService_iff : (∃ made, catalog.addService d = .ok made) ↔
    ∃ c, Composite.ofService catalog.nextSerial d = .ok c := by
  rw [addService_eq]
  generalize Composite.ofService catalog.nextSerial d = run
  cases run with
  | error e => exact iff_of_false nofun nofun
  | ok c => exact iff_of_true ⟨_, rfl⟩ ⟨c, rfl⟩

theorem addService_eq_error_iff {e : Error} : catalog.addService d = .error e ↔
    Composite.ofService catalog.nextSerial d = .error e := by
  rw [addService_eq]
  generalize Composite.ofService catalog.nextSerial d = run
  cases run with
  | error e' =>
    change Except.error e' = Except.error e ↔ _
    rw [Except.error.injEq, Except.error.injEq]
  | ok c => exact iff_of_false nofun nofun

/-- **The error of a service** is that of the first of its three runs that stops. -/
theorem stopsWith_of_addService (hreq : Admissible d.request.attributes)
    (hres : Admissible d.response.attributes) {e : Error} (h : catalog.addService d = .error e) :
    d.StopsWith catalog.nextSerial e.kind := by
  obtain ⟨cause, hcause, rfl⟩ := mapError_eq_error_iff.1 (addService_eq_error_iff.1 h)
  rcases bind_eq_error_iff.1 hcause with hrequest | ⟨request, hrequest, hcause⟩
  · obtain ⟨r, hfirst, hblames⟩ := (Composite.half_checks _ d .request hreq).blames cause hrequest
    exact .inRequest hrequest rfl hfirst hblames
  have hhalf := (Composite.half_checks _ d .request hreq).holds request hrequest
  rcases bind_eq_error_iff.1 hcause with hresponse | ⟨response, hresponse, hcause⟩
  · -- the rules about the name and the version are those of the request, which keeps them
    have hlist : Rule.ofHalf.filter (· ∈ Rule.ofSchema) = Rule.ofSchema := by decide
    have hchecks := (Composite.half_checks catalog.nextSerial d .response hres).filter
      (p := (· ∈ Rule.ofSchema)) fun r hr hkept => by
        cases r with
        | name => exact hhalf .name hr
        | version => exact hhalf .version hr
        | portId => exact absurd hr (by decide)
        | distinct | dependencies | extent | variants | size => exact absurd hkept (by decide)
    rw [hlist] at hchecks
    obtain ⟨r, hfirst, hblames⟩ := hchecks.blames cause hresponse
    exact .inResponse hrequest hresponse rfl hfirst hblames
  · obtain ⟨r, hfirst, hblames⟩ :=
      (Composite.container_checks hreq hres hrequest hresponse).blames cause hcause
    exact .inContainer hrequest hresponse hfirst hblames

end Catalog

/-- **Services are accepted by their halves and what is left to the container.**  A service of
attributes whose types can be made is accepted exactly if its name, version and port number are in
order, both schemas are accepted by themselves, and the longest values of the two fit one behind the
other.  Any other service has an error of the kind of its request, if that cannot be made; else of
its response; and else of the container, which stops only at a name without a namespace or too long,
at the port number, and at halves that do not fit one behind the other, in this order. -/
theorem ServiceDeclaration.accepted_iff_acceptable (d : ServiceDeclaration)
    (hreq : Admissible d.request.attributes) (hres : Admissible d.response.attributes)
    (catalog : Catalog) :
    ((∃ made, catalog.addService d = .ok made) ↔ d.Acceptable) ∧
      ∀ e, catalog.addService d = .error e → d.StopsWith catalog.nextSerial e.kind := by
  refine ⟨Catalog.exists_addService_iff.trans ⟨?_, fun h => ?_⟩,
    fun e => Catalog.stopsWith_of_addService hreq hres⟩
  · rintro ⟨c, hc⟩
    obtain ⟨request, response, hrequest, hresponse, hbuild⟩ := Composite.exists_of_ofService hc
    have hreqRules := (Composite.half_checks _ d .request hreq).holds request hrequest
    have hresRules := (Composite.half_checks _ d .response hres).holds response hresponse
    have hcontainer := (Composite.container_checks hreq hres hrequest hresponse).holds c hbuild
    obtain ⟨hdotted, hshort⟩ := hcontainer .name (by decide)
    obtain ⟨q, hq⟩ := (exists_isMadeAlone_iff hreq).2 (List.forall_mem_cons.1 hreqRules).2
    obtain ⟨r, hr⟩ := (exists_isMadeAlone_iff hres).2 (List.forall_mem_cons.1 hresRules).2
    exact
      { name := ⟨hdotted, fun _ => hshort, hreqRules .name (by decide)⟩
        version := hreqRules .version (by decide)
        portId := hcontainer .portId (by decide)
        halves := ⟨q, r, _, _, hq, hr, hq.max?_lengths hreq, hr.max?_lengths hres,
          hcontainer .extent (by decide)⟩ }
  · obtain ⟨q, r, x, y, hq, hr, hx, hy, hfits⟩ := h.halves
    have hreqRules := (exists_isMadeAlone_iff hreq).1 ⟨q, hq⟩
    have hresRules := (exists_isMadeAlone_iff hres).1 ⟨r, hr⟩
    obtain rfl := Option.some.inj (hx.symm.trans (hq.max?_lengths hreq))
    obtain rfl := Option.some.inj (hy.symm.trans (hr.max?_lengths hres))
    refine Composite.exists_ofService hreq hres (List.forall_mem_cons.2 ⟨h.name.words, hreqRules⟩)
      (List.forall_mem_cons.2 ⟨h.name.words, hresRules⟩) (fun rule hrule => ?_) _
    cases rule with
    | name => exact ⟨h.name.dotted, h.name.short rfl⟩
    | portId => exact h.portId
    | extent => exact hfits
    | version | distinct | dependencies | variants | size => exact absurd hrule (by decide)

/-- The service with a port number that no service has. -/
def ServiceDeclaration.unbound : ServiceDeclaration := { exchange with portId? := some 512 }

theorem ServiceDeclaration.accepted_iff_acceptable_exchange :
    Admissible exchange.request.attributes ∧ Admissible exchange.response.attributes ∧
      (∃ made, Catalog.empty.addService .exchange = .ok made) ∧ exchange.Acceptable ∧
      ∃ e, Catalog.empty.addService .unbound = .error e ∧ unbound.StopsWith 0 e.kind := by
  have hflagged : Admissible Declaration.flagged.attributes :=
    ⟨Declaration.buildable_flagged, by decide⟩
  have hrun : (Composite.ofService 0 .exchange).toOption.map (·.isFinal) = some true := by
    decide +kernel
  obtain ⟨c, hc, -⟩ := toOption_map_eq_some_iff.1 hrun
  have hmade : ∃ made, Catalog.empty.addService .exchange = .ok made :=
    Catalog.exists_addService_iff.2 ⟨c, hc⟩
  obtain ⟨hiff, -⟩ := accepted_iff_acceptable .exchange hflagged hflagged Catalog.empty
  obtain ⟨hiff', hstops⟩ := accepted_iff_acceptable .unbound hflagged hflagged Catalog.empty
  refine ⟨hflagged, hflagged, hmade, hiff.1 hmade, ?_⟩
  cases h : Catalog.empty.addService .unbound with
  | error e => exact ⟨e, rfl, hstops e h⟩
  | ok made => exact absurd ((hiff'.1 ⟨made, h⟩).portId 512 rfl) (by decide)

end WireSchema
