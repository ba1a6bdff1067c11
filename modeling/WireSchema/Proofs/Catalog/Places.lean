import WireSchema.Proofs.Catalog.Services
import WireSchema.Proofs.Composite.Stops

/-!
# Proofs/Catalog/Places — errors name the file of the definition

Whatever the making of a definition stops at, the error is in the file of the definition, on no
line, and otherwise the cause that the stage came to (`Error.IsIn`).

Only the whole of a service has a file.  Its halves are made in none, and what stops them is put in
the file of the service afterwards; the container is made in that file.  So an error of a half is
located twice and an error of the container once (`Composite.ofRuns`), and as the first place that
is known stays (`Composite.locatedAt_located`), it comes to the same as locating the cause once.
-/

namespace WireSchema

/-! ## Errors in a file -/

/-- **The error is the cause in the file**, on no line, and shown behind the path.  The empty path is
no file. -/
structure Error.IsIn (e : Error) (path : String) (cause : Cause) : Prop where
  path_eq : e.path? = if path = "" then none else some path
  line_eq : e.line? = none
  cause_eq : e.cause = cause
  kind_eq : e.kind = cause.kind
  text_eq : e.text = (if path = "" then "" else path ++ ": ") ++ cause.message

namespace Composite

theorem isIn_located (path : String) (cause : Cause) : (located path cause).IsIn path cause where
  path_eq := rfl
  line_eq := rfl
  cause_eq := rfl
  kind_eq := rfl
  text_eq := by
    have hpath : (located path cause).path? = if path = "" then none else some path := rfl
    have hline : (located path cause).line? = none := rfl
    rw [Error.text, hpath, hline]
    split_ifs
    · exact String.empty_append.symm
    · rfl

/-- **The file, the line and the cause make up the error.** -/
theorem isIn_iff {e : Error} {path : String} {cause : Cause} :
    e.IsIn path cause ↔ located path cause = e := by
  constructor
  · rintro ⟨hpath, hline, hcause, -, -⟩
    obtain ⟨c, path?, line?⟩ := e
    obtain rfl := hpath
    obtain rfl := hline
    obtain rfl := hcause
    rfl
  · rintro rfl
    exact isIn_located path cause

/-- **The first place that is known stays.** -/
theorem locatedAt_located (path outer : String) (cause : Cause) :
    (located path cause).locatedAt (some outer) none =
      located (if path = "" then outer else path) cause := by
  have hpath : (located path cause).path? = if path = "" then none else some path := rfl
  rw [Error.locatedAt, hpath]
  split_ifs with hempty
  · rfl
  · rw [located, Error.locatedAt, Option.bind_some, Error.nonempty?, if_neg hempty]
    rfl

/-- A run that locates its causes stops at a cause in that file. -/
theorem mapError_located_eq_error_iff {α : Type} {x : Except Cause α} {path : String} {e : Error} :
    x.mapError (located path) = .error e ↔ ∃ cause, x = .error cause ∧ e.IsIn path cause := by
  rw [mapError_eq_error_iff]
  exact exists_congr fun _ => and_congr_right fun _ => isIn_iff.symm

/-! ## Services, run by run -/

theorem ofDeclaration_eq_error_iff {identity : Identity} {shape : Shape} {bounded : Bool}
    {d : Declaration} {e : Error} : ofDeclaration identity shape bounded d = .error e ↔
      ∃ cause, StopsAt shape bounded d cause ∧ e.IsIn d.sourcePath cause := by
  rw [ofDeclaration, mapError_located_eq_error_iff]
  exact exists_congr fun _ => and_congr_left fun _ => build_eq_error_iff

/-- Locating an error in no file and then in that of the service leaves it in the latter. -/
theorem ofHalf_eq (serial : Nat) (d : ServiceDeclaration) (role : Role) (s : Schema) :
    ofHalf serial d role s =
      (half serial d (Text.trim d.name) role s).mapError (located d.sourcePath) := by
  rw [ofHalf, ofDeclaration, mapError_mapError]
  exact congrArg (Except.mapError · _) (funext fun cause => locatedAt_located "" d.sourcePath cause)

/-- **Causes may be located at the end**, or by each run for itself. -/
theorem ofService_eq_ofRuns (serial : Nat) (d : ServiceDeclaration) :
    ofService serial d = ofRuns serial d := by
  rw [ofService, buildService, ofRuns, ofHalf_eq, ofHalf_eq, mapError_bind]
  refine congrArg _ (funext fun request => ?_)
  rw [mapError_bind]
  rfl

end Composite

/-! ## Where services stop -/

/-- **How the making of a service stops with the cause**, by the first of its three runs that
does. -/
inductive ServiceDeclaration.StopsAt (d : ServiceDeclaration) (serial : Nat) (cause : Cause) : Prop
  | inRequest
      (h : Composite.StopsAt d.request.shape false
        (Composite.halfDeclaration d (Text.trim d.name) .request d.request) cause)
  | inResponse {request : Composite}
      (hrequest : Composite.half serial d (Text.trim d.name) .request d.request = .ok request)
      (h : Composite.StopsAt d.response.shape false
        (Composite.halfDeclaration d (Text.trim d.name) .response d.response) cause)
  | inContainer {request response : Composite}
      (hrequest : Composite.half serial d (Text.trim d.name) .request d.request = .ok request)
      (hresponse : Composite.half serial d (Text.trim d.name) .response d.response = .ok response)
      (h : Composite.StopsAt (.service request response) true
        (Composite.containerDeclaration d (Text.trim d.name) request response) cause)

theorem Composite.buildService_eq_error_iff {serial : Nat} {d : ServiceDeclaration} {cause : Cause} :
    buildService serial d = .error cause ↔ d.StopsAt serial cause := by
  constructor
  · intro h
    rcases bind_eq_error_iff.1 h with h | ⟨request, hrequest, h⟩
    · exact .inRequest (build_eq_error_iff.1 h)
    rcases bind_eq_error_iff.1 h with h | ⟨response, hresponse, h⟩
    · exact .inResponse hrequest (build_eq_error_iff.1 h)
    · exact .inContainer hrequest hresponse (build_eq_error_iff.1 h)
  · intro h
    cases h with
    | inRequest h => exact bind_eq_error_iff.2 (.inl (build_eq_error_iff.2 h))
    | inResponse hrequest h =>
      refine bind_eq_error_iff.2 (.inr ⟨_, hrequest, ?_⟩)
      exact bind_eq_error_iff.2 (.inl (build_eq_error_iff.2 h))
    | inContainer hrequest hresponse h =>
      refine bind_eq_error_iff.2 (.inr ⟨_, hrequest, ?_⟩)
      exact bind_eq_error_iff.2 (.inr ⟨_, hresponse, build_eq_error_iff.2 h⟩)

/-! ## Catalogs -/

namespace Catalog

variable {catalog : Catalog} {e : Error}

/-- A catalog takes whatever is made, so that only its making may stop. -/
theorem bind_push_eq_error_iff {x : Except Error Composite} :
    (x >>= fun c => pure (c, catalog.push c)) = .error e ↔ x = .error e := by
  rw [bind_eq_error_iff]
  exact or_iff_left fun ⟨_, _, h⟩ => absurd h nofun

theorem addStructure_eq_error_iff {d : Declaration} : catalog.addStructure d = .error e ↔
    ∃ cause, Composite.StopsAt .struct true d cause ∧ e.IsIn d.sourcePath cause := by
  rw [addStructure, bind_push_eq_error_iff]
  exact Composite.ofDeclaration_eq_error_iff

theorem addUnion_eq_error_iff {d : Declaration} : catalog.addUnion d = .error e ↔
    ∃ cause, Composite.StopsAt .union true d cause ∧ e.IsIn d.sourcePath cause := by
  rw [addUnion, bind_push_eq_error_iff]
  exact Composite.ofDeclaration_eq_error_iff

theorem addService_eq_error_iff_stopsAt {d : ServiceDeclaration} :
    catalog.addService d = .error e ↔
      ∃ cause, d.StopsAt catalog.nextSerial cause ∧ e.IsIn d.sourcePath cause := by
  rw [addService_eq_error_iff, Composite.ofService, Composite.mapError_located_eq_error_iff]
  exact exists_congr fun _ => and_congr_left fun _ => Composite.buildService_eq_error_iff

/-- **Every error names the file of the definition.**  A structure or a union that cannot be made
has the cause of the stage that its making stops at, in the file of the definition and on no line.
A service has the cause of the first of its three runs that stops, in the file of the service; its
runs put their errors there on their own, and nothing behind them stops. -/
theorem error_names_file (catalog : Catalog) :
    (∀ (d : Declaration) (e : Error),
      (catalog.addStructure d = .error e ↔
        ∃ cause, Composite.StopsAt .struct true d cause ∧ e.IsIn d.sourcePath cause) ∧
      (catalog.addUnion d = .error e ↔
        ∃ cause, Composite.StopsAt .union true d cause ∧ e.IsIn d.sourcePath cause)) ∧
    ∀ d : ServiceDeclaration,
      catalog.addService d =
        (Composite.ofRuns catalog.nextSerial d).map (fun c => (c, catalog.push c)) ∧
      ∀ e : Error, catalog.addService d = .error e ↔
        ∃ cause, d.StopsAt catalog.nextSerial cause ∧ e.IsIn d.sourcePath cause := by
  refine ⟨fun d e => ⟨addStructure_eq_error_iff, addUnion_eq_error_iff⟩,
    fun d => ⟨?_, fun e => addService_eq_error_iff_stopsAt⟩⟩
  rw [addService_eq, Composite.ofService_eq_ofRuns]

end Catalog

/-- The service with a response that leaves nothing to choose, in a file. -/
def ServiceDeclaration.lopsided : ServiceDeclaration :=
  { exchange with
    response := ⟨Declaration.flagged.attributes.take 1, none, true, true⟩
    sourcePath := "sample/Exchange.1.0.dsdl" }

-- the response is made in no file, and its error is in that of the service
example : (Catalog.empty.addService .lopsided).map (·.1.name) =
    .error ⟨.tooFewVariants, some "sample/Exchange.1.0.dsdl", none⟩ := by decide +kernel

end WireSchema
