import Mathlib.Data.List.Forall2
import WireSchema.Composite.Offsets
import WireSchema.DataType.Array
import WireSchema.Proofs.DataType.Buildable
import WireSchema.Proofs.Error.SameOutcome

/-!
# Proofs/Composite/Outline — all that a definition sees of the types in it

Of the type of an attribute a definition sees an **outline**: its lengths, its alignment, whether it
is a filler and whether it is deprecated.  Two lists of attributes with the same names and outlines
make the same footprint (`ofAttributes_congr`), and two runs of `Composite.build` on them have the
same outcome (`Composite.build_sameOutcome`): both go well, with the same properties, or both stop
at errors of one kind.

The form on the wire takes even less, the outlines of the fields alone (`Composite.SameWire`); it
goes down to the offsets of the fields (`Composite.SameWire.offsets_eq`).

The texts of errors may differ, because they name the types.
-/

namespace WireSchema

/-! ## Outlines -/

/-- **What is seen of a type from outside.** -/
structure Outline where
  lengths : LengthSet
  alignment : Nat
  isVoid : Bool
  /-- Whether there is a deprecated composite at the bottom. -/
  isDeprecated : Bool

/-- **The outline of a type.** -/
def DataType.outline (t : DataType) : Outline where
  lengths := t.lengths
  alignment := t.alignment
  isVoid := t.isVoid
  isDeprecated := (t.innermost?.filter (·.isDeprecated)).isSome

/-- Of a composite the outline is three of its properties. -/
theorem Composite.outline_congr {c c' : Composite} (hlengths : c.lengths = c'.lengths)
    (halign : c.alignment = c'.alignment) (hdeprecated : c.isDeprecated = c'.isDeprecated) :
    (DataType.composite c).outline = (DataType.composite c').outline := by
  have hsome : ((some c).filter (·.isDeprecated)).isSome =
      ((some c').filter (·.isDeprecated)).isSome := by
    simp only [Option.isSome_filter, Option.any_some, hdeprecated]
  exact Outline.mk.injEq .. ▸ ⟨hlengths, halign, rfl, hsome⟩

/-- **Attributes with the same outline**: of one sort and name, with types that look the same. -/
inductive Attribute.SameOutline : Attribute → Attribute → Prop
  | field {t t' : DataType} (name : String) (h : t.outline = t'.outline) :
      SameOutline (.field name t) (.field name t')
  | padding (filler : VoidType) : SameOutline (.padding filler) (.padding filler)
  | constant {t t' : DataType} (name : String) (value : Value) (h : t.outline = t'.outline) :
      SameOutline (.constant name t value) (.constant name t' value)

theorem Attribute.SameOutline.refl (a : Attribute) : a.SameOutline a := by
  cases a with
  | field name t => exact .field name rfl
  | padding filler => exact .padding filler
  | constant name t value => exact .constant name value rfl

/-! ## Fields -/

/-- **Types with the same outlines**, one by one. -/
def SameOutlines (types types' : List DataType) : Prop :=
  List.Forall₂ (fun t t' => t.outline = t'.outline) types types'

namespace Composite

variable {types types' : List DataType}

theorem length_congr (h : SameOutlines types types') : types.length = types'.length :=
  List.Forall₂.length_eq h

/-- What can be read off the outlines is the same for each. -/
theorem map_congr {β : Type} {f : DataType → β} (hf : ∀ {t t'}, t.outline = t'.outline → f t = f t')
    (h : SameOutlines types types') : types.map f = types'.map f := by
  induction h with
  | nil => rfl
  | cons ht _ ih => exact congrArg₂ List.cons (hf ht) ih

theorem map_alignment_congr (h : SameOutlines types types') :
    types.map (·.alignment) = types'.map (·.alignment) :=
  map_congr (congrArg Outline.alignment) h

theorem foldlM_append?_congr (h : SameOutlines types types') : ∀ before : LengthSet,
    types.foldlM append? before = types'.foldlM append? before := by
  induction h with
  | nil => exact fun _ => rfl
  | @cons t t' rest rest' ht _ ih =>
    intro before
    have happend : append? before t = append? before t' := by
      rw [append?, append?, show t.alignment = t'.alignment from congrArg Outline.alignment ht,
        show t.lengths = t'.lengths from congrArg Outline.lengths ht]
    rw [List.foldlM_cons, List.foldlM_cons, happend]
    exact congrArg _ (funext ih)

theorem map_lengths_congr (h : SameOutlines types types') :
    types.map (·.lengths) = types'.map (·.lengths) :=
  map_congr (congrArg Outline.lengths) h

theorem unionAggregate_congr (h : SameOutlines types types') :
    unionAggregate types = unionAggregate types' := by
  have htag := tagBits_congr (map_alignment_congr h)
  have hlengths := map_lengths_congr h
  cases h with
  | nil => rfl
  | cons ht hrest =>
    cases hrest with
    | nil => exact congrArg Except.ok (congrArg Outline.lengths ht)
    | cons => simp only [unionAggregate, htag, hlengths]

/-- **The aggregate is that of the outlines.** -/
theorem aggregateOf_congr (kind : Kind) (h : SameOutlines types types') :
    aggregateOf kind types = aggregateOf kind types' := by
  cases kind with
  | union => exact unionAggregate_congr h
  | struct | service => exact congrArg (require _) (foldlM_append?_congr h LengthSet.zero)

end Composite

/-! ## Attributes -/

variable {attributes attributes' : List Attribute}

theorem sameOutlines_fieldTypes (h : List.Forall₂ Attribute.SameOutline attributes attributes') :
    SameOutlines (fieldTypes attributes) (fieldTypes attributes') := by
  induction h with
  | nil => exact .nil
  | cons ha _ ih =>
    cases ha with
    | field _ ht => exact .cons ht ih
    | padding => exact .cons rfl ih
    | constant => exact ih

theorem attributeNames_congr (h : List.Forall₂ Attribute.SameOutline attributes attributes') :
    attributeNames attributes = attributeNames attributes' := by
  induction h with
  | nil => rfl
  | cons ha _ ih =>
    cases ha with
    | field name => exact congrArg (List.cons name) ih
    | padding => exact ih
    | constant name => exact congrArg (List.cons name) ih

/-- The first attribute to be refused for its type is the same; the texts may name other types. -/
theorem map_kind_deprecatedUse? (h : List.Forall₂ Attribute.SameOutline attributes attributes') :
    (deprecatedUse? attributes).map Cause.kind = (deprecatedUse? attributes').map Cause.kind := by
  induction h with
  | nil => rfl
  | @cons a a' rest rest' ha _ ih =>
    have hsome : a.deprecatedDependency?.isSome = a'.deprecatedDependency?.isSome := by
      cases ha with
      | field _ ht | constant _ _ ht => exact congrArg Outline.isDeprecated ht
      | padding => rfl
    rw [deprecatedUse?, deprecatedUse?, List.findSome?_cons, List.findSome?_cons]
    cases h : a.deprecatedDependency? <;> cases h' : a'.deprecatedDependency? <;>
      rw [h, h'] at hsome
    · exact ih
    · exact absurd hsome Bool.false_ne_true
    · exact absurd hsome.symm Bool.false_ne_true
    · rfl

theorem variantDefect?_congr (h : List.Forall₂ Attribute.SameOutline attributes attributes') :
    variantDefect? attributes = variantDefect? attributes' := by
  have hfiller : (attributes.any fun a => a.isPadding || a.type.isVoid) =
      attributes'.any fun a => a.isPadding || a.type.isVoid := by
    induction h with
    | nil => rfl
    | @cons a a' rest rest' ha _ ih =>
      have hvoid : (a.isPadding || a.type.isVoid) = (a'.isPadding || a'.type.isVoid) := by
        cases ha with
        | field _ ht | constant _ _ ht => exact congrArg Outline.isVoid ht
        | padding => rfl
      rw [List.any_cons, List.any_cons, hvoid, ih]
  rw [variantDefect?, variantDefect?, Composite.length_congr (sameOutlines_fieldTypes h), hfiller]

/-- **The footprint is that of the outlines.** -/
theorem ofAttributes_congr (h : List.Forall₂ Attribute.SameOutline attributes attributes')
    (name : String) (kind : Kind) (asked? : Option Nat) (isFinal : Bool) :
    Footprint.ofAttributes name kind attributes asked? isFinal =
      Footprint.ofAttributes name kind attributes' asked? isFinal := by
  have htypes := sameOutlines_fieldTypes h
  have halign := Composite.widenTo_congr (Composite.map_alignment_congr htypes)
  simp only [Footprint.ofAttributes, Composite.alignmentOf, halign,
    Composite.aggregateOf_congr kind htypes, variantDefect?_congr h]

/-- The declaration with other attributes. -/
def Declaration.withAttributes (d : Declaration) (attributes : List Attribute) : Declaration :=
  { d with attributes }

/-- **Headings with the same outlines** have defects of the same kind, or both none. -/
theorem map_kind_headingDefect? (h : List.Forall₂ Attribute.SameOutline attributes attributes')
    (d : Declaration) (name : String) (kind : Kind) (bounded : Bool) :
    ((d.withAttributes attributes).headingDefect? name kind bounded).map Cause.kind =
      ((d.withAttributes attributes').headingDefect? name kind bounded).map Cause.kind := by
  have hlast : (if d.isDeprecated then none else deprecatedUse? attributes).map Cause.kind =
      (if d.isDeprecated then none else deprecatedUse? attributes').map Cause.kind := by
    split_ifs
    · rfl
    · exact map_kind_deprecatedUse? h
  simp only [Declaration.headingDefect?, Declaration.withAttributes, Option.orElse_eq_orElse,
    Option.orElse_eq_or, Option.map_or, attributeNames_congr h]
  congr 4

/-! ## Composites -/

/-- **Layouts of one sort**, with the same tag in unions. -/
inductive Layout.SameSort : Layout → Layout → Prop
  | struct : SameSort .struct .struct
  | union (tag : UnsignedType) : SameSort (.union tag) (.union tag)
  | service {request request' response response' : Composite} :
      SameSort (.service request response) (.service request' response')

namespace Composite

/-- **Composites of the same form on the wire**: all that was computed from the types of their
fields, which look the same. -/
structure SameWire (c c' : Composite) : Prop where
  layout : c.layout.SameSort c'.layout
  fieldTypes : SameOutlines (fieldTypes c.attributes) (fieldTypes c'.attributes)
  alignment_eq : c.alignment = c'.alignment
  extent_eq : c.extent = c'.extent
  aggregate_eq : c.aggregate = c'.aggregate
  lengths_eq : c.lengths = c'.lengths
  header_eq : c.header? = c'.header?

/-- **Composites with the same properties**: all that was computed from their attributes, which look
the same. -/
structure SameProperties (c c' : Composite) : Prop where
  layout : c.layout.SameSort c'.layout
  attributes : List.Forall₂ Attribute.SameOutline c.attributes c'.attributes
  isDeprecated_eq : c.isDeprecated = c'.isDeprecated
  alignment_eq : c.alignment = c'.alignment
  extent_eq : c.extent = c'.extent
  aggregate_eq : c.aggregate = c'.aggregate
  lengths_eq : c.lengths = c'.lengths
  header_eq : c.header? = c'.header?

variable {c c' : Composite}

theorem SameWire.kind_eq (h : c.SameWire c') : c.kind = c'.kind := by
  have hlayout := h.layout
  rw [kind, kind]
  generalize c.layout = layout, c'.layout = layout' at hlayout
  cases hlayout <;> rfl

theorem SameWire.tag_eq (h : c.SameWire c') : c.tag? = c'.tag? := by
  have hlayout := h.layout
  rw [tag?, tag?]
  generalize c.layout = layout, c'.layout = layout' at hlayout
  cases hlayout <;> rfl

theorem SameProperties.refl (c : Composite) : c.SameProperties c where
  layout := by cases c.layout <;> constructor
  attributes := List.forall₂_same.2 fun a _ => .refl a
  isDeprecated_eq := rfl
  alignment_eq := rfl
  extent_eq := rfl
  aggregate_eq := rfl
  lengths_eq := rfl
  header_eq := rfl

/-- **Constants and names go in only where a definition is checked**, and not into the form on the
wire. -/
theorem SameProperties.sameWire (h : c.SameProperties c') : c.SameWire c' where
  layout := h.layout
  fieldTypes := sameOutlines_fieldTypes h.attributes
  alignment_eq := h.alignment_eq
  extent_eq := h.extent_eq
  aggregate_eq := h.aggregate_eq
  lengths_eq := h.lengths_eq
  header_eq := h.header_eq

theorem SameProperties.kind_eq (h : c.SameProperties c') : c.kind = c'.kind := h.sameWire.kind_eq

theorem SameProperties.tag_eq (h : c.SameProperties c') : c.tag? = c'.tag? := h.sameWire.tag_eq

/-- As the type of a field the two look the same. -/
theorem SameProperties.outline_eq (h : c.SameProperties c') :
    (DataType.composite c).outline = (DataType.composite c').outline :=
  outline_congr h.lengths_eq h.alignment_eq h.isDeprecated_eq

/-! ## Offsets -/

/-- The offsets of fields that are placed, in order. -/
def offsetsOf (placed : List Placement) : List LengthSet := placed.map (·.offsets)

/-- **The offsets of the fields**, for a value that starts at a position in `base?`. -/
def offsets (c : Composite) (base? : Option LengthSet) : Except Failure (List LengthSet) :=
  (c.placements base?).map offsetsOf

/-- **A row of fields is placed by the outlines of their types.** -/
theorem placeInRow_congr {fields fields' : List Attribute}
    (h : List.Forall₂ (fun a a' => a.type.outline = a'.type.outline) fields fields') :
    ∀ {placed placed' : List Placement} (position : LengthSet),
      offsetsOf placed = offsetsOf placed' →
      (placeInRow placed position fields).map offsetsOf =
        (placeInRow placed' position fields').map offsetsOf := by
  induction h with
  | nil =>
    intro placed placed' position hplaced
    have hreverse : offsetsOf placed.reverse = offsetsOf placed'.reverse := by
      simpa only [offsetsOf, List.map_reverse] using congrArg List.reverse hplaced
    rw [placeInRow, placeInRow]
    exact congrArg Except.ok hreverse
  | @cons a a' rest rest' ha _ ih =>
    intro placed placed' position hplaced
    have halign : a.type.alignment = a'.type.alignment := congrArg Outline.alignment ha
    have hlengths : a.type.lengths = a'.type.lengths := congrArg Outline.lengths ha
    rw [placeInRow, placeInRow, halign]
    cases position.padTo a'.type.alignment with
    | error f => rfl
    | ok offsets =>
      dsimp only
      rw [hlengths]
      cases offsets.add a'.type.lengths with
      | error f => rfl
      | ok next => exact ih next (congrArg (List.cons offsets) hplaced)

theorem SameWire.fields (h : c.SameWire c') :
    List.Forall₂ (fun a a' => a.type.outline = a'.type.outline) c.fields c'.fields :=
  List.forall₂_map_left_iff.1 (List.forall₂_map_right_iff.1 h.fieldTypes)

theorem SameWire.placeFields_eq (h : c.SameWire c') (start : LengthSet) :
    (c.placeFields start).map offsetsOf = (c'.placeFields start).map offsetsOf := by
  rw [placeFields, placeFields, h.tag_eq]
  cases c'.tag? with
  | none => exact placeInRow_congr h.fields start rfl
  | some tag =>
    dsimp only
    cases start.shift tag.bits with
    | error f => rfl
    | ok offsets =>
      have hone : ∀ fields : List Attribute,
          offsetsOf (fields.map fun a => ⟨a, offsets⟩) = List.replicate fields.length offsets :=
        fun fields => List.map_map.trans (List.map_const' ..)
      refine congrArg Except.ok ?_
      rw [hone, hone, h.fields.length_eq]

theorem SameWire.startPositions_eq (h : c.SameWire c') (base? : Option LengthSet) :
    c.startPositions base? = c'.startPositions base? := by
  simp only [startPositions, ensureSerializable, h.kind_eq, h.alignment_eq, h.aggregate_eq]

/-- **The fields have the same offsets**, from every base, or no offsets for the same reason. -/
theorem SameWire.offsets_eq (h : c.SameWire c') (base? : Option LengthSet) :
    c.offsets base? = c'.offsets base? := by
  have hfault : ∀ x : Except Fault (List Placement),
      (x.mapError Failure.fault).map offsetsOf = (x.map offsetsOf).mapError .fault := fun x => by
    cases x <;> rfl
  rw [offsets, offsets, placements, placements, h.startPositions_eq]
  cases c'.startPositions base? with
  | error e => rfl
  | ok start => exact (hfault _).trans (h.placeFields_eq start ▸ (hfault _).symm)

theorem SameProperties.offsets_eq (h : c.SameProperties c') (base? : Option LengthSet) :
    c.offsets base? = c'.offsets base? := h.sameWire.offsets_eq base?

end Composite

/-! ## Two runs -/

theorem Shape.layout_sameOutcome {shape shape' : Shape} {types types' : List DataType}
    (hkind : shape.kind = shape'.kind) (h : SameOutlines types types') :
    SameOutcome Cause.kind Layout.SameSort (shape.layout types) (shape'.layout types') := by
  cases shape with
  | struct =>
    cases shape' with
    | struct => exact .ok .struct
    | union | service => exact absurd hkind nofun
  | service =>
    cases shape' with
    | service => exact .ok .service
    | struct | union => exact absurd hkind nofun
  | union =>
    cases shape' with
    | struct | service => exact absurd hkind nofun
    | union =>
      rw [Shape.layout, Shape.layout, Composite.tagBits_congr (Composite.map_alignment_congr h)]
      refine (SameOutcome.refl (R := Eq) (fun _ => rfl) _).bind fun bits _ hbits => ?_
      obtain rfl := hbits
      split
      · exact .ok (.union _)
      · exact .error rfl

/-- **Two runs on attributes with the same outlines** come to composites with the same properties,
or stop at errors of the same kind. -/
theorem Composite.build_sameOutcome (identity identity' : Identity) {shape shape' : Shape}
    (hkind : shape.kind = shape'.kind) (bounded : Bool) (d : Declaration)
    (h : List.Forall₂ Attribute.SameOutline attributes attributes') :
    SameOutcome Cause.kind SameProperties
      (build identity shape bounded (d.withAttributes attributes))
      (build identity' shape' bounded (d.withAttributes attributes')) := by
  refine SameOutcome.bind (R := Eq) ?_ fun _ _ _ => ?_
  · refine sameOutcome_refuse ?_
    rw [← hkind]
    exact map_kind_headingDefect? h d _ _ _
  refine SameOutcome.bind (R := Eq) ?_ fun f _ hf => ?_
  · rw [← hkind]
    exact ofAttributes_congr h _ _ _ _ ▸ .refl (fun _ => rfl) _
  obtain rfl := hf
  refine (Shape.layout_sameOutcome hkind (sameOutlines_fieldTypes h)).bind fun _ _ hlayout => ?_
  refine (SameOutcome.refl (R := Eq) (fun _ => rfl) _).bind fun _ _ _ => ?_
  exact .ok ⟨hlayout, h, rfl, rfl, rfl, rfl, rfl, rfl⟩

end WireSchema
