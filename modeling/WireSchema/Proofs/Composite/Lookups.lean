import WireSchema.Composite.Lookup
import WireSchema.Proofs.Composite.Extents

/-!
# Proofs/Composite/Lookups — what is found under a name

Attributes are found by their names in three ways: an **index**, filled when the heading is checked,
leads from names to places (`indexOf`); the list is searched for the name (`Composite.lookup`); and
an expression searches the constants alone (`Composite.constantValue?`).  For every composite that
can be made all three agree (`DataType.Buildable.found_under_name`).

Filling the index keeps the invariant `Indexes`: a name leads to a place exactly if the attribute
there has that name.  So no two places share a name, and the first attribute that a search finds is
the only one there is.
-/

namespace WireSchema

/-! ## The index -/

/-- **The attribute has the name.**  Padding has none. -/
def Attribute.HasName (a : Attribute) (name : String) : Prop :=
  a.isPadding = false ∧ a.name = name

/-- **The index leads to the attributes**: from a name to every place where an attribute has it,
and nowhere else. -/
def Indexes (index : Std.HashMap String Nat) (attributes : List Attribute) : Prop :=
  ∀ (name : String) (place : Nat),
    index[name]? = some place ↔ ∃ a, attributes[place]? = some a ∧ a.HasName name

variable {index index' : Std.HashMap String Nat} {attributes : List Attribute} {a b : Attribute}

theorem indexes_empty : Indexes ∅ [] := by
  intro name place
  rw [Std.HashMap.getElem?_empty]
  simp

theorem getElem?_concat_eq_some {place : Nat} : (attributes ++ [a])[place]? = some b ↔
    attributes[place]? = some b ∨ place = attributes.length ∧ a = b := by
  rw [List.getElem?_append]
  split_ifs with h
  · exact (or_iff_left fun hlast => h.ne hlast.1).symm
  · rw [List.getElem?_eq_none (Nat.not_lt.1 h), List.getElem?_singleton]
    simp
    omega

/-- Padding is left out. -/
theorem Indexes.concat_padding (h : Indexes index attributes) (ha : a.isPadding = true) :
    Indexes index (attributes ++ [a]) := by
  intro name place
  rw [h name place]
  refine exists_congr fun b => and_congr_left fun hb => ?_
  rw [getElem?_concat_eq_some, or_iff_left]
  rintro ⟨-, rfl⟩
  exact absurd (ha.symm.trans hb.1) (by decide)

/-- **One more name** leads to the place behind all others. -/
theorem Indexes.concat (h : Indexes index attributes) (ha : a.isPadding = false)
    (hnew : a.name ∉ index) :
    Indexes (index.insert a.name attributes.length) (attributes ++ [a]) := by
  intro name place
  have hlast : (∃ b, (place = attributes.length ∧ a = b) ∧ b.HasName name) ↔
      attributes.length = place ∧ a.name = name := by
    constructor
    · rintro ⟨_, ⟨hplace, rfl⟩, hname⟩
      exact ⟨hplace.symm, hname.2⟩
    · rintro ⟨hplace, hname⟩
      exact ⟨a, ⟨hplace.symm, rfl⟩, ha, hname⟩
  simp only [getElem?_concat_eq_some, or_and_right, exists_or]
  rw [← h name place, hlast, Std.HashMap.getElem?_insert]
  by_cases hname : a.name = name
  · subst hname
    rw [if_pos (beq_self_eq_true a.name), Std.HashMap.getElem?_eq_none hnew]
    simp
  · rw [if_neg (mt beq_iff_eq.1 hname)]
    exact (or_iff_left fun hlast => hname hlast.2).symm

/-- **A filled index leads to all attributes.** -/
theorem Indexes.of_fillIndex : ∀ {rest attributes : List Attribute}
    {index : Std.HashMap String Nat}, Indexes index attributes →
      fillIndex index attributes.length rest = .ok index' → Indexes index' (attributes ++ rest)
  | [], attributes, index, h, hfill => by
      obtain rfl := Except.ok.inj hfill
      rwa [List.append_nil]
  | a :: rest, attributes, index, h, hfill => by
      have hlength : attributes.length + 1 = (attributes ++ [a]).length := by
        rw [List.length_append, List.length_singleton]
      rw [fillIndex, hlength] at hfill
      rw [List.append_cons]
      split_ifs at hfill with ha hold
      · exact of_fillIndex (h.concat_padding ha) hfill
      · exact of_fillIndex (h.concat (Bool.eq_false_iff.2 ha) hold) hfill

/-- Filling an index stops where a name is repeated of those that were seen. -/
theorem map_fillIndex : ∀ {attributes : List Attribute} {seen : Std.TreeSet String}
    {index : Std.HashMap String Nat} {place : Nat}, (∀ name, name ∈ index ↔ name ∈ seen) →
      (fillIndex index place attributes).map (fun _ => ()) =
        refuse ((firstRepeatAfter seen (attributeNames attributes)).map .repeatedAttribute)
  | [], _, _, _, _ => rfl
  | a :: rest, seen, index, place, h => by
      have hstep : ∀ word, word ∈ index.insert a.name place ↔ word ∈ seen.insert a.name := by
        intro word
        rw [Std.HashMap.mem_insert, mem_insert_seen, h, beq_iff_eq, eq_comm]
      rw [fillIndex, attributeNames]
      by_cases ha : a.isPadding = true
      · rw [if_pos ha, List.filter_cons_of_neg (by rw [ha]; decide)]
        exact map_fillIndex h
      · rw [if_neg ha, List.filter_cons_of_pos (by rw [Bool.eq_false_iff.2 ha]; rfl),
          List.map_cons, firstRepeatAfter]
        by_cases hold : a.name ∈ index
        · rw [if_pos hold, if_pos (c := seen.contains a.name = true) ((h a.name).1 hold)]
          rfl
        · rw [if_neg hold, if_neg (c := seen.contains a.name = true) (mt (h a.name).2 hold)]
          exact map_fillIndex hstep

/-- **The index is filled exactly if no name is repeated**, and otherwise the first repetition is
the defect. -/
theorem map_indexOf (attributes : List Attribute) : (indexOf attributes).map (fun _ => ()) =
    refuse ((firstRepeat? (attributeNames attributes)).map .repeatedAttribute) :=
  map_fillIndex fun _ => iff_of_false Std.HashMap.not_mem_empty Std.TreeSet.not_mem_emptyc

/-- **Every composite has an index**, which leads to all of its attributes. -/
theorem Composite.MadeFrom.exists_index {shape : Shape} {bounded : Bool} {d : Declaration}
    {c : Composite} (h : MadeFrom shape bounded d c) :
    ∃ index, indexOf c.attributes = .ok index ∧ Indexes index c.attributes := by
  have hheading : refuse (d.headingDefect? (Text.trim d.name) shape.kind bounded) = .ok () :=
    refuse_eq_ok_iff.2 (h.name_eq ▸ h.heading)
  have hnodup : (attributeNames d.attributes).Nodup :=
    (d.heading_checks shape.kind bounded).holds () hheading .distinct (by simp)
  have hrun := map_indexOf d.attributes
  rw [firstRepeat?_eq_none_iff.2 hnodup] at hrun
  rw [h.attributes_eq]
  cases hindex : indexOf d.attributes with
  | error cause =>
    rw [hindex] at hrun
    exact absurd hrun nofun
  | ok index => exact ⟨index, rfl, indexes_empty.of_fillIndex hindex⟩

/-! ## Lookups -/

namespace Composite

variable {c : Composite} {name : String}

/-- The field or constant of the name is needed. -/
theorem lookup_eq_require (c : Composite) (name : String) :
    c.lookup name = require (.ofCause (.unknownAttribute name))
      (c.attributes.find? fun a => !a.isPadding && a.name == name) := by
  rw [lookup]
  cases c.attributes.find? fun a => !a.isPadding && a.name == name <;> rfl

theorem of_lookup (h : c.lookup name = .ok a) : a ∈ c.attributes ∧ a.HasName name := by
  rw [lookup_eq_require, require_eq_ok_iff] at h
  have hname := List.find?_some h
  rw [Bool.and_eq_true, Bool.not_eq_true', beq_iff_eq] at hname
  exact ⟨List.mem_of_find?_eq_some h, hname⟩

/-- **Nothing is found** exactly if no attribute has the name. -/
theorem lookup_eq_error_iff {e : Error} : c.lookup name = .error e ↔
    e = .ofCause (.unknownAttribute name) ∧ ∀ a ∈ c.attributes, ¬ a.HasName name := by
  rw [lookup_eq_require, require_eq_error_iff, List.find?_eq_none, and_comm, eq_comm]
  simp [Attribute.HasName]

theorem mem_constants : a ∈ c.constants ↔ a ∈ c.attributes ∧ a.isSerialized = false := by
  rw [constants, List.mem_filter, Bool.not_eq_true']

end Composite

namespace Indexes

variable {c : Composite}

/-- **With an index** exactly the attributes of the name are found. -/
theorem lookupIn_eq_ok_iff (h : Indexes index c.attributes) {name : String} :
    c.lookupIn index name = .ok a ↔ a ∈ c.attributes ∧ a.HasName name := by
  rw [Composite.lookupIn, require_eq_ok_iff, Option.bind_eq_some_iff, List.mem_iff_getElem?]
  constructor
  · rintro ⟨place, hplace, ha⟩
    obtain ⟨b, hb, hname⟩ := (h name place).1 hplace
    obtain rfl := Option.some.inj (ha.symm.trans hb)
    exact ⟨⟨place, ha⟩, hname⟩
  · rintro ⟨⟨place, ha⟩, hname⟩
    exact ⟨place, (h name place).2 ⟨a, ha, hname⟩, ha⟩

/-- **Without an index** the same is found: the first attribute of the name is the only one. -/
theorem lookup_eq_lookupIn (h : Indexes index c.attributes) (name : String) :
    c.lookup name = c.lookupIn index name := by
  cases hlookup : c.lookup name with
  | ok a => exact (h.lookupIn_eq_ok_iff.2 (Composite.of_lookup hlookup)).symm
  | error e =>
    obtain ⟨rfl, hnone⟩ := Composite.lookup_eq_error_iff.1 hlookup
    cases hindexed : c.lookupIn index name with
    | ok a =>
      obtain ⟨ha, hname⟩ := h.lookupIn_eq_ok_iff.1 hindexed
      exact absurd hname (hnone a ha)
    | error e => exact congrArg _ (require_eq_error_iff.1 hindexed).2

/-! ## Expressions -/

/-- **The search of the constants** finds the value of what is found under the name. -/
theorem constantValue?_eq (h : Indexes index c.attributes) (name : String) :
    c.constantValue? name = (c.lookup name).toOption.bind (·.value?) := by
  have hfound : ∀ {b}, c.constants.find? (·.name == name) = some b → c.lookup name = .ok b := by
    intro b hfind
    obtain ⟨hb, hconstant⟩ := Composite.mem_constants.1 (List.mem_of_find?_eq_some hfind)
    have hname := List.find?_some hfind
    rw [h.lookup_eq_lookupIn, h.lookupIn_eq_ok_iff]
    exact ⟨hb, Attribute.isPadding_of_constant hconstant, eq_of_beq hname⟩
  refine Option.ext fun v => ?_
  rw [Composite.constantValue?, Option.bind_eq_some_iff, toOption_bind_eq_some_iff]
  refine exists_congr fun a => and_congr_left fun hvalue => ⟨hfound, fun hlookup => ?_⟩
  obtain ⟨ha, hname⟩ := Composite.of_lookup hlookup
  have hconstant := Composite.mem_constants.2 ⟨ha, Attribute.isSerialized_of_value? hvalue⟩
  cases hfind : c.constants.find? (·.name == name) with
  | none => exact absurd (beq_iff_eq.2 hname.2) (List.find?_eq_none.1 hfind a hconstant)
  | some b => rw [Except.ok.inj ((hfound hfind).symm.trans hlookup)]

/-- **What a name stands for**, by what is found under it. -/
theorem expressionValue_eq {m : Type → Type} [Monad m] (h : Indexes index c.attributes)
    (name : String) (fallback : String → m Value) :
    c.expressionValue name fallback =
      match (c.lookup name).toOption.bind (·.value?) with
      | some value => pure value
      | none => if name = Composite.extentName then pure (.ofNat c.extent) else fallback name := by
  rw [← h.constantValue?_eq]
  rfl

end Indexes

/-- The value of a word is that word. -/
theorem Value.asWord_ofNat {n : Nat} (h : n < lengthLimit) :
    (Value.ofNat n).asWord = .ok (some n) := by
  have hlimit : (lengthLimit : Int) < int128Limit := by decide
  have hint : (Int128.ofInt n).toInt = n :=
    Int128.toInt_ofInt (by unfold int128Limit; omega) (by omega)
  have hword : 0 ≤ (Int128.ofInt n).toInt ∧ (Int128.ofInt n).toInt < lengthLimit := by
    rw [hint]
    exact ⟨Int.natCast_nonneg n, Int.ofNat_lt.2 h⟩
  rw [ofNat, asWord, asInteger, Except.map, Option.bind_some, if_pos hword, hint,
    Int.toNat_natCast]

namespace DataType

/-- **An extent is a word**: with what is in front of it, it is the longest length of a value. -/
theorem Buildable.extent_lt {c : Composite} (h : (DataType.composite c).Buildable) :
    c.extent < lengthLimit := by
  obtain ⟨shape, bounded, d, hmade, hwf⟩ := h.exists_madeFrom
  rcases Bool.eq_false_or_eq_true c.isFinal with hfinal | hfinal
  · exact LengthSet.lt_of_mem (LengthSet.mem_of_max? (hmade.max?_lengths_of_final hfinal))
  · have hmax := LengthSet.mem_of_max? (hmade.max?_lengths_of_delimited hwf hfinal)
    exact (Nat.le_add_left _ _).trans_lt (LengthSet.lt_of_mem hmax)

/-! ## All composites -/

/-- **What is found under a name in a composite.**  Looking the name up gives the attribute that has
it, of which there is one at most; without one the name is not known.  The index that was filled for
the composite leads to the same.  In an expression the name stands for the value of what is found,
if that is a constant; then for the extent, if it is the name of that; and in all other cases for
what the fallback makes of it, which is not used before. -/
theorem Buildable.found_under_name {c : Composite} (h : (DataType.composite c).Buildable)
    (name : String) :
    (∀ a, c.lookup name = .ok a ↔ a ∈ c.attributes ∧ a.HasName name) ∧
      (∀ e, c.lookup name = .error e ↔
        e = .ofCause (.unknownAttribute name) ∧ ∀ a ∈ c.attributes, ¬ a.HasName name) ∧
      (∀ (i j : Nat) (a b : Attribute), c.attributes[i]? = some a → a.HasName name →
        c.attributes[j]? = some b → b.HasName name → i = j) ∧
      (∃ index, indexOf c.attributes = .ok index ∧ c.lookupIn index name = c.lookup name) ∧
      (∀ {m : Type → Type} [Monad m] (fallback : String → m Value),
        c.expressionValue name fallback =
          match (c.lookup name).toOption.bind (·.value?) with
          | some value => pure value
          | none =>
            if name = Composite.extentName then pure (.ofNat c.extent) else fallback name) ∧
      (Value.ofNat c.extent).asWord = .ok (some c.extent) := by
  obtain ⟨shape, bounded, d, hmade, -⟩ := h.exists_madeFrom
  obtain ⟨index, hindex, hleads⟩ := hmade.exists_index
  refine ⟨fun a => ?_, fun e => Composite.lookup_eq_error_iff, ?_,
    ⟨index, hindex, (hleads.lookup_eq_lookupIn name).symm⟩,
    fun fallback => hleads.expressionValue_eq name fallback, Value.asWord_ofNat h.extent_lt⟩
  · rw [hleads.lookup_eq_lookupIn, hleads.lookupIn_eq_ok_iff]
  · intro i j a b ha hname hb hname'
    have hi := (hleads name i).2 ⟨a, ha, hname⟩
    have hj := (hleads name j).2 ⟨b, hb, hname'⟩
    exact Option.some.inj (hi.symm.trans hj)

end DataType

/-- A final structure of padding, of the attribute, and of a constant with the empty name. -/
def Declaration.naming (a : Attribute) : Declaration :=
  { flagged with
    name := "sample.Naming"
    attributes := [.padding ⟨4, by decide⟩, a, .constant "" .octet (.ofNat 7)] }

-- a field of the name of the extent does not hide it, and a constant of that name does
theorem DataType.Buildable.found_under_name_naming : ∃ c c',
    Composite.ofStructure 0 (.naming (.field "_extent_" .octet)) = .ok c ∧
    c.lookup "_extent_" = .ok (.field "_extent_" .octet) ∧
    c.expressionValue "_extent_" (fun _ => none) = some (.ofNat c.extent) ∧
    (Value.ofNat c.extent).asWord = .ok (some c.extent) ∧
    Composite.ofStructure 1 (.naming (.constant "_extent_" .octet (.ofNat 5))) = .ok c' ∧
    c'.expressionValue "_extent_" (fun _ => none) = some (.ofNat 5) ∧
    c'.expressionValue "" (fun _ => none) = some (.ofNat 7) ∧
    c'.expressionValue "other" (fun name => some (.string name)) = some (.string "other") := by
  have hrun : (Composite.ofStructure 0 (.naming (.field "_extent_" .octet))).toOption.map
      (·.isFinal) = some true := by decide +kernel
  have hrun' : (Composite.ofStructure 1
      (.naming (.constant "_extent_" .octet (.ofNat 5)))).toOption.map (·.isFinal) = some true := by
    decide +kernel
  obtain ⟨c, hc, -⟩ := toOption_map_eq_some_iff.1 hrun
  obtain ⟨c', hc', -⟩ := toOption_map_eq_some_iff.1 hrun'
  have hattributes := (Composite.madeFrom_of_build
    (Composite.ofStructure_eq_ok_iff.1 hc)).attributes_eq
  have hattributes' := (Composite.madeFrom_of_build
    (Composite.ofStructure_eq_ok_iff.1 hc')).attributes_eq
  have hbuildable : ∀ a : Attribute, a.type.isPrimitive = true →
      ∀ b ∈ (Declaration.naming a).attributes, b.type.Buildable := fun a ha =>
    List.forall_mem_cons.2 ⟨.primitive rfl, List.forall_mem_cons.2
      ⟨.primitive ha, List.forall_mem_singleton.2 (.primitive rfl)⟩⟩
  obtain ⟨hfound, -, -, -, hvalue, hword⟩ :=
    found_under_name (.struct (hbuildable _ rfl) hc) "_extent_"
  have hsecond := fun name => found_under_name (.struct (hbuildable _ rfl) hc') name
  have hfield : c.lookup "_extent_" = .ok (.field "_extent_" .octet) :=
    (hfound _).2 ⟨by rw [hattributes]; simp [Declaration.naming], rfl, rfl⟩
  refine ⟨c, c', hc, hfield, ?_, hword, hc', ?_, ?_, ?_⟩
  · rw [hvalue, hfield]
    exact if_pos rfl
  · rw [(hsecond "_extent_").2.2.2.2.1, ((hsecond "_extent_").1 _).2
      ⟨by rw [hattributes']; exact .tail _ (.head _), rfl, rfl⟩]
    rfl
  · rw [(hsecond "").2.2.2.2.1, ((hsecond "").1 _).2
      ⟨by rw [hattributes']; exact .tail _ (.tail _ (.head _)), rfl, rfl⟩]
    rfl
  · have hnone : ∀ a ∈ c'.attributes, ¬ a.HasName "other" := by
      rw [hattributes']
      simp [Declaration.naming, Attribute.HasName, Attribute.name, Attribute.isPadding]
    rw [(hsecond "other").2.2.2.2.1, ((hsecond "other").2.1 _).2 ⟨rfl, hnone⟩]
    exact if_neg (by decide)

end WireSchema
