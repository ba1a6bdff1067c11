import Mathlib.Data.List.TakeWhile
import Mathlib.Tactic.SplitIfs
import WireSchema.Name.Dotted

/-!
# Proofs/Name/Joined — names as components with dots between them

Taking a name apart and joining its components again are inverse to each other: nothing of a name is
lost (`intercalate_components`), and components without dots are found again
(`components_intercalate`).

A name with a dot is cut once by its last one, and it is the name before the dot with one more
component, the short name (`child_shortName`).  What the other ways to look at a name come to follows
from its components.
-/

namespace WireSchema
namespace Name

variable {name component : String} {cs ds : List Char}

/-! ## Pieces -/

theorem splitList_eq_splitOn (cs : List Char) : splitList cs = cs.splitOn separator := by
  induction cs with
  | nil => rfl
  | cons c cs ih =>
    obtain ⟨piece, rest, hpiece⟩ := List.exists_cons_of_ne_nil (List.splitOn_ne_nil separator cs)
    rw [List.splitOn_cons_eq_if_modifyHead, hpiece]
    rw [hpiece, splitList] at ih
    rw [splitList, List.foldr_cons, ih]
    by_cases hc : c = separator
    · rw [if_pos hc, if_pos (beq_iff_eq.2 hc)]
    · rw [if_neg hc, if_neg (mt beq_iff_eq.1 hc)]
      rfl

theorem components_eq_splitOn (name : String) :
    components name = (name.toList.splitOn separator).map String.ofList := by
  rw [components, splitList_eq_splitOn]

theorem components_ne_nil (name : String) : components name ≠ [] := by
  rw [components_eq_splitOn]
  exact mt List.map_eq_nil_iff.1 (List.splitOn_ne_nil _ _)

theorem map_toList_components (name : String) :
    (components name).map String.toList = name.toList.splitOn separator := by
  rw [components_eq_splitOn, List.map_map]
  exact List.map_id'' (fun _ => String.toList_ofList) _

/-- **Nothing of a name is lost** in its components. -/
theorem intercalate_components (name : String) :
    separator.toString.intercalate (components name) = name := by
  refine String.toList_inj.1 ?_
  rw [String.toList_intercalate, map_toList_components]
  exact List.intercalate_splitOn separator

/-- **Components without dots** are those of the name they are joined to. -/
theorem components_intercalate {words : List String}
    (hwords : ∀ word ∈ words, separator ∉ word.toList) (hne : words ≠ []) :
    components (separator.toString.intercalate words) = words := by
  have hpieces : ∀ piece ∈ words.map String.toList, separator ∉ piece :=
    List.forall_mem_map.2 hwords
  rw [components_eq_splitOn, String.toList_intercalate]
  change (([separator].intercalate (words.map String.toList)).splitOn separator).map _ = _
  rw [List.splitOn_intercalate separator hpieces (mt List.map_eq_nil_iff.1 hne), List.map_map]
  exact List.map_id'' (fun _ => String.ofList_toList) _

/-! ## One more component -/

theorem toList_child (name component : String) :
    (child name component).toList = name.toList ++ separator :: component.toList := by
  rw [child, String.toList_append, String.toList_append, List.append_assoc]
  rfl

/-- **The components of a name with one more** are those of the name, and the new one. -/
theorem components_child (h : separator ∉ component.toList) :
    components (child name component) = components name ++ [component] := by
  rw [components_eq_splitOn, toList_child, List.splitOn_append_cons_self, List.map_append,
    List.splitOn_eq_singleton h, ← components_eq_splitOn, List.map_singleton, String.ofList_toList]

/-- Names with the same components are the same. -/
theorem eq_of_components_eq {name' : String} (h : components name = components name') :
    name = name' := by
  rw [← intercalate_components name, h, intercalate_components]

/-- **A name and its new component** are told apart by the last dot. -/
theorem child_inj {name' component' : String} (h : separator ∉ component.toList)
    (h' : separator ∉ component'.toList) :
    child name component = child name' component' ↔ name = name' ∧ component = component' := by
  refine ⟨fun heq => ?_, fun ⟨hname, hcomponent⟩ => hname ▸ hcomponent ▸ rfl⟩
  have hboth := congrArg components heq
  rw [components_child h, components_child h'] at hboth
  obtain ⟨hname, hcomponent⟩ := List.append_inj' hboth rfl
  exact ⟨eq_of_components_eq hname, List.singleton_inj.1 hcomponent⟩

/-! ## Cuts -/

theorem not_mem_takeWhile_isInside (cs : List Char) : separator ∉ cs.takeWhile isInside :=
  fun hmem => absurd (List.mem_takeWhile_imp hmem) (by decide)

/-- A list with a separator is cut by the first one. -/
theorem takeWhile_append_separator (h : separator ∈ cs) :
    cs.takeWhile isInside ++ separator :: (cs.dropWhile isInside).drop 1 = cs := by
  have hcut := List.takeWhile_append_dropWhile (p := isInside) (l := cs)
  have hstart := List.head?_dropWhile_not isInside cs
  cases hrest : cs.dropWhile isInside with
  | nil =>
    rw [hrest, List.append_nil] at hcut
    exact absurd (hcut.symm ▸ h) (not_mem_takeWhile_isInside cs)
  | cons c rest =>
    rw [hrest] at hcut hstart
    have hc : c = separator := by simpa [isInside] using hstart
    rw [← hc]
    exact hcut

/-- **The short name has no dot.** -/
theorem not_mem_shortName (name : String) : separator ∉ (shortName name).toList := by
  rw [shortName, String.toList_ofList, List.mem_reverse]
  exact not_mem_takeWhile_isInside _

/-- **A name with a dot** is its full namespace with the short name as one more component. -/
theorem child_shortName (h : separator ∈ name.toList) :
    child (fullNamespace name) (shortName name) = name := by
  have hcut := takeWhile_append_separator (List.mem_reverse.2 h)
  refine String.toList_inj.1 ?_
  rw [toList_child, fullNamespace, shortName, String.toList_ofList, String.toList_ofList,
    ← List.reverse_inj, List.reverse_append, List.reverse_cons, List.reverse_reverse,
    List.reverse_reverse, List.append_assoc]
  exact hcut

theorem fullNamespace_child (h : separator ∉ component.toList) :
    fullNamespace (child name component) = name := by
  have hdot : separator ∈ (child name component).toList := by
    rw [toList_child]
    exact List.mem_append_right _ List.mem_cons_self
  exact ((child_inj (not_mem_shortName _) h).1 (child_shortName hdot)).1

/-- **The components of a name with a dot** are those of its full namespace, and the short name. -/
theorem components_eq_append (h : separator ∈ name.toList) :
    components name = components (fullNamespace name) ++ [shortName name] := by
  rw [← components_child (not_mem_shortName name), child_shortName h]

/-- **The short name is the last component.** -/
theorem getLast?_components (h : separator ∈ name.toList) :
    (components name).getLast? = some (shortName name) := by
  rw [components_eq_append h, List.getLast?_append, List.getLast?_singleton, Option.some_or]

/-- **The root namespace is the first component.** -/
theorem head?_components (name : String) : (components name).head? = some (rootNamespace name) := by
  rw [components_eq_splitOn, List.head?_map, rootNamespace]
  by_cases h : separator ∈ name.toList
  · have hsplit := List.splitOn_append_cons_self_of_not_mem
      (not_mem_takeWhile_isInside name.toList) ((name.toList.dropWhile isInside).drop 1)
    rw [takeWhile_append_separator h] at hsplit
    rw [hsplit]
    rfl
  · have hall : name.toList.takeWhile isInside = name.toList :=
      List.takeWhile_eq_self_iff.2 fun c hc => bne_iff_ne.2 fun heq => h (heq ▸ hc)
    rw [List.splitOn_eq_singleton h, hall]
    rfl

/-- A name with a dot and its full namespace have the same root. -/
theorem rootNamespace_fullNamespace (h : separator ∈ name.toList) :
    rootNamespace (fullNamespace name) = rootNamespace name := by
  refine Option.some.inj ?_
  rw [← head?_components, ← head?_components name, components_eq_append h, List.head?_append,
    head?_components, Option.some_or]

/-- A name has at least two components exactly if it has a dot. -/
theorem two_le_length_components_iff :
    2 ≤ (components name).length ↔ separator ∈ name.toList := by
  by_cases h : separator ∈ name.toList
  · have hpos := List.length_pos_iff.2 (components_ne_nil (fullNamespace name))
    refine iff_of_true ?_ h
    rw [components_eq_append h, List.length_append, List.length_singleton]
    omega
  · refine iff_of_false ?_ h
    rw [components_eq_splitOn, List.splitOn_eq_singleton h]
    exact Nat.not_succ_le_self 1

end Name
end WireSchema
