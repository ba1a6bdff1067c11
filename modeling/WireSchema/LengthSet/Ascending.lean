/-!
# LengthSet/Ascending — finite sets of naturals as ascending lists

A finite set of naturals is kept as the list of its members in strictly ascending order.  This file
has the set operations on such lists, in unbounded arithmetic: union (`union`, `unionMap`), the
pointwise sum (`sums`), and the removal of repetitions (`collapse`).  For each there are two facts:
who the members of the result are (`mem_union`, `mem_unionMap`, `mem_sums`, `mem_collapse`), and
that the result ascends again (`ascending_union`, …).

`unionMap` unites many sets at a time.  It keeps a binary counter of partial unions, so that each
element takes part in logarithmically many of them.
-/

namespace WireSchema.Ascending

/-! ## The union of two lists -/

/-- Unites two ascending lists behind the members found so far, which `acc` holds backwards. -/
def unionOnto : List Nat → List Nat → List Nat → List Nat
  | acc, [], ys => acc.reverseAux ys
  | acc, x :: xs, ys =>
    unionOnto (x :: (ys.takeWhile (· < x)).reverseAux acc) xs (ys.dropWhile (· ≤ x))

/-- **The union** of two ascending lists. -/
def union (xs ys : List Nat) : List Nat := unionOnto [] xs ys

private theorem mem_iff_of_ascending {x : Nat} {ys : List Nat} (hys : ys.Pairwise (· < ·))
    (z : Nat) : (z = x ∨ z ∈ ys) ↔ z ∈ ys.takeWhile (· < x) ∨ z = x ∨ z ∈ ys.dropWhile (· ≤ x) := by
  induction ys with
  | nil => simp
  | cons y ys ih =>
    have hy := List.pairwise_cons.1 hys
    rcases Nat.lt_trichotomy y x with h | h | h
    · have hle : y ≤ x := Nat.le_of_lt h
      have := ih hy.2
      simp only [List.takeWhile_cons, List.dropWhile_cons, h, hle, decide_true, if_true,
        List.mem_cons]
      grind
    · subst h
      have hrest : ys.dropWhile (· ≤ y) = ys := by
        cases ys with
        | nil => rfl
        | cons w ws =>
          have hw : y < w := hy.1 w List.mem_cons_self
          rw [List.dropWhile_cons_of_neg]
          simpa using hw
      simp [hrest]
    · have hnot : ¬ y < x := Nat.not_lt.2 (Nat.le_of_lt h)
      have hnle : ¬ y ≤ x := Nat.not_le.2 h
      simp [hnot, hnle]

private theorem mem_unionOnto (xs : List Nat) : ∀ {acc ys : List Nat} {z : Nat},
    ys.Pairwise (· < ·) → (z ∈ unionOnto acc xs ys ↔ z ∈ acc ∨ z ∈ xs ∨ z ∈ ys) := by
  induction xs with
  | nil =>
    intro acc ys z _
    simp [unionOnto, List.reverseAux_eq]
  | cons x xs ih =>
    intro acc ys z hys
    have hdrop := hys.sublist (List.dropWhile_sublist (· ≤ x))
    have hsplit := mem_iff_of_ascending (x := x) hys z
    simp only [unionOnto, ih hdrop, List.mem_cons, List.reverseAux_eq, List.mem_append,
      List.mem_reverse]
    grind

private theorem lt_of_mem_takeWhile {x z : Nat} {ys : List Nat} (h : z ∈ ys.takeWhile (· < x)) :
    z < x := by
  induction ys with
  | nil => simp at h
  | cons y ys ih =>
    rw [List.takeWhile_cons] at h
    split at h
    · next hy =>
      rcases List.mem_cons.1 h with rfl | h
      · simpa using hy
      · exact ih h
    · simp at h

private theorem lt_of_mem_dropWhile {x z : Nat} {ys : List Nat} (hys : ys.Pairwise (· < ·))
    (h : z ∈ ys.dropWhile (· ≤ x)) : x < z := by
  induction ys with
  | nil => simp at h
  | cons y ys ih =>
    have hy := List.pairwise_cons.1 hys
    rw [List.dropWhile_cons] at h
    split at h
    · exact ih hy.2 h
    · next hyx =>
      have hlt : x < y := by simpa using hyx
      rcases List.mem_cons.1 h with rfl | h
      · exact hlt
      · exact Nat.lt_trans hlt (hy.1 z h)

private theorem ascending_unionOnto (xs : List Nat) : ∀ {acc ys : List Nat},
    acc.Pairwise (· > ·) → xs.Pairwise (· < ·) → ys.Pairwise (· < ·) →
    (∀ a ∈ acc, ∀ x ∈ xs, a < x) → (∀ a ∈ acc, ∀ y ∈ ys, a < y) →
    (unionOnto acc xs ys).Pairwise (· < ·) := by
  induction xs with
  | nil =>
    intro acc ys hacc _ hys _ hay
    rw [unionOnto, List.reverseAux_eq, List.pairwise_append, List.pairwise_reverse]
    exact ⟨hacc, hys, fun a ha y hy => hay a (List.mem_reverse.1 ha) y hy⟩
  | cons x xs ih =>
    intro acc ys hacc hxs hys hax hay
    have hx := List.pairwise_cons.1 hxs
    have htake : ∀ z ∈ ys.takeWhile (· < x), z ∈ ys := fun z hz =>
      (List.takeWhile_sublist _).subset hz
    have hdrop : ∀ z ∈ ys.dropWhile (· ≤ x), z ∈ ys := fun z hz =>
      (List.dropWhile_sublist _).subset hz
    rw [unionOnto]
    refine ih ?_ hx.2 (hys.sublist (List.dropWhile_sublist _)) ?_ ?_
    · rw [List.pairwise_cons, List.reverseAux_eq, List.pairwise_append, List.pairwise_reverse]
      refine ⟨?_, hys.sublist (List.takeWhile_sublist _), hacc, ?_⟩
      · intro z hz
        rcases List.mem_append.1 hz with hz | hz
        · exact lt_of_mem_takeWhile (List.mem_reverse.1 hz)
        · exact hax z hz x List.mem_cons_self
      · intro z hz a ha
        exact hay a ha z (htake z (List.mem_reverse.1 hz))
    · intro a ha w hw
      rcases List.mem_cons.1 ha with rfl | ha
      · exact hx.1 w hw
      rw [List.reverseAux_eq, List.mem_append, List.mem_reverse] at ha
      rcases ha with ha | ha
      · exact Nat.lt_trans (lt_of_mem_takeWhile ha) (hx.1 w hw)
      · exact hax a ha w (List.mem_cons_of_mem _ hw)
    · intro a ha w hw
      have hxw := lt_of_mem_dropWhile hys hw
      rcases List.mem_cons.1 ha with rfl | ha
      · exact hxw
      rw [List.reverseAux_eq, List.mem_append, List.mem_reverse] at ha
      rcases ha with ha | ha
      · exact Nat.lt_trans (lt_of_mem_takeWhile ha) hxw
      · exact hay a ha w (hdrop w hw)

theorem mem_union {xs ys : List Nat} {z : Nat} (hys : ys.Pairwise (· < ·)) :
    z ∈ union xs ys ↔ z ∈ xs ∨ z ∈ ys := by
  simp [union, mem_unionOnto xs hys]

theorem ascending_union {xs ys : List Nat} (hxs : xs.Pairwise (· < ·)) (hys : ys.Pairwise (· < ·)) :
    (union xs ys).Pairwise (· < ·) :=
  ascending_unionOnto xs List.Pairwise.nil hxs hys (by simp) (by simp)

/-! ## The union of many lists -/

/-- **Adds one list to a binary counter** of partial unions: an empty digit takes it, a full one is
united with it and the result carried on. -/
def carry : List Nat → List (List Nat) → List (List Nat)
  | l, [] => [l]
  | l, [] :: rest => l :: rest
  | l, (m :: ms) :: rest => [] :: carry (union (m :: ms) l) rest

/-- **The union of the lists** that `f` gives for the members of `as`. -/
def unionMap {α : Type} (f : α → List Nat) (as : List α) : List Nat :=
  (as.foldl (fun digits a => carry (f a) digits) []).foldl union []

private theorem ascending_carry {l : List Nat} {digits : List (List Nat)}
    (hl : l.Pairwise (· < ·)) (hd : ∀ d ∈ digits, d.Pairwise (· < ·)) :
    ∀ d ∈ carry l digits, d.Pairwise (· < ·) := by
  fun_induction carry l digits with
  | case1 l => simpa using hl
  | case2 l rest => grind
  | case3 l m ms rest ih =>
    have hm := hd (m :: ms) List.mem_cons_self
    have hrest := ih (ascending_union hm hl) (fun d h => hd d (List.mem_cons_of_mem _ h))
    exact List.forall_mem_cons.2 ⟨List.Pairwise.nil, hrest⟩

private theorem mem_carry {l : List Nat} {digits : List (List Nat)} {z : Nat}
    (hl : l.Pairwise (· < ·)) (hd : ∀ d ∈ digits, d.Pairwise (· < ·)) :
    (∃ d ∈ carry l digits, z ∈ d) ↔ z ∈ l ∨ ∃ d ∈ digits, z ∈ d := by
  fun_induction carry l digits with
  | case1 l => simp
  | case2 l rest => simp
  | case3 l m ms rest ih =>
    have hm := hd (m :: ms) List.mem_cons_self
    have := ih (ascending_union hm hl) (fun d h => hd d (List.mem_cons_of_mem _ h))
    simp only [List.mem_cons, or_and_right, exists_or, exists_eq_left, List.not_mem_nil, false_or,
      this, mem_union hl]
    grind

private theorem foldl_carry {α : Type} {f : α → List Nat} {as : List α}
    (hf : ∀ a ∈ as, (f a).Pairwise (· < ·)) : ∀ digits : List (List Nat),
    (∀ d ∈ digits, d.Pairwise (· < ·)) →
    (∀ d ∈ as.foldl (fun ds a => carry (f a) ds) digits, d.Pairwise (· < ·)) ∧
    ∀ z, (∃ d ∈ as.foldl (fun ds a => carry (f a) ds) digits, z ∈ d) ↔
      (∃ a ∈ as, z ∈ f a) ∨ ∃ d ∈ digits, z ∈ d := by
  induction as with
  | nil => simp
  | cons a as ih =>
    intro digits hd
    have ha := hf a List.mem_cons_self
    have hrest := ih (fun b hb => hf b (List.mem_cons_of_mem _ hb)) _ (ascending_carry ha hd)
    refine ⟨hrest.1, fun z => ?_⟩
    rw [List.foldl_cons, hrest.2 z, mem_carry ha hd]
    simp only [List.mem_cons, or_and_right, exists_or, exists_eq_left]
    grind

private theorem foldl_union {ls : List (List Nat)} (hls : ∀ l ∈ ls, l.Pairwise (· < ·)) :
    ∀ {start : List Nat}, start.Pairwise (· < ·) →
    (ls.foldl union start).Pairwise (· < ·) ∧
    ∀ z, z ∈ ls.foldl union start ↔ z ∈ start ∨ ∃ l ∈ ls, z ∈ l := by
  induction ls with
  | nil => simp
  | cons l ls ih =>
    intro start hstart
    have hl := hls l List.mem_cons_self
    have hrest := ih (fun m hm => hls m (List.mem_cons_of_mem _ hm)) (ascending_union hstart hl)
    refine ⟨hrest.1, fun z => ?_⟩
    rw [List.foldl_cons, hrest.2 z, mem_union hl]
    simp only [List.mem_cons, or_and_right, exists_or, exists_eq_left]
    grind

theorem ascending_unionMap {α : Type} {f : α → List Nat} {as : List α}
    (hf : ∀ a ∈ as, (f a).Pairwise (· < ·)) : (unionMap f as).Pairwise (· < ·) :=
  (foldl_union (foldl_carry hf [] (by simp)).1 List.Pairwise.nil).1

theorem mem_unionMap {α : Type} {f : α → List Nat} {as : List α} {z : Nat}
    (hf : ∀ a ∈ as, (f a).Pairwise (· < ·)) : z ∈ unionMap f as ↔ ∃ a ∈ as, z ∈ f a := by
  have hcarry := foldl_carry hf [] (by simp)
  rw [unionMap, (foldl_union hcarry.1 List.Pairwise.nil).2, hcarry.2]
  simp

/-! ## Pointwise sums -/

theorem ascending_add_left {ys : List Nat} (x : Nat) (hys : ys.Pairwise (· < ·)) :
    (ys.map (x + ·)).Pairwise (· < ·) :=
  List.pairwise_map.2 (hys.imp fun h => Nat.add_lt_add_left h x)

theorem ascending_add_right {xs : List Nat} (y : Nat) (hxs : xs.Pairwise (· < ·)) :
    (xs.map (· + y)).Pairwise (· < ·) :=
  List.pairwise_map.2 (hxs.imp fun h => Nat.add_lt_add_right h y)

/-- **The pointwise sum**: every `x + y` for `x` in `xs` and `y` in `ys`.  The shorter list is the
one that is walked. -/
def sums (xs ys : List Nat) : List Nat :=
  if xs.length ≤ ys.length then unionMap (fun x => ys.map (x + ·)) xs
  else unionMap (fun y => xs.map (· + y)) ys

theorem ascending_sums {xs ys : List Nat} (hxs : xs.Pairwise (· < ·)) (hys : ys.Pairwise (· < ·)) :
    (sums xs ys).Pairwise (· < ·) := by
  unfold sums
  split
  · exact ascending_unionMap fun x _ => ascending_add_left x hys
  · exact ascending_unionMap fun y _ => ascending_add_right y hxs

theorem mem_sums {xs ys : List Nat} {z : Nat} (hxs : xs.Pairwise (· < ·))
    (hys : ys.Pairwise (· < ·)) : z ∈ sums xs ys ↔ ∃ x ∈ xs, ∃ y ∈ ys, x + y = z := by
  unfold sums
  split
  · rw [mem_unionMap fun x _ => ascending_add_left x hys]
    simp
  · rw [mem_unionMap fun y _ => ascending_add_right y hxs]
    simp only [List.mem_map]
    grind

/-! ## Repetitions in an ordered list -/

/-- **Keeps one of each run** of equal neighbours. -/
def collapse (xs : List Nat) : List Nat :=
  xs.foldr (fun x kept => if kept.head? = some x then kept else x :: kept) []

@[simp] theorem collapse_nil : collapse [] = [] := rfl

theorem collapse_cons (x : Nat) (xs : List Nat) :
    collapse (x :: xs) =
      if (collapse xs).head? = some x then collapse xs else x :: collapse xs := rfl

@[simp] theorem mem_collapse {xs : List Nat} {z : Nat} : z ∈ collapse xs ↔ z ∈ xs := by
  induction xs with
  | nil => simp
  | cons x xs ih =>
    rw [collapse_cons]
    split
    · next h =>
      have hx : x ∈ collapse xs := List.mem_of_head? h
      rw [List.mem_cons, ← ih]
      grind
    · rw [List.mem_cons, List.mem_cons, ih]

theorem ascending_collapse {xs : List Nat} (hxs : xs.Pairwise (· ≤ ·)) :
    (collapse xs).Pairwise (· < ·) := by
  induction xs with
  | nil => simp
  | cons x xs ih =>
    have hx := List.pairwise_cons.1 hxs
    have ih := ih hx.2
    rw [collapse_cons]
    split
    · exact ih
    · next h =>
      refine List.pairwise_cons.2 ⟨fun z hz => ?_, ih⟩
      have hle : x ≤ z := hx.1 z (mem_collapse.1 hz)
      rcases Nat.lt_or_eq_of_le hle with hlt | rfl
      · exact hlt
      · cases hc : collapse xs with
        | nil => simp [hc] at hz
        | cons y ys =>
          rw [hc] at h hz ih
          have hy : x ≤ y := hx.1 y (mem_collapse.1 (hc ▸ List.mem_cons_self))
          rcases List.mem_cons.1 hz with rfl | hz
          · simp at h
          · have := (List.pairwise_cons.1 ih).1 x hz
            omega

/-! ## Extremes -/

/-- The last member of an ascending list is the largest. -/
theorem le_getLast? {xs : List Nat} {top : Nat} (hxs : xs.Pairwise (· < ·))
    (h : xs.getLast? = some top) : ∀ x ∈ xs, x ≤ top := by
  obtain ⟨init, rfl⟩ := List.getLast?_eq_some_iff.1 h
  intro x hx
  rcases List.mem_append.1 hx with hx | hx
  · exact Nat.le_of_lt ((List.pairwise_append.1 hxs).2.2 x hx top (by simp))
  · exact Nat.le_of_eq (List.mem_singleton.1 hx)

/-- The first member of an ascending list is the smallest. -/
theorem head?_le {xs : List Nat} {low : Nat} (hxs : xs.Pairwise (· < ·))
    (h : xs.head? = some low) : ∀ x ∈ xs, low ≤ x := by
  obtain ⟨rest, rfl⟩ := List.head?_eq_some_iff.1 h
  intro x hx
  rcases List.mem_cons.1 hx with rfl | hx
  · exact Nat.le_refl _
  · exact Nat.le_of_lt ((List.pairwise_cons.1 hxs).1 x hx)

/-- **An ascending list is determined by its members.** -/
theorem eq_of_mem_iff : ∀ {xs ys : List Nat}, xs.Pairwise (· < ·) → ys.Pairwise (· < ·) →
    (∀ z, z ∈ xs ↔ z ∈ ys) → xs = ys
  | [], [], _, _, _ => rfl
  | [], y :: ys, _, _, h => absurd ((h y).2 List.mem_cons_self) (by simp)
  | x :: xs, [], _, _, h => absurd ((h x).1 List.mem_cons_self) (by simp)
  | x :: xs, y :: ys, hxs, hys, h => by
    have hx := List.pairwise_cons.1 hxs
    have hy := List.pairwise_cons.1 hys
    have hxy : x = y := by
      rcases List.mem_cons.1 ((h x).1 List.mem_cons_self) with h1 | h1
      · exact h1
      rcases List.mem_cons.1 ((h y).2 List.mem_cons_self) with h2 | h2
      · exact h2.symm
      have := hy.1 x h1
      have := hx.1 y h2
      omega
    subst hxy
    congr 1
    refine eq_of_mem_iff hx.2 hy.2 fun z => ⟨fun hz => ?_, fun hz => ?_⟩
    · have := hx.1 z hz
      rcases List.mem_cons.1 ((h z).1 (List.mem_cons_of_mem _ hz)) with h1 | h1
      · omega
      · exact h1
    · have := hy.1 z hz
      rcases List.mem_cons.1 ((h z).2 (List.mem_cons_of_mem _ hz)) with h1 | h1
      · omega
      · exact h1

end WireSchema.Ascending
