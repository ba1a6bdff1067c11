import WireSchema.Proofs.Error.OnlyFails

/-!
# Proofs/Error/Checks — runs that check rules in order

A run **checks** a list of rules if it goes well only where all of them hold, and otherwise stops at
an error for which the first broken rule is to blame (`FirstBroken`).  So it goes well exactly if
all rules hold (`Checks.exists_ok_iff`).

Such a run is put together like the list: one run behind another checks the rules of both
(`Checks.bind`), and a rule that takes several steps stays at the head of the list until the last of
them (`Checks.step`, `Checks.cons`).
-/

namespace WireSchema

variable {ρ ε ε' α β : Type} {Holds : ρ → Prop} {Blames : ρ → ε → Prop} {rules rules' : List ρ}
  {r : ρ} {x : Except ε α} {f : α → Except ε β}

/-! ## The first broken rule -/

/-- **The first of the rules that is broken**: all before it hold. -/
inductive FirstBroken (Holds : ρ → Prop) : List ρ → ρ → Prop
  | here {r : ρ} {rules : List ρ} (h : ¬ Holds r) : FirstBroken Holds (r :: rules) r
  | behind {q r : ρ} {rules : List ρ} (hq : Holds q) (h : FirstBroken Holds rules r) :
      FirstBroken Holds (q :: rules) r

theorem FirstBroken.exists_mem (h : FirstBroken Holds rules r) : ∃ q ∈ rules, ¬ Holds q := by
  induction h with
  | @here r rules h => exact ⟨r, List.mem_cons_self, h⟩
  | @behind q r rules _ _ ih =>
    obtain ⟨p, hp, hbroken⟩ := ih
    exact ⟨p, List.mem_cons_of_mem q hp, hbroken⟩

theorem FirstBroken.not_holds (h : FirstBroken Holds rules r) : ¬ Holds r := by
  induction h with
  | here h => exact h
  | behind _ _ ih => exact ih

theorem FirstBroken.append_right (h : FirstBroken Holds rules r) :
    FirstBroken Holds (rules ++ rules') r := by
  induction h with
  | here h => exact .here h
  | behind hq _ ih => exact .behind hq ih

theorem FirstBroken.append_left (h : FirstBroken Holds rules' r) :
    ∀ {rules : List ρ}, (∀ q ∈ rules, Holds q) → FirstBroken Holds (rules ++ rules') r
  | [], _ => h
  | _ :: _, hall =>
    have hcons := List.forall_mem_cons.1 hall
    .behind hcons.1 (h.append_left hcons.2)

/-- Rules that hold may be left out. -/
theorem FirstBroken.filter {p : ρ → Bool} (h : FirstBroken Holds rules r)
    (hp : ∀ q ∈ rules, p q = false → Holds q) : FirstBroken Holds (rules.filter p) r := by
  induction h with
  | @here r rules h =>
    have hkept : p r = true := by simpa using mt (hp r List.mem_cons_self) h
    rw [List.filter_cons_of_pos hkept]
    exact .here h
  | @behind q r rules hq _ ih =>
    have hrest := ih fun q hq => hp q (List.mem_cons_of_mem _ hq)
    by_cases hkept : p q = true
    · rw [List.filter_cons_of_pos hkept]
      exact .behind hq hrest
    · rwa [List.filter_cons_of_neg hkept]

theorem FirstBroken.congr {Holds' : ρ → Prop} (h : FirstBroken Holds rules r)
    (hiff : ∀ q ∈ rules, Holds q ↔ Holds' q) : FirstBroken Holds' rules r := by
  induction h with
  | here h => exact .here (mt (hiff _ List.mem_cons_self).2 h)
  | behind hq _ ih =>
    refine .behind ((hiff _ List.mem_cons_self).1 hq) (ih fun q hmem => ?_)
    exact hiff q (List.mem_cons_of_mem _ hmem)

/-! ## Runs -/

/-- **The run checks the rules in order.** -/
structure Checks (Holds : ρ → Prop) (Blames : ρ → ε → Prop) (rules : List ρ) (x : Except ε α) :
    Prop where
  holds : ∀ a, x = .ok a → ∀ r ∈ rules, Holds r
  blames : ∀ e, x = .error e → ∃ r, FirstBroken Holds rules r ∧ Blames r e

/-- **The run goes well exactly if all rules hold.** -/
theorem Checks.exists_ok_iff (h : Checks Holds Blames rules x) :
    (∃ a, x = .ok a) ↔ ∀ r ∈ rules, Holds r := by
  constructor
  · rintro ⟨a, ha⟩
    exact h.holds a ha
  · intro hall
    cases hx : x with
    | ok a => exact ⟨a, rfl⟩
    | error e =>
      obtain ⟨r, hfirst, -⟩ := h.blames e hx
      obtain ⟨q, hq, hbroken⟩ := hfirst.exists_mem
      exact absurd (hall q hq) hbroken

/-- There is nothing to check in a run that goes well. -/
theorem checks_ok (a : α) : Checks Holds Blames [] (.ok a) :=
  ⟨fun _ _ => List.forall_mem_nil _, nofun⟩

/-- A rule that is known to hold has been checked. -/
theorem Checks.cons (hr : Holds r) (h : Checks Holds Blames rules x) :
    Checks Holds Blames (r :: rules) x where
  holds a ha := List.forall_mem_cons.2 ⟨hr, h.holds a ha⟩
  blames e he := by
    obtain ⟨q, hq, hblames⟩ := h.blames e he
    exact ⟨q, .behind hr hq, hblames⟩

/-- **A step that stops only if the first rule is broken**, with more steps for it to come. -/
theorem Checks.step (hx : OnlyFails (fun e => ¬ Holds r ∧ Blames r e) x)
    (hf : ∀ a, x = .ok a → Checks Holds Blames (r :: rules) (f a)) :
    Checks Holds Blames (r :: rules) (x >>= f) where
  holds b hb := by
    obtain ⟨a, ha, hb⟩ := bind_eq_ok_iff.1 hb
    exact (hf a ha).holds b hb
  blames e he := by
    rcases bind_eq_error_iff.1 he with he | ⟨a, ha, he⟩
    · exact ⟨r, .here (hx e he).1, (hx e he).2⟩
    · exact (hf a ha).blames e he

/-- **One run behind the other** checks the rules of both. -/
theorem Checks.bind (hx : Checks Holds Blames rules x)
    (hf : ∀ a, x = .ok a → Checks Holds Blames rules' (f a)) :
    Checks Holds Blames (rules ++ rules') (x >>= f) where
  holds b hb := by
    obtain ⟨a, ha, hb⟩ := bind_eq_ok_iff.1 hb
    exact List.forall_mem_append.2 ⟨hx.holds a ha, (hf a ha).holds b hb⟩
  blames e he := by
    rcases bind_eq_error_iff.1 he with he | ⟨a, ha, he⟩
    · obtain ⟨r, hr, hblames⟩ := hx.blames e he
      exact ⟨r, hr.append_right, hblames⟩
    · obtain ⟨r, hr, hblames⟩ := (hf a ha).blames e he
      exact ⟨r, hr.append_left (hx.holds a ha), hblames⟩

/-- **Rules that hold anyway** need not be listed. -/
theorem Checks.filter {p : ρ → Bool} (h : Checks Holds Blames rules x)
    (hp : ∀ q ∈ rules, p q = false → Holds q) : Checks Holds Blames (rules.filter p) x where
  holds a ha q hq := h.holds a ha q (List.mem_filter.1 hq).1
  blames e he := by
    obtain ⟨r, hr, hblames⟩ := h.blames e he
    exact ⟨r, hr.filter hp, hblames⟩

/-- The same rules may be put in other words. -/
theorem Checks.congr {Holds' : ρ → Prop} (h : Checks Holds Blames rules x)
    (hiff : ∀ q ∈ rules, Holds q ↔ Holds' q) : Checks Holds' Blames rules x where
  holds a ha q hq := (hiff q hq).1 (h.holds a ha q hq)
  blames e he := by
    obtain ⟨r, hr, hblames⟩ := h.blames e he
    exact ⟨r, hr.congr hiff, hblames⟩

/-- **A rule with a single defect.** -/
theorem checks_refuse {e? : Option ε} (hiff : e? = none ↔ Holds r)
    (hblames : ∀ e, e? = some e → Blames r e) : Checks Holds Blames [r] (refuse e?) where
  holds _ ha := List.forall_mem_singleton.2 (hiff.1 (refuse_eq_ok_iff.1 ha))
  blames e he := by
    have hsome := refuse_eq_error_iff.1 he
    have hbroken : ¬ Holds r := fun hr => absurd (hsome.symm.trans (hiff.2 hr)) nofun
    exact ⟨r, .here hbroken, hblames e hsome⟩

/-- The first of two defects stops the run. -/
theorem refuse_or (a? b? : Option ε) : refuse (a? <|> b?) = refuse a? >>= fun _ => refuse b? := by
  cases a? <;> rfl

theorem Checks.mapError {g : ε → ε'} {Blames' : ρ → ε' → Prop} (h : Checks Holds Blames rules x)
    (hg : ∀ r e, Blames r e → Blames' r (g e)) : Checks Holds Blames' rules (x.mapError g) where
  holds a ha := h.holds a (mapError_eq_ok_iff.1 ha)
  blames e' he' := by
    obtain ⟨e, he, rfl⟩ := mapError_eq_error_iff.1 he'
    obtain ⟨r, hr, hblames⟩ := h.blames e he
    exact ⟨r, hr, hg r e hblames⟩

end WireSchema
