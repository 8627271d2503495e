import Mathlib.Data.List.Forall2

/-!
Computations that may fail with a fault. A whole that returns has parts that all
returned, and these lemmas name the values of the parts. Proofs about a function that
may fail take it apart with them and do not unfold the monad.
-/

namespace JsonQuery.Outcome

variable {ε α β : Type}

/-- A sequence returns exactly when its first part does and the rest does with the value
of the first. -/
theorem bind_eq_ok {x : Except ε α} {f : α → Except ε β} {b : β} :
    x >>= f = .ok b ↔ ∃ a, x = .ok a ∧ f a = .ok b := by
  cases x with
  | error e => simp [bind, Except.bind]
  | ok a => simp [bind, Except.bind]

theorem bind_eq_error {x : Except ε α} {f : α → Except ε β} {e : ε} :
    x >>= f = .error e ↔ x = .error e ∨ ∃ a, x = .ok a ∧ f a = .error e := by
  cases x with
  | error _ => simp [bind, Except.bind]
  | ok _ => simp [bind, Except.bind]

@[simp] theorem ok_bind (a : α) (f : α → Except ε β) : (Except.ok a >>= f) = f a := rfl

@[simp] theorem pure_eq_ok {a b : α} : (pure a : Except ε α) = .ok b ↔ a = b := by
  constructor
  · intro h
    exact Except.ok.inj h
  · rintro rfl
    rfl

/-- What stands behind a check returns only if the check finds nothing to refuse. -/
theorem unless_throw_eq_ok {refused : Bool} {e : ε} {x : Except ε α} {a : α} :
    (if refused = true then (throw e : Except ε PUnit) >>= fun _ => x else x) = .ok a ↔
      refused = false ∧ x = .ok a := by
  cases refused with
  | true => simp [throw, throwThe, MonadExceptOf.throw, bind, Except.bind]
  | false => simp

theorem toOption_eq_some {x : Except ε α} {a : α} : x.toOption = some a ↔ x = .ok a := by
  cases x with
  | error e => simp [Except.toOption]
  | ok b => simp [Except.toOption]

theorem map_eq_ok {f : α → β} {x : Except ε α} {b : β} :
    x.map f = .ok b ↔ ∃ a, x = .ok a ∧ f a = b := by
  cases x with
  | error e => simp [Except.map]
  | ok a => simp [Except.map]

theorem map_eq_error {f : α → β} {x : Except ε α} {e : ε} :
    x.map f = .error e ↔ x = .error e := by
  cases x with
  | error e => simp [Except.map]
  | ok a => simp [Except.map]

theorem mapError_eq_ok {δ : Type} {f : δ → ε} {x : Except δ α} {a : α} :
    x.mapError f = .ok a ↔ x = .ok a := by
  cases x with
  | error d => simp [Except.mapError]
  | ok a => simp [Except.mapError]

theorem mapError_eq_error {δ : Type} {f : δ → ε} {x : Except δ α} {e : ε} :
    x.mapError f = .error e ↔ ∃ d, x = .error d ∧ f d = e := by
  cases x with
  | error d => simp [Except.mapError]
  | ok a => simp [Except.mapError]

/-- Visiting a list returns exactly when every visit does, and with their values in the
order of the list. -/
theorem mapM_eq_ok {f : α → Except ε β} {xs : List α} {ys : List β} :
    xs.mapM f = .ok ys ↔ List.Forall₂ (fun x y => f x = .ok y) xs ys := by
  induction xs generalizing ys with
  | nil =>
      rw [List.mapM_nil, pure_eq_ok, List.forall₂_nil_left_iff]
      exact eq_comm
  | cons x xs ih =>
      rw [List.mapM_cons, bind_eq_ok]
      constructor
      · rintro ⟨y, hy, hrest⟩
        obtain ⟨rest, hmap, hcons⟩ := bind_eq_ok.mp hrest
        rw [← pure_eq_ok.mp hcons]
        exact .cons hy (ih.mp hmap)
      · rintro (_ | ⟨hy, hrest⟩)
        exact ⟨_, hy, bind_eq_ok.mpr ⟨_, ih.mpr hrest, rfl⟩⟩

/-- Visiting a list fails as one of the visits does. -/
theorem mapM_eq_error {f : α → Except ε β} {xs : List α} {e : ε} (h : xs.mapM f = .error e) :
    ∃ x ∈ xs, f x = .error e := by
  induction xs with
  | nil => cases h
  | cons x xs ih =>
      rw [List.mapM_cons] at h
      rcases bind_eq_error.mp h with hfirst | ⟨y, -, hrest⟩
      · exact ⟨x, List.mem_cons_self, hfirst⟩
      · rcases bind_eq_error.mp hrest with hlater | ⟨ys, -, hcons⟩
        · obtain ⟨z, hz, hfz⟩ := ih hlater
          exact ⟨z, List.mem_cons_of_mem x hz, hfz⟩
        · cases hcons

/-- What stands in the second list is related to something in the first. -/
theorem exists_of_forall₂ {R : α → β → Prop} {xs : List α} {ys : List β}
    (h : List.Forall₂ R xs ys) {y : β} (hy : y ∈ ys) : ∃ x ∈ xs, R x y := by
  induction h with
  | nil => exact absurd hy List.not_mem_nil
  | cons hxy _ ih =>
      rcases List.mem_cons.mp hy with rfl | hlater
      · exact ⟨_, List.mem_cons_self, hxy⟩
      · obtain ⟨x, hx, hrelated⟩ := ih hlater
        exact ⟨x, List.mem_cons_of_mem _ hx, hrelated⟩

/-- A list whose elements are each related to something is related to a list of such. -/
theorem exists_forall₂ {R : α → β → Prop} {xs : List α} (h : ∀ x ∈ xs, ∃ y, R x y) :
    ∃ ys, List.Forall₂ R xs ys := by
  induction xs with
  | nil => exact ⟨[], .nil⟩
  | cons x xs ih =>
      obtain ⟨⟨y, hy⟩, hlater⟩ := List.forall_mem_cons.mp h
      obtain ⟨ys, hys⟩ := ih hlater
      exact ⟨y :: ys, .cons hy hys⟩

/-- What is made of the elements of one list in two ways is related if it is for each element. -/
theorem forall₂_map_map {γ : Type} {R : β → γ → Prop} {f : α → β} {g : α → γ} {xs : List α}
    (h : ∀ x ∈ xs, R (f x) (g x)) : List.Forall₂ R (xs.map f) (xs.map g) := by
  rw [List.forall₂_map_left_iff, List.forall₂_map_right_iff]
  exact List.forall₂_same.mpr h

/-- Visiting a list returns if every visit does. -/
theorem exists_mapM_eq_ok {f : α → Except ε β} {xs : List α} (h : ∀ x ∈ xs, ∃ y, f x = .ok y) :
    ∃ ys, xs.mapM f = .ok ys :=
  (exists_forall₂ h).imp fun _ hys => mapM_eq_ok.mpr hys

/-- What is related to two lists one behind the other consists of what is related to each. -/
theorem forall₂_append_left_iff {R : α → β → Prop} {xs xs' : List α} {zs : List β} :
    List.Forall₂ R (xs ++ xs') zs ↔
      ∃ ys ys', List.Forall₂ R xs ys ∧ List.Forall₂ R xs' ys' ∧ zs = ys ++ ys' := by
  constructor
  · intro h
    induction xs generalizing zs with
    | nil => exact ⟨[], zs, .nil, h, rfl⟩
    | cons x xs ih =>
        obtain ⟨z, rest, hxz, hrest, rfl⟩ := List.forall₂_cons_left_iff.mp h
        obtain ⟨ys, ys', hys, hys', rfl⟩ := ih hrest
        exact ⟨z :: ys, ys', .cons hxz hys, hys', rfl⟩
  · rintro ⟨ys, ys', hys, hys', rfl⟩
    exact List.rel_append hys hys'

/-- What is true of whatever a visit returns is true of all that visiting a list returns. -/
theorem forall_mem_of_mapM {f : α → Except ε β} {xs : List α} {ys : List β} {P : β → Prop}
    (h : xs.mapM f = .ok ys) (hP : ∀ x y, f x = .ok y → P y) : ∀ y ∈ ys, P y := by
  intro y hy
  obtain ⟨x, -, hxy⟩ := exists_of_forall₂ (mapM_eq_ok.mp h) hy
  exact hP x y hxy

/-- Two visits one after the other are one visit that does both. -/
theorem forall₂_comp {γ : Type} {R : α → β → Prop} {S : β → γ → Prop} {xs : List α}
    {zs : List γ} :
    (∃ ys, List.Forall₂ R xs ys ∧ List.Forall₂ S ys zs) ↔
      List.Forall₂ (fun x z => ∃ y, R x y ∧ S y z) xs zs := by
  constructor
  · rintro ⟨ys, hR, hS⟩
    induction hR generalizing zs with
    | nil =>
        rw [List.forall₂_nil_left_iff.mp hS]
        exact .nil
    | cons hxy _ ih =>
        obtain ⟨z, zs, hyz, hrest, rfl⟩ := List.forall₂_cons_left_iff.mp hS
        exact .cons ⟨_, hxy, hyz⟩ (ih hrest)
  · intro h
    induction h with
    | nil => exact ⟨[], .nil, .nil⟩
    | cons hxz _ ih =>
        obtain ⟨y, hxy, hyz⟩ := hxz
        obtain ⟨ys, hR, hS⟩ := ih
        exact ⟨y :: ys, .cons hxy hR, .cons hyz hS⟩

/-- What has been kept so far stands in reverse order before what the rest adds. -/
private theorem filterAuxM_eq_ok_iff {f : α → Except ε Bool} {xs kept ys : List α} :
    xs.filterAuxM f kept = .ok ys ↔ (∀ x ∈ xs, ∃ keep, f x = .ok keep) ∧
      ys = (xs.filter fun x => (f x).toOption == some true).reverse ++ kept := by
  induction xs generalizing kept with
  | nil =>
      rw [List.filterAuxM, pure_eq_ok]
      simp [eq_comm]
  | cons x xs ih =>
      rw [List.filterAuxM, bind_eq_ok, List.forall_mem_cons]
      constructor
      · rintro ⟨keep, hkeep, hrest⟩
        obtain ⟨hall, rfl⟩ := ih.mp hrest
        refine ⟨⟨⟨keep, hkeep⟩, hall⟩, ?_⟩
        cases keep <;> simp [hkeep, Except.toOption]
      · rintro ⟨⟨⟨keep, hkeep⟩, hall⟩, rfl⟩
        refine ⟨keep, hkeep, ih.mpr ⟨hall, ?_⟩⟩
        cases keep <;> simp [hkeep, Except.toOption]

/-- Choosing elements of a list by a test that may fail returns exactly when every test does, and
keeps those for which it returns true, in their order. -/
theorem filterM_eq_ok_iff {f : α → Except ε Bool} {xs ys : List α} :
    xs.filterM f = .ok ys ↔ (∀ x ∈ xs, ∃ keep, f x = .ok keep) ∧
      ys = xs.filter fun x => (f x).toOption == some true := by
  rw [List.filterM, bind_eq_ok]
  simp only [filterAuxM_eq_ok_iff, List.append_nil, pure_eq_ok]
  constructor
  · rintro ⟨_, ⟨hall, rfl⟩, rfl⟩
    exact ⟨hall, List.reverse_reverse _⟩
  · rintro ⟨hall, rfl⟩
    exact ⟨_, ⟨hall, rfl⟩, List.reverse_reverse _⟩

theorem filterM_eq_ok {f : α → Except ε Bool} {xs ys : List α} (h : xs.filterM f = .ok ys) :
    ys = xs.filter fun x => (f x).toOption == some true :=
  (filterM_eq_ok_iff.mp h).2

/-- Choosing elements by a test that returns true for all of them keeps them all. -/
theorem filterM_eq_self {f : α → Except ε Bool} {xs : List α} (h : ∀ x ∈ xs, f x = .ok true) :
    xs.filterM f = .ok xs := by
  refine filterM_eq_ok_iff.mpr ⟨fun x hx => ⟨true, h x hx⟩, ?_⟩
  refine (List.filter_eq_self.mpr fun x hx => ?_).symm
  rw [h x hx]
  rfl

/-- What a visit that may drop elements has kept so far stands in reverse order before what the
rest adds. -/
private theorem exists_of_mem_filterMapM_loop {f : α → Except ε (Option β)} {xs : List α}
    {kept ys : List β} (h : List.filterMapM.loop f xs kept = .ok ys) {y : β} (hy : y ∈ ys) :
    y ∈ kept ∨ ∃ x ∈ xs, f x = .ok (some y) := by
  induction xs generalizing kept with
  | nil =>
      rw [← pure_eq_ok.mp h] at hy
      exact .inl (List.mem_reverse.mp hy)
  | cons x xs ih =>
      obtain ⟨found, hfound, hrest⟩ := bind_eq_ok.mp h
      cases found with
      | none =>
          rcases ih hrest with hkept | ⟨later, hlater, hy⟩
          · exact .inl hkept
          · exact .inr ⟨later, List.mem_cons_of_mem x hlater, hy⟩
      | some z =>
          rcases ih hrest with hkept | ⟨later, hlater, hy⟩
          · rcases List.mem_cons.mp hkept with rfl | hkept
            · exact .inr ⟨x, List.mem_cons_self, hfound⟩
            · exact .inl hkept
          · exact .inr ⟨later, List.mem_cons_of_mem x hlater, hy⟩

/-- What a visit that may drop elements returns was made of one of them. -/
theorem exists_of_mem_filterMapM {f : α → Except ε (Option β)} {xs : List α} {ys : List β}
    (h : xs.filterMapM f = .ok ys) {y : β} (hy : y ∈ ys) : ∃ x ∈ xs, f x = .ok (some y) :=
  (exists_of_mem_filterMapM_loop h hy).resolve_left List.not_mem_nil

/-- A computation fails with no other faults than those with a property. -/
def FailsWith (P : ε → Prop) (x : Except ε α) : Prop := ∀ e, x = .error e → P e

namespace FailsWith

variable {P Q : ε → Prop}

theorem ok (a : α) : FailsWith P (.ok a : Except ε α) := fun _ h => by cases h

theorem error {e : ε} (h : P e) : FailsWith P (.error e : Except ε α) := fun _ he =>
  Except.error.inj he ▸ h

theorem mono (hPQ : ∀ e, P e → Q e) {x : Except ε α} (h : FailsWith P x) : FailsWith Q x :=
  fun e he => hPQ e (h e he)

/-- A sequence fails as one of its parts does. -/
theorem bind {x : Except ε α} {f : α → Except ε β} (hx : FailsWith P x)
    (hf : ∀ a, FailsWith P (f a)) : FailsWith P (x >>= f) := by
  cases x with
  | error e => exact error (hx e rfl)
  | ok a => exact hf a

theorem map {f : α → β} {x : Except ε α} (hx : FailsWith P x) : FailsWith P (x.map f) :=
  fun e he => hx e (map_eq_error.mp he)

theorem mapError {δ : Type} {f : δ → ε} {x : Except δ α} (hf : ∀ d, P (f d)) :
    FailsWith P (x.mapError f) := by
  cases x with
  | error d => exact error (hf d)
  | ok a => exact ok a

/-- A check fails as it refuses or as what stands behind it does. -/
theorem unless_throw {refused : Bool} {e : ε} {x : Except ε α} (he : P e) (hx : FailsWith P x) :
    FailsWith P (if refused = true then (throw e : Except ε PUnit) >>= fun _ => x else x) := by
  cases refused with
  | true => exact error he
  | false => exact hx

theorem mapM {f : α → Except ε β} (hf : ∀ a, FailsWith P (f a)) (xs : List α) :
    FailsWith P (xs.mapM f) := by
  intro e he
  obtain ⟨x, -, hx⟩ := mapM_eq_error he
  exact hf x e hx

theorem filterM {f : α → Except ε Bool} (hf : ∀ a, FailsWith P (f a)) (xs : List α) :
    FailsWith P (xs.filterM f) := by
  have haux (kept : List α) : FailsWith P (xs.filterAuxM f kept) := by
    induction xs generalizing kept with
    | nil => exact ok kept
    | cons x xs ih => exact (hf x).bind fun keep => ih _
  exact (haux []).bind fun kept => ok kept.reverse

theorem foldlM {f : β → α → Except ε β} (hf : ∀ b a, FailsWith P (f b a)) (b : β)
    (xs : List α) : FailsWith P (xs.foldlM f b) := by
  induction xs generalizing b with
  | nil => exact ok b
  | cons x xs ih =>
      rw [List.foldlM_cons]
      exact (hf b x).bind fun next => ih next

end FailsWith

/-- Two computations that return the same values, and fail with one fault only, are one. -/
theorem eq_of_failsWith {x y : Except ε α} {e : ε} (hx : FailsWith (· = e) x)
    (hy : FailsWith (· = e) y) (h : ∀ a, x = .ok a ↔ y = .ok a) : x = y := by
  cases hx' : x with
  | ok a => exact ((h a).mp hx').symm
  | error fault =>
      cases hy' : y with
      | ok a => exact hx'.symm.trans ((h a).mpr hy')
      | error fault' => rw [hx fault hx', hy fault' hy']

end JsonQuery.Outcome
