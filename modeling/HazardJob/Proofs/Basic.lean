import Mathlib

/-! Computations that may fail: what it takes for one to succeed. -/
namespace HazardJob

theorem bind_eq_ok {ε α β : Type} {x : Except ε α} {f : α → Except ε β} {b : β} :
    (x >>= f) = .ok b ↔ ∃ a, x = .ok a ∧ f a = .ok b := by
  cases x <;> simp [bind, Except.bind]

theorem mapError_eq_ok {ε ε' α : Type} {x : Except ε α} {f : ε → ε'} {a : α} :
    x.mapError f = .ok a ↔ x = .ok a := by
  cases x <;> simp [Except.mapError]

theorem map_eq_ok {ε α β : Type} {x : Except ε α} {f : α → β} {b : β} :
    x.map f = .ok b ↔ ∃ a, x = .ok a ∧ f a = b := by
  cases x <;> simp [Except.map]

theorem isOk_iff {ε : Type} {x : Except ε Unit} : x.isOk = true ↔ x = .ok () := by
  cases x <;> simp [Except.isOk, Except.toBool]

theorem toOption_eq_some {ε α : Type} {x : Except ε α} {a : α} :
    x.toOption = some a ↔ x = .ok a := by
  cases x <;> simp [Except.toOption]

theorem any_toOption_iff {ε α : Type} {x : Except ε α} {p : α → Bool} :
    x.toOption.any p = true ↔ ∃ a, x = .ok a ∧ p a = true := by
  cases x <;> simp [Except.toOption]

theorem exists_of_forall₂ {α β : Type} {R : α → β → Prop} {xs : List α} {ys : List β}
    (related : List.Forall₂ R xs ys) :
    (∀ x ∈ xs, ∃ y ∈ ys, R x y) ∧ ∀ y ∈ ys, ∃ x ∈ xs, R x y := by
  induction related with
  | nil => exact ⟨nofun, nofun⟩
  | cons here _ ih =>
    refine ⟨List.forall_mem_cons.mpr ⟨⟨_, List.mem_cons_self, here⟩, fun x member => ?_⟩,
      List.forall_mem_cons.mpr ⟨⟨_, List.mem_cons_self, here⟩, fun y member => ?_⟩⟩
    · obtain ⟨y, inside, relates⟩ := ih.1 x member
      exact ⟨y, List.mem_cons_of_mem _ inside, relates⟩
    · obtain ⟨x, inside, relates⟩ := ih.2 y member
      exact ⟨x, List.mem_cons_of_mem _ inside, relates⟩

section MapM

variable {ε α β γ : Type} {f : α → Except ε β}

theorem mapM_cons_ok {x : α} {xs : List α} {ys : List β} : (x :: xs).mapM f = .ok ys ↔
    ∃ y more, f x = .ok y ∧ xs.mapM f = .ok more ∧ y :: more = ys := by
  rw [List.mapM_cons, bind_eq_ok]
  constructor
  · rintro ⟨y, first, others⟩
    obtain ⟨more, later, same⟩ := bind_eq_ok.mp others
    exact ⟨y, more, first, later, Except.ok.inj same⟩
  · rintro ⟨y, more, first, later, rfl⟩
    exact ⟨y, first, bind_eq_ok.mpr ⟨more, later, rfl⟩⟩

/-- A list of results has one for each element, in order. -/
theorem mapM_eq_ok_iff {xs : List α} {ys : List β} :
    xs.mapM f = .ok ys ↔ List.Forall₂ (fun x y => f x = .ok y) xs ys := by
  induction xs generalizing ys with
  | nil =>
    rw [List.forall₂_nil_left_iff]
    constructor
    · intro read
      cases read
      rfl
    · rintro rfl
      rfl
  | cons x xs ih =>
    rw [mapM_cons_ok, List.forall₂_cons_left_iff]
    constructor
    · rintro ⟨y, more, first, later, rfl⟩
      exact ⟨y, more, first, ih.mp later, rfl⟩
    · rintro ⟨y, more, first, later, rfl⟩
      exact ⟨y, more, first, ih.mpr later, rfl⟩

theorem mapM_map_ok {g : γ → α} {h : γ → β} {es : List γ}
    (each : ∀ e ∈ es, f (g e) = .ok (h e)) : (es.map g).mapM f = .ok (es.map h) := by
  rw [mapM_eq_ok_iff, List.forall₂_map_left_iff, List.forall₂_map_right_iff, List.forall₂_same]
  exact each

theorem ok_of_mem_mapM {xs : List α} {ys : List β} (read : xs.mapM f = .ok ys) {x : α}
    (member : x ∈ xs) : ∃ y ∈ ys, f x = .ok y :=
  (exists_of_forall₂ (mapM_eq_ok_iff.mp read)).1 x member

theorem mem_mapM_ok {xs : List α} {ys : List β} (read : xs.mapM f = .ok ys) {y : β}
    (member : y ∈ ys) : ∃ x ∈ xs, f x = .ok y :=
  (exists_of_forall₂ (mapM_eq_ok_iff.mp read)).2 y member

end MapM

end HazardJob
