import Mathlib.Data.List.Forall2

namespace TraitSchema

variable {ε α β : Type}

theorem mem_front_of_lt {lt : α → α → Prop} (hasymm : ∀ a b, lt a b → ¬ lt b a)
    {front back : List α} {x y : α} (hsorted : (front ++ x :: back).Pairwise lt)
    (hy : y ∈ front ++ x :: back) (hlt : lt y x) : y ∈ front := by
  rcases List.mem_append.mp hy with hy | hy
  · exact hy
  · rcases List.mem_cons.mp hy with rfl | hy
    · exact absurd hlt (hasymm _ _ hlt)
    · have hgt := (List.pairwise_cons.mp (List.pairwise_append.mp hsorted).2.1).1 y hy
      exact absurd hlt (hasymm _ _ hgt)

/-- Keys by which each element is found are told apart. -/
theorem injective_of_find? [BEq β] {key : α → β} (xs : List α)
    (h : ∀ x, (xs.find? fun y => key y == key x) = some x) : Function.Injective key := by
  intro x y he
  have hx := h x
  rw [he, h y] at hx
  exact (Option.some.inj hx).symm

/-- The first result of a search does not depend on the order if one element alone gives any. -/
theorem findSome?_eq_of_mem_iff {pick : α → Option β} {xs ys : List α}
    (hone : ∀ x ∈ xs, ∀ y ∈ xs, ∀ a b, pick x = some a → pick y = some b → x = y)
    (hsame : ∀ x, x ∈ xs ↔ x ∈ ys) : xs.findSome? pick = ys.findSome? pick := by
  cases hx : xs.findSome? pick with
  | none =>
    refine (List.findSome?_eq_none_iff.mpr fun y hy => ?_).symm
    exact List.findSome?_eq_none_iff.mp hx y ((hsame y).mpr hy)
  | some a =>
    obtain ⟨x, hmem, ha⟩ := List.exists_of_findSome?_eq_some hx
    cases hy : ys.findSome? pick with
    | none => simp [List.findSome?_eq_none_iff.mp hy x ((hsame x).mp hmem)] at ha
    | some b =>
      obtain ⟨y, hmem', hb⟩ := List.exists_of_findSome?_eq_some hy
      obtain rfl := hone x hmem y ((hsame y).mpr hmem') a b ha hb
      exact ha.symm.trans hb

theorem exists_left_of_forall₂ {R : α → β → Prop} {xs : List α} {ys : List β}
    (h : List.Forall₂ R xs ys) {y : β} (hy : y ∈ ys) : ∃ x ∈ xs, R x y := by
  induction h with
  | nil => cases hy
  | @cons x _ xs _ hfirst _ ih =>
    rcases List.mem_cons.mp hy with rfl | hy
    · exact ⟨x, List.mem_cons_self, hfirst⟩
    · obtain ⟨x', hx', hrel⟩ := ih hy
      exact ⟨x', List.mem_cons_of_mem x hx', hrel⟩

theorem forall₂_iff_of_forall_mem {p : α → Prop} {R S : α → β → Prop} {xs : List α} {ys : List β}
    (hp : ∀ x ∈ xs, p x) (h : ∀ x y, p x → (R x y ↔ S x y)) :
    List.Forall₂ R xs ys ↔ List.Forall₂ S xs ys := by
  constructor <;> intro hxs
  · exact ((List.forall₂_and_left xs ys).mpr ⟨hp, hxs⟩).imp fun x y hx => (h x y hx.1).mp hx.2
  · exact ((List.forall₂_and_left xs ys).mpr ⟨hp, hxs⟩).imp fun x y hx => (h x y hx.1).mpr hx.2

theorem mapM_eq_ok_iff {f : α → Except ε β} {xs : List α} {ys : List β} :
    xs.mapM f = .ok ys ↔ List.Forall₂ (fun x y => f x = .ok y) xs ys := by
  induction xs generalizing ys with
  | nil => cases ys <;> simp [pure, Except.pure]
  | cons x xs ih =>
    rw [List.mapM_cons, List.forall₂_cons_left_iff]
    cases hx : f x with
    | error e => simp [bind, Except.bind]
    | ok y =>
      cases hxs : xs.mapM f with
      | error e => simp [bind, Except.bind, ← ih, hxs]
      | ok rest => simp [bind, Except.bind, pure, Except.pure, ← ih, hxs, eq_comm]

theorem filterMap_toOption_of_mapM {f : α → Except ε β} {xs : List α} {ys : List β}
    (h : xs.mapM f = .ok ys) : xs.filterMap (fun x => (f x).toOption) = ys := by
  induction mapM_eq_ok_iff.mp h with
  | nil => rfl
  | cons hx hxs ih =>
    rw [List.filterMap_cons_some (by rw [hx]; rfl), ih (mapM_eq_ok_iff.mpr hxs)]

/-- Steps over a list fail as the first of them that fails. -/
theorem mapM_eq_error_iff {f : α → Except ε β} {xs : List α} {e : ε} :
    xs.mapM f = .error e ↔
      ∃ front x back, xs = front ++ x :: back ∧ (∀ y ∈ front, ∃ z, f y = .ok z) ∧
        f x = .error e := by
  induction xs with
  | nil => simp [pure, Except.pure]
  | cons first xs ih =>
    rw [List.mapM_cons]
    constructor
    · intro h
      cases hfirst : f first with
      | error e' =>
        rw [hfirst] at h
        cases h
        exact ⟨[], first, xs, rfl, List.forall_mem_nil _, hfirst⟩
      | ok y =>
        have hrest : xs.mapM f = .error e := by
          cases hxs : xs.mapM f <;> simp_all [bind, Except.bind, pure, Except.pure]
        obtain ⟨front, x, back, rfl, hfront, hx⟩ := ih.mp hrest
        exact ⟨first :: front, x, back, rfl, List.forall_mem_cons.mpr ⟨⟨y, hfirst⟩, hfront⟩, hx⟩
    · rintro ⟨front, x, back, hsplit, hfront, hx⟩
      cases front with
      | nil =>
        obtain ⟨rfl, rfl⟩ := List.cons.inj hsplit
        rw [hx]
        rfl
      | cons y front =>
        obtain ⟨rfl, rfl⟩ := List.cons.inj hsplit
        obtain ⟨⟨z, hz⟩, hfront⟩ := List.forall_mem_cons.mp hfront
        rw [hz, ih.mpr ⟨front, x, back, rfl, hfront, hx⟩]
        rfl

theorem foldlM_concat_eq_ok_iff {step : β → α → Except ε β} {xs : List α} {x : α} {b y : β} :
    (xs ++ [x]).foldlM step b = .ok y ↔ ∃ z, xs.foldlM step b = .ok z ∧ step z x = .ok y := by
  rw [List.foldlM_append]
  cases xs.foldlM step b with
  | error e => simp [bind, Except.bind]
  | ok z =>
    simp only [List.foldlM_cons, List.foldlM_nil, bind_pure]
    simp [bind, Except.bind]

theorem foldlM_congr {m : Type → Type} [Monad m] {f g : β → α → m β} {xs : List α}
    (h : ∀ b, ∀ x ∈ xs, f b x = g b x) (b : β) : xs.foldlM f b = xs.foldlM g b := by
  induction xs generalizing b with
  | nil => rfl
  | cons x xs ih =>
    rw [List.foldlM_cons, List.foldlM_cons, h b x List.mem_cons_self]
    exact congrArg _ (funext (ih fun b y hy => h b y (List.mem_cons_of_mem x hy)))

end TraitSchema
