import TraitSchema.Pattern.Check
import TraitSchema.Proofs.DeclaredNames

namespace TraitSchema.Pattern

open KeyMap (isDeclaredChar isDeclaredChar_iff)

def familySet : ClassSet :=
  let single (c : Char) := ClassSet.single ⟨c, false⟩
  let range (first last : Char) := ClassSet.range ⟨first, false⟩ ⟨last, false⟩
  .union [range 'a' 'z', range 'A' 'Z', range '0' '9', single '@', single '#', single '$']

/-- The parts of a pattern that a character of a name becomes, the last first. -/
def partsOfChar (c : Char) : List Expr :=
  if c = wildcard then
    [.atom (.assertion .lineEnd), .repetition (.bracket false familySet) 1 none]
  else [.atom (.literal ⟨c, false⟩)]

theorem patternRest?_family (fuel : Nat) (before : List Expr) (rest : List Char) :
    patternRest? (fuel + 3) ⟨[], [], before, false, []⟩ (familyPattern.toList ++ rest) =
      patternRest? fuel ⟨[], [], partsOfChar wildcard ++ before, false, []⟩ rest :=
  rfl

theorem patternRest?_literal (fuel : Nat) (before : List Expr) {c : Char} (rest : List Char)
    (hc : isDeclaredChar c = true) (hw : c ≠ wildcard) :
    patternRest? (fuel + 1) ⟨[], [], before, false, []⟩ (c :: rest) =
      patternRest? fuel ⟨[], [], partsOfChar c ++ before, false, []⟩ rest := by
  rw [patternRest?]
  simp only [afterGap, Bool.false_eq_true, ↓reduceIte]
  split
  next => cases hc
  next => cases hc
  next => cases hc
  next => cases hc
  next => cases hc
  next => exact absurd rfl hw
  next => cases hc
  next => cases hc
  next =>
    have ha : atom? false c rest = some (.literal ⟨c, false⟩, rest) := by
      unfold atom?
      split
      next => cases hc
      next => cases hc
      next => cases hc
      next => cases hc
      next => rfl
    rw [ha]
    simp [partsOfChar, hw, Progress.push]

theorem patternRest?_name (fuel : Nat) (before : List Expr) {name : List Char}
    (hname : ∀ c ∈ name, isDeclaredChar c = true) (hfuel : (patternName name).length < fuel) :
    patternRest? fuel ⟨[], [], before, false, []⟩ (patternName name) =
      some (Expr.ofParts ((name.reverse.flatMap partsOfChar) ++ before).reverse) := by
  induction name generalizing fuel before with
  | nil =>
    obtain ⟨fuel, rfl⟩ := Nat.exists_eq_succ_of_ne_zero (Nat.ne_of_gt hfuel)
    rfl
  | cons c name ih =>
    obtain ⟨hc, hrest⟩ := List.forall_mem_cons.mp hname
    have hparts : (c :: name).reverse.flatMap partsOfChar ++ before =
        name.reverse.flatMap partsOfChar ++ (partsOfChar c ++ before) := by
      simp
    rw [hparts]
    by_cases hw : c = wildcard
    · subst hw
      have hp : patternName (wildcard :: name) = familyPattern.toList ++ patternName name := rfl
      rw [hp, List.length_append] at hfuel
      -- the class, its repetition and the end anchor are three steps of the parser
      have hlen : 3 ≤ familyPattern.toList.length := by decide
      obtain ⟨fuel, rfl⟩ := Nat.exists_eq_add_of_le' (show 3 ≤ fuel by omega)
      rw [hp, patternRest?_family]
      exact ih fuel _ hrest (by omega)
    · have hp : patternName (c :: name) = c :: patternName name := by
        simp [patternName, hw]
      rw [hp, List.length_cons] at hfuel
      obtain ⟨fuel, rfl⟩ := Nat.exists_eq_add_of_le' (show 1 ≤ fuel by omega)
      rw [hp, patternRest?_literal fuel before _ hc hw]
      exact ih fuel _ hrest (by omega)

theorem depth_ofParts_le (es : List Expr) : (Expr.ofParts es).depth ≤ depthOfParts es + 1 := by
  unfold Expr.ofParts
  split
  next => exact Nat.zero_le _
  next e =>
    rw [depthOfParts]
    omega
  next => exact Nat.le_refl _

theorem depthOfParts_le {es : List Expr} {n : Nat} (h : ∀ e ∈ es, e.depth ≤ n) :
    depthOfParts es ≤ n := by
  induction es with
  | nil => exact Nat.zero_le n
  | cons e es ih =>
    obtain ⟨he, hes⟩ := List.forall_mem_cons.mp h
    rw [depthOfParts]
    exact Nat.max_le.mpr ⟨he, ih hes⟩

theorem isMeaningful_ofParts {es : List Expr}
    (h : ∀ e ∈ es, e.unicodeAfter? true = some true) : (Expr.ofParts es).isMeaningful = true := by
  have hall : unicodeAfterAll? true es = some true := by
    induction es with
    | nil => rfl
    | cons e es ih =>
      obtain ⟨he, hes⟩ := List.forall_mem_cons.mp h
      rw [unicodeAfterAll?, he, Option.bind_some, ih hes]
  unfold Expr.isMeaningful Expr.ofParts
  split
  next => rfl
  next e => rw [h e (List.mem_singleton_self e)]; rfl
  next => rw [Expr.unicodeAfter?, hall]; rfl

theorem depth_partsOfChar {c : Char} {e : Expr} (h : e ∈ partsOfChar c) : e.depth ≤ 3 := by
  unfold partsOfChar at h
  split at h
  next =>
    rcases List.mem_cons.mp h with rfl | h
    · decide
    · rw [List.mem_singleton.mp h]
      decide
  next =>
    rw [List.mem_singleton.mp h]
    exact Nat.zero_le 3

theorem unicodeAfter?_partsOfChar {c : Char} {e : Expr} (h : e ∈ partsOfChar c) :
    e.unicodeAfter? true = some true := by
  unfold partsOfChar at h
  split at h
  next =>
    rcases List.mem_cons.mp h with rfl | h
    · rfl
    · rw [List.mem_singleton.mp h]
      rfl
  next =>
    rw [List.mem_singleton.mp h]
    rfl

/-- The parts of the pattern of a name, in order. -/
def partsOfName (name : List Char) : List Expr := name.flatMap fun c => (partsOfChar c).reverse

theorem exists_of_mem_partsOfName {name : List Char} {e : Expr} (h : e ∈ partsOfName name) :
    ∃ c, e ∈ partsOfChar c := by
  obtain ⟨c, -, hc⟩ := List.mem_flatMap.mp h
  exact ⟨c, List.mem_reverse.mp hc⟩

/-- The pattern of a declared name is read as its parts. -/
theorem parse?_patternName {name : List Char} (h : ∀ c ∈ name, isDeclaredChar c = true) :
    parse? (patternName name) = some (Expr.ofParts (partsOfName name)) := by
  have hread := patternRest?_name ((patternName name).length + 1) [] h (Nat.lt_succ_self _)
  have horder : (name.reverse.flatMap partsOfChar ++ []).reverse = partsOfName name := by
    rw [List.append_nil, List.reverse_flatMap, List.reverse_reverse]
    rfl
  rw [horder] at hread
  have hdepth : (Expr.ofParts (partsOfName name)).depth ≤ depthLimit := by
    have hle : depthOfParts (partsOfName name) ≤ 3 := by
      apply depthOfParts_le
      intro e he
      obtain ⟨c, hc⟩ := exists_of_mem_partsOfName he
      exact depth_partsOfChar hc
    exact ((depth_ofParts_le _).trans (Nat.succ_le_succ hle)).trans (by decide)
  unfold parse?
  rw [show Progress.start = ⟨[], [], [], false, []⟩ from rfl, hread]
  exact if_pos hdepth

/-- The pattern of a declared name is a valid one unless it is too large. -/
theorem fault?_patternName {name : List Char} (h : ∀ c ∈ name, isDeclaredChar c = true) :
    fault? (String.ofList (patternName name)) = none ∨
      fault? (String.ofList (patternName name)) = some (.tooLarge sizeLimit) := by
  have hmeaning : (Expr.ofParts (partsOfName name)).isMeaningful = true := by
    apply isMeaningful_ofParts
    intro e he
    obtain ⟨c, hc⟩ := exists_of_mem_partsOfName he
    exact unicodeAfter?_partsOfChar hc
  unfold fault?
  rw [String.toList_ofList, parse?_patternName h]
  simp only [hmeaning, Bool.not_true, Bool.false_eq_true, ↓reduceIte]
  split <;> simp

end TraitSchema.Pattern
