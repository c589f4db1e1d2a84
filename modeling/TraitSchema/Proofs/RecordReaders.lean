import TraitSchema.Proofs.Letters
import TraitSchema.Proofs.Scanning

namespace TraitSchema.KeyMap

open Text (NeverStarts)

theorem append_cons_ne {xs ys rest left : List Char} {a b : Char} (hx : b ∉ xs) (hy : a ∉ ys)
    (hab : a ≠ b) : xs ++ a :: rest ≠ ys ++ b :: left := by
  induction xs generalizing ys with
  | nil =>
    cases ys with
    | nil => simp [hab]
    | cons y ys =>
      simp only [List.mem_cons, not_or] at hy
      simp [hy.1]
  | cons x xs ih =>
    simp only [List.mem_cons, not_or] at hx
    cases ys with
    | nil => simp [Ne.symm hx.1]
    | cons y ys =>
      simp only [List.mem_cons, not_or] at hy
      intro h
      exact ih hx.2 hy.2 (List.cons.inj h).2

theorem eq_of_append_cons_eq {xs ys rest left : List Char} {a : Char} (hx : a ∉ xs) (hy : a ∉ ys)
    (h : xs ++ a :: rest = ys ++ a :: left) : xs = ys := by
  induction xs generalizing ys with
  | nil =>
    cases ys with
    | nil => rfl
    | cons y ys =>
      simp only [List.mem_cons, not_or] at hy
      exact absurd (List.cons.inj h).1 hy.1
  | cons x xs ih =>
    simp only [List.mem_cons, not_or] at hx
    cases ys with
    | nil => exact absurd (List.cons.inj h).1.symm hx.1
    | cons y ys =>
      simp only [List.mem_cons, not_or] at hy
      obtain ⟨rfl, ht⟩ := List.cons.inj h
      rw [ih hx.2 hy.2 ht]

theorem flags_neverStarts {c : Char} (h : c ≠ '\x7b') : NeverStarts flags? c := by
  intro rest
  unfold flags?
  split
  next he => exact absurd (List.cons.inj he).1 h
  next => rfl

theorem tagged_neverStarts {c : Char} (h : c ≠ 'T') : NeverStarts tagged? c := by
  intro rest
  have ht : tag? (c :: rest) = none := by
    have ha : Text.after? "TRAIT_TYPE_".toList (c :: rest) = none := if_neg (Ne.symm h)
    rw [tag?, ha]
    rfl
  rw [tagged?, ht]
  rfl

theorem keyed_neverStarts {c : Char} (h : c ≠ '"') : NeverStarts keyed? c := by
  intro rest
  have hk : key? (c :: rest) = none := by
    unfold key?
    split
    next he => exact absurd (List.cons.inj he).1 h
    next => rfl
  rw [keyed?, hk]
  rfl

theorem record_neverStarts (segment : List Char) {c : Char} (h : c ≠ '"') :
    NeverStarts (record? segment) c := by
  intro rest
  have hn : name? segment (c :: rest) = none := by
    have ha : Text.after? ('"' :: segment ++ [':']) (c :: rest) = none := if_neg (Ne.symm h)
    rw [name?, ha]
    rfl
  rw [record?, hn]
  rfl

theorem name?_written {segment suffix : List Char} (hs : ∀ c ∈ suffix, isNameChar c = true)
    (rest : List Char) :
    name? segment ('"' :: segment ++ ':' :: suffix ++ '"' :: ',' :: rest) =
      some (String.ofList (segment ++ ':' :: suffix), rest) := by
  have ha : Text.after? ('"' :: segment ++ [':'])
      ('"' :: segment ++ ':' :: suffix ++ '"' :: ',' :: rest) =
      some (suffix ++ '"' :: ',' :: rest) := by
    rw [Text.after?_eq_some_iff]
    simp
  have ht : (suffix ++ '"' :: ',' :: rest).takeWhile isNameChar = suffix := by
    rw [List.takeWhile_append_of_pos hs]
    simp [isNameChar_iff]
  have hd : (suffix ++ '"' :: ',' :: rest).dropWhile isNameChar = '"' :: ',' :: rest := by
    rw [List.dropWhile_append_of_pos hs]
    simp [isNameChar_iff]
  rw [name?, ha]
  simp only [Option.bind_eq_bind, Option.bind_some, ht, hd]
  rfl

/-- A quote is not that of a name if the text after it has no colon where the segment ends. -/
theorem record?_eq_none_of_not_colon {segment xs : List Char} {a : Char} (hx : ':' ∉ xs)
    (ha : a ≠ ':') (hs : a ∉ segment) (rest : List Char) :
    record? segment ('"' :: (xs ++ a :: rest)) = none := by
  have hn : Text.after? ('"' :: segment ++ [':']) ('"' :: (xs ++ a :: rest)) = none := by
    by_contra hne
    obtain ⟨left, hl⟩ := Option.ne_none_iff_exists'.mp hne
    rw [Text.after?_eq_some_iff] at hl
    simp only [List.cons_append, List.cons.injEq, true_and, List.append_assoc,
      List.nil_append] at hl
    exact append_cons_ne hx hs ha hl
  rw [record?, name?, hn]
  rfl

theorem key?_written {key : List Char} (hk : ∀ c ∈ key, isKeyChar c = true) (rest : List Char) :
    key? ('"' :: key ++ '"' :: ',' :: rest) = some (String.ofList key, rest) := by
  have ht : (key ++ '"' :: ',' :: rest).takeWhile isKeyChar = key := by
    rw [List.takeWhile_append_of_pos hk]
    simp [isKeyChar_iff]
  have hd : (key ++ '"' :: ',' :: rest).dropWhile isKeyChar = '"' :: ',' :: rest := by
    rw [List.dropWhile_append_of_pos hk]
    simp [isKeyChar_iff]
  simp [key?, ht, hd, Text.after?]

theorem tag?_written {tag : List Char} (ht : ∀ c ∈ tag, isTagChar c = true) (hne : tag ≠ [])
    (rest : List Char) :
    tag? ("TRAIT_TYPE_".toList ++ tag ++ ',' :: rest) = some (⟨String.ofList tag⟩, rest) := by
  have hw : (tag ++ ',' :: rest).takeWhile isTagChar = tag := by
    rw [List.takeWhile_append_of_pos ht]
    simp [isTagChar_iff]
  have hd : (tag ++ ',' :: rest).dropWhile isTagChar = ',' :: rest := by
    rw [List.dropWhile_append_of_pos ht]
    simp [isTagChar_iff]
  rw [tag?, List.append_assoc, Text.after?_append]
  simp only [Option.bind_eq_bind, Option.bind_some, hw, hd]

/-- A flag as it is written. -/
def flagText (b : Bool) : List Char := (if b then "true" else "false").toList

theorem flag?_written (b : Bool) (rest : List Char) :
    flag? (flagText b ++ rest) = some (b, rest) := by
  cases b <;> rfl

theorem nextFlag?_written (b : Bool) (rest : List Char) :
    nextFlag? (',' :: ' ' :: (flagText b ++ rest)) = some (b, rest) := by
  cases b <;> rfl

end TraitSchema.KeyMap
