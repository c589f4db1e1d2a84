import TraitSchema.Text.Scan
import TraitSchema.Text.Search

namespace TraitSchema.Text

variable {α : Type}

/-- Nothing that the reader reads begins with the character. -/
def NeverStarts (f : List Char → Option α) (c : Char) : Prop := ∀ rest, f (c :: rest) = none

theorem after?_append (lead rest : List Char) : after? lead (lead ++ rest) = some rest := by
  induction lead with
  | nil => rfl
  | cons l lead ih => simpa [after?] using ih

theorem after?_eq_some_iff {lead text rest : List Char} :
    after? lead text = some rest ↔ text = lead ++ rest := by
  induction lead generalizing text with
  | nil => simp [after?]
  | cons l lead ih =>
    cases text with
    | nil => simp [after?]
    | cons c text =>
      simp only [after?, List.cons_append, List.cons.injEq]
      split
      next he => simp [ih, he]
      next hne => simp [Ne.symm hne]

theorem occurs_iff {word text : List Char} : occurs word text = true ↔ word <:+: text := by
  induction text with
  | nil => rw [occurs, List.isEmpty_iff, List.infix_nil]
  | cons c text ih =>
    rw [occurs, Bool.or_eq_true, ih, List.isPrefixOf_iff_prefix, List.infix_cons_iff]

theorem lastOnLine_append {f : List Char → Option α} {xs : List Char}
    (hline : '\n' ∉ xs) (h : ∀ c ∈ xs, NeverStarts f c) (rest : List Char) :
    lastOnLine f (xs ++ rest) = lastOnLine f rest := by
  induction xs with
  | nil => rfl
  | cons c xs ih =>
    simp only [List.mem_cons, not_or] at hline
    obtain ⟨hc, hx⟩ := List.forall_mem_cons.mp h
    have hr := ih hline.2 hx
    rw [List.cons_append, lastOnLine, if_neg (Ne.symm hline.1), hr]
    cases lastOnLine f rest with
    | some x => rfl
    | none => exact hc _

theorem lastOnLine_tail_eq_none {f : List Char → Option α} {c : Char} {rest : List Char}
    (hc : c ≠ '\n') (h : lastOnLine f (c :: rest) = none) :
    lastOnLine f rest = none ∧ f (c :: rest) = none := by
  rw [lastOnLine, if_neg hc] at h
  cases hr : lastOnLine f rest with
  | some x => simp [hr] at h
  | none => exact ⟨rfl, by simpa [hr] using h⟩

theorem lastOnLine_suffix_eq_none {f : List Char → Option α} {xs rest : List Char}
    (hx : '\n' ∉ xs) (h : lastOnLine f (xs ++ rest) = none) : lastOnLine f rest = none := by
  induction xs with
  | nil => exact h
  | cons c xs ih =>
    simp only [List.mem_cons, not_or] at hx
    exact ih hx.2 (lastOnLine_tail_eq_none (Ne.symm hx.1) h).1

theorem firstOnLine_append {f : List Char → Option α} {xs : List Char}
    (hline : '\n' ∉ xs) (h : ∀ c ∈ xs, NeverStarts f c) (rest : List Char) :
    firstOnLine f (xs ++ rest) = firstOnLine f rest := by
  induction xs with
  | nil => rfl
  | cons c xs ih =>
    simp only [List.mem_cons, not_or] at hline
    obtain ⟨hc, hx⟩ := List.forall_mem_cons.mp h
    rw [List.cons_append, firstOnLine, if_neg (Ne.symm hline.1), hc]
    exact ih hline.2 hx

theorem firstOnLine_cons_of_some {f : List Char → Option α} {c : Char} {rest : List Char} {x : α}
    (hc : c ≠ '\n') (h : f (c :: rest) = some x) : firstOnLine f (c :: rest) = some x := by
  rw [firstOnLine, if_neg hc, h]

section Scan

variable {read : List Char → Option (α × List Char)}

theorem scanFrom_before (skip : Nat) (before before' : Option Char) (text : List Char) :
    scanFrom (fun _ => read) skip before text = scanFrom (fun _ => read) skip before' text := by
  cases text with
  | nil => rfl
  | cons c rest => cases skip <;> rfl

theorem scanFrom_length (xs rest : List Char) (before : Option Char) :
    scanFrom (fun _ => read) xs.length before (xs ++ rest) = scan (fun _ => read) rest := by
  induction xs generalizing before with
  | nil => exact scanFrom_before 0 before none rest
  | cons c xs ih => exact ih (some c)

theorem scan_cons_of_none {c : Char} {rest : List Char} (h : read (c :: rest) = none) :
    scan (fun _ => read) (c :: rest) = scan (fun _ => read) rest := by
  rw [scan, scanFrom, h]
  exact scanFrom_before 0 (some c) none rest

theorem scan_cons_of_some {c : Char} {xs left : List Char} {x : α}
    (h : read (c :: (xs ++ left)) = some (x, left)) :
    scan (fun _ => read) (c :: (xs ++ left)) = x :: scan (fun _ => read) left := by
  rw [scan, scanFrom, h]
  simp only [List.length_append, Nat.add_sub_cancel_right, List.cons.injEq, true_and]
  exact scanFrom_length xs left (some c)

theorem scan_append {xs : List Char} (h : ∀ c ∈ xs, NeverStarts read c) (rest : List Char) :
    scan (fun _ => read) (xs ++ rest) = scan (fun _ => read) rest := by
  induction xs with
  | nil => rfl
  | cons c xs ih =>
    obtain ⟨hc, hx⟩ := List.forall_mem_cons.mp h
    exact (scan_cons_of_none (hc _)).trans (ih hx)

end Scan

/-- What a scan finds was read at some place of the text. -/
theorem exists_of_mem_scan {read : Option Char → List Char → Option (α × List Char)}
    {text : List Char} {x : α} (h : x ∈ scan read text) :
    ∃ before rest left, read before rest = some (x, left) := by
  suffices hs : ∀ skip before, x ∈ scanFrom read skip before text →
      ∃ before rest left, read before rest = some (x, left) from hs 0 none h
  clear h
  induction text with
  | nil => intro skip before h; cases h
  | cons c rest ih =>
    intro skip before h
    cases skip with
    | succ skip => exact ih skip _ h
    | zero =>
      rw [scanFrom] at h
      split at h
      next y left hr =>
        rcases List.mem_cons.mp h with rfl | h
        · exact ⟨before, c :: rest, left, hr⟩
        · exact ih _ _ h
      next => exact ih _ _ h

end TraitSchema.Text
