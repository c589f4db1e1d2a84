import Mathlib.Algebra.Group.Nat.Defs
import Mathlib.Algebra.Ring.Int.Defs
import Mathlib.Data.List.Basic
import TraitSchema.Json.Printer
import TraitSchema.Json.Reader

namespace TraitSchema.Json

section Strings

variable {rest : List Char}

theorem stringBody_escaped {e c : Char} (h : escaped? e = some c) :
    stringBody ('\\' :: e :: rest) = (stringBody rest).map fun (cs, left) => (c :: cs, left) := by
  rw [stringBody]
  · rw [h]
    cases stringBody rest <;> rfl
  · rintro _ _ _ _ _ rfl -
    cases h

/-- An escaped code that is no half of a pair stands for its character. -/
theorem stringBody_code {a b c d : Char} {code : Nat} (h : hexCode? a b c d = some code)
    (hcode : code < 0xD800) (rest : List Char) :
    stringBody ('\\' :: 'u' :: a :: b :: c :: d :: rest) =
      (stringBody rest).map fun (cs, left) => (Char.ofNat code :: cs, left) := by
  have hhigh : isHighSurrogate code = false := by simp [isHighSurrogate]; omega
  have hlow : isLowSurrogate code = false := by simp [isLowSurrogate]; omega
  rw [stringBody, h, Option.bind_eq_bind, Option.bind_some, hhigh, hlow]
  cases stringBody rest <;> rfl

theorem stringBody_plain {c : Char} (hquote : c ≠ '"') (hslash : c ≠ '\\')
    (hcontrol : ¬ c.toNat < 0x20) :
    stringBody (c :: rest) = (stringBody rest).map fun (cs, left) => (c :: cs, left) := by
  rw [stringBody]
  · simp only [hcontrol, hslash, decide_false, Bool.or_self, Bool.false_eq_true, if_false]
    cases stringBody rest <;> rfl
  · exact hquote
  · exact fun _ _ _ _ _ he _ => hslash he
  · exact fun _ _ he _ => hslash he

theorem hexCode?_control :
    ∀ n < 0x20, hexCode? '0' '0' (Nat.digitChar (n / 16)) (Nat.digitChar (n % 16)) = some n := by
  decide

theorem stringBody_escape (c : Char) (rest : List Char) :
    stringBody (escape c ++ rest) =
      (stringBody rest).map fun (cs, left) => (c :: cs, left) := by
  unfold escape
  split_ifs with hquote hslash hb hf hn hr ht hcontrol
  · subst hquote
    exact stringBody_escaped rfl
  · subst hslash
    exact stringBody_escaped rfl
  · subst hb
    exact stringBody_escaped rfl
  · subst hf
    exact stringBody_escaped rfl
  · subst hn
    exact stringBody_escaped rfl
  · subst hr
    exact stringBody_escaped rfl
  · subst ht
    exact stringBody_escaped rfl
  · have hcode := hexCode?_control c.toNat hcontrol
    have hread := stringBody_code hcode (by omega : c.toNat < 0xD800) rest
    rw [Char.ofNat_toNat] at hread
    exact hread
  · exact stringBody_plain hquote hslash hcontrol

theorem stringBody_flatMap_escape (cs rest : List Char) :
    stringBody (cs.flatMap escape ++ '"' :: rest) = some (cs, rest) := by
  induction cs with
  | nil => rw [List.flatMap_nil, List.nil_append, stringBody]
  | cons c cs ih =>
    rw [List.flatMap_cons, List.append_assoc, stringBody_escape, ih, Option.map_some]

/-- A string that is written is read up to its closing quote. -/
theorem stringBody_quote (s : String) (rest : List Char) :
    ∃ body, quote s ++ rest = '"' :: body ∧ stringBody body = some (s.toList, rest) := by
  refine ⟨s.toList.flatMap escape ++ '"' :: rest, ?_, stringBody_flatMap_escape s.toList rest⟩
  simp [quote]

end Strings

/-- What follows a value that is written: a comma or a line end. -/
def StartsDelimited (rest : List Char) : Prop :=
  ∃ c tail, rest = c :: tail ∧ (c = ',' ∨ c = '\n')

theorem ofDigits_toDigits (n : Nat) : ofDigits (Nat.toDigits 10 n) = n :=
  Nat.ofDigitChars_ten_toDigits

theorem isDigit_of_mem_toDigits {n : Nat} {c : Char} (h : c ∈ Nat.toDigits 10 n) :
    c.isDigit = true :=
  Nat.isDigit_of_mem_toDigits (by decide) (by decide) h

/-- A positive number is written without a leading zero. -/
theorem head?_toDigits_ne_zero {n : Nat} (hn : n ≠ 0) : (Nat.toDigits 10 n).head? ≠ some '0' := by
  induction n using Nat.strongRecOn with
  | ind n ih =>
    by_cases hsmall : n < 10
    · have hdigits : ∀ d < 10, d ≠ 0 → [Nat.digitChar d].head? ≠ some '0' := by decide
      rw [Nat.toDigits_of_lt_base hsmall]
      exact hdigits n hsmall hn
    · rw [Nat.toDigits_of_base_le (by decide) (by omega),
        List.head?_append_of_ne_nil _ Nat.toDigits_ne_nil]
      exact ih (n / 10) (by omega) (by omega)

theorem exists_toDigits_eq_cons (n : Nat) :
    ∃ d digits, Nat.toDigits 10 n = d :: digits ∧ d.isDigit = true := by
  obtain ⟨d, digits, hd⟩ := List.exists_cons_of_ne_nil (Nat.toDigits_ne_nil (n := n) (b := 10))
  exact ⟨d, digits, hd, isDigit_of_mem_toDigits (hd ▸ List.mem_cons_self)⟩

theorem toList_text_natural (n : Nat) :
    (JsonNumber.whole (.ofNat n)).text.toList = Nat.toDigits 10 n :=
  Nat.toList_repr

theorem toList_text_negative (n : Nat) :
    (JsonNumber.whole (.negSucc n)).text.toList = '-' :: Nat.toDigits 10 (n + 1) := by
  show ("-" ++ (n + 1).repr).toList = _
  rw [String.toList_append, Nat.toList_repr]
  rfl

/-- A written number starts with its sign or with a digit. -/
theorem exists_text_eq_cons (n : Int) :
    ∃ c tail, (JsonNumber.whole n).text.toList = c :: tail ∧ (c = '-' ∨ c.isDigit = true) := by
  cases n with
  | ofNat n =>
    obtain ⟨d, digits, hd, hdigit⟩ := exists_toDigits_eq_cons n
    exact ⟨d, digits, (toList_text_natural n).trans hd, .inr hdigit⟩
  | negSucc n => exact ⟨'-', _, toList_text_negative n, .inl rfl⟩

theorem digits?_append {digits rest : List Char} (hne : digits ≠ [])
    (hdigits : ∀ c ∈ digits, c.isDigit = true) (hrest : StartsDelimited rest) :
    digits? (digits ++ rest) = some (digits, rest) := by
  obtain ⟨c, tail, rfl, hc⟩ := hrest
  have hstop : ¬ c.isDigit = true := by rcases hc with rfl | rfl <;> decide
  rw [digits?, List.takeWhile_append_of_pos hdigits, List.dropWhile_append_of_pos hdigits,
    List.takeWhile_cons_of_neg hstop, List.dropWhile_cons_of_neg hstop, List.append_nil]
  cases digits with
  | nil => exact absurd rfl hne
  | cons d digits => rfl

theorem wholePart?_toDigits (n : Nat) {rest : List Char} (hrest : StartsDelimited rest) :
    wholePart? (Nat.toDigits 10 n ++ rest) = some (Nat.toDigits 10 n, rest) := by
  have hone : (Nat.toDigits 10 n).head? = some '0' → (Nat.toDigits 10 n).length = 1 := by
    intro hzero
    by_cases hn : n = 0
    · rw [hn, Nat.toDigits_zero, List.length_singleton]
    · exact absurd hzero (head?_toDigits_ne_zero hn)
  rw [wholePart?, digits?_append Nat.toDigits_ne_nil (fun _ => isDigit_of_mem_toDigits) hrest]
  exact if_neg fun h => h.2 (hone h.1)

theorem fraction?_of_delimited {rest : List Char} (h : StartsDelimited rest) :
    fraction? rest = some (none, rest) := by
  obtain ⟨c, tail, rfl, rfl | rfl⟩ := h <;> rfl

theorem exponent?_of_delimited {rest : List Char} (h : StartsDelimited rest) :
    exponent? rest = some (none, rest) := by
  obtain ⟨c, tail, rfl, rfl | rfl⟩ := h <;> rfl

theorem numberOf?_natural {n : Nat} (h : n < 2 ^ 64) :
    numberOf? false (Nat.toDigits 10 n) none none = some (.whole n) := by
  have hn : n < Nat.pow 2 64 := h
  simp [numberOf?, ofDigits_toDigits, hn]

theorem numberOf?_negative {n : Nat} (hpos : 0 < n) (h : n ≤ 2 ^ 63) :
    numberOf? true (Nat.toDigits 10 n) none none = some (.whole (-n)) := by
  have hn : n ≤ Nat.pow 2 63 := h
  simp [numberOf?, ofDigits_toDigits, hn, hpos]

theorem number?_natural {n : Nat} (h : n < 2 ^ 64) {rest : List Char}
    (hrest : StartsDelimited rest) :
    number? (Nat.toDigits 10 n ++ rest) = some (.whole n, rest) := by
  have hsign : ∀ tail, Nat.toDigits 10 n ++ rest ≠ '-' :: tail := by
    intro tail he
    obtain ⟨d, digits, hd, hdigit⟩ := exists_toDigits_eq_cons n
    rw [hd, List.cons_append] at he
    rw [(List.cons.inj he).1] at hdigit
    exact absurd hdigit (by decide)
  rw [number?]
  · simp [wholePart?_toDigits n hrest, fraction?_of_delimited hrest,
      exponent?_of_delimited hrest, numberOf?_natural h]
  · exact hsign

theorem number?_negative {n : Nat} (hpos : 0 < n) (h : n ≤ 2 ^ 63) {rest : List Char}
    (hrest : StartsDelimited rest) :
    number? ('-' :: Nat.toDigits 10 n ++ rest) = some (.whole (-n), rest) := by
  simp [number?, wholePart?_toDigits n hrest, fraction?_of_delimited hrest,
    exponent?_of_delimited hrest, numberOf?_negative hpos h]

/-- A whole number that fits into 64 bits, with or without a sign, is read as it was written. -/
theorem number?_text {n : Int} (hlow : -2 ^ 63 ≤ n) (hhigh : n < 2 ^ 64) {rest : List Char}
    (hrest : StartsDelimited rest) :
    number? ((JsonNumber.whole n).text.toList ++ rest) = some (.whole n, rest) := by
  cases n with
  | ofNat n =>
    rw [Int.ofNat_eq_natCast] at hhigh
    rw [toList_text_natural]
    exact number?_natural (by omega) hrest
  | negSucc n =>
    rw [toList_text_negative]
    exact number?_negative n.succ_pos (by omega) hrest

end TraitSchema.Json
