import Mathlib.Data.List.Infix
import TraitSchema.Proofs.ConversionSteps

namespace TraitSchema

namespace Text

variable {mark xs : List Char}

theorem before_eq_nil {text : List Char} (h : mark <+: text) : before mark text = [] := by
  cases text with
  | nil => rfl
  | cons c rest => rw [before, if_pos (List.isPrefixOf_iff_prefix.mpr h)]

theorem before_cons_of_ne {c : Char} {rest : List Char} (h : ¬ mark <+: c :: rest) :
    before mark (c :: rest) = c :: before mark rest := by
  rw [before, if_neg fun hp => h (List.isPrefixOf_iff_prefix.mp hp)]

theorem before_eq_self (h : ¬ mark <:+: xs) : before mark xs = xs := by
  induction xs with
  | nil => rfl
  | cons c xs ih =>
    rw [List.infix_cons_iff, not_or] at h
    rw [before_cons_of_ne h.1, ih h.2]

/-- Where a text has the mark, nothing that is added behind it counts: the first mark ends no later
than any other one. -/
theorem before_append_of_infix (h : mark <:+: xs) (t : List Char) :
    before mark (xs ++ t) = before mark xs := by
  induction xs with
  | nil =>
    obtain rfl := List.infix_nil.mp h
    exact before_eq_nil List.nil_prefix
  | cons c xs ih =>
    by_cases hp : mark <+: c :: xs
    · rw [before_eq_nil hp, before_eq_nil (hp.trans (List.prefix_append _ t))]
    · have hx : mark <:+: xs := (List.infix_cons_iff.mp h).resolve_left hp
      have hshort : mark.length ≤ (c :: xs).length := Nat.le_succ_of_le hx.length_le
      have hp' : ¬ mark <+: c :: (xs ++ t) := fun hpt =>
        hp (List.prefix_of_prefix_length_le hpt (List.prefix_append (c :: xs) t) hshort)
      rw [List.cons_append, before_cons_of_ne hp', before_cons_of_ne hp, ih hx]

/-- A mark whose first character does not come again in it cannot begin in the text before it and
end in itself. -/
theorem before_append_mark {m : Char} {ms s : List Char} (hm : m ∉ ms) (hs : ¬ m :: ms <:+: s) :
    before (m :: ms) (s ++ m :: ms) = s := by
  induction s with
  | nil => exact before_eq_nil List.prefix_rfl
  | cons c s ih =>
    rw [List.infix_cons_iff, not_or] at hs
    have hp : ¬ m :: ms <+: (c :: s) ++ m :: ms := by
      intro hp
      rcases List.prefix_or_prefix_of_prefix hp (List.prefix_append (c :: s) (m :: ms)) with
        hinside | ⟨tail, ho⟩
      · exact hs.1 hinside
      -- what stands over the border begins like the mark itself
      have htail : (c :: s) ++ tail <+: (c :: s) ++ m :: ms := by rwa [ho]
      rw [List.prefix_append_right_inj] at htail
      cases tail with
      | nil => exact hs.1 (by rw [← ho, List.append_nil])
      | cons first tail =>
        obtain ⟨rfl, -⟩ := List.cons_prefix_cons.mp htail
        exact hm ((List.cons.inj ho).2 ▸ List.mem_append_right s List.mem_cons_self)
    exact (before_cons_of_ne hp).trans (congrArg (c :: ·) (ih hs.2))

end Text

namespace KeyMap

variable {s : List Char}

theorem declarations_append_tableMark (hs : ¬ tableMark <:+: s) (t : List Char) :
    declarations (s ++ tableMark ++ t) = s := by
  have hmark : tableMark = 's' :: "egment_key_mapping_t".toList := by decide
  have hfirst : 's' ∉ "egment_key_mapping_t".toList := by decide
  rw [declarations, Text.before_append_of_infix (List.suffix_append s tableMark).isInfix]
  rw [hmark] at hs ⊢
  exact Text.before_append_mark hfirst hs

/-- Only the text up to the end of a mark decides where the declarations end. -/
theorem declarations_append_tail (s t t' : List Char) :
    declarations (s ++ tableMark ++ t) = declarations (s ++ tableMark ++ t') := by
  have hin : tableMark <:+: s ++ tableMark := (List.suffix_append s tableMark).isInfix
  rw [declarations, declarations, Text.before_append_of_infix hin,
    Text.before_append_of_infix hin]

end KeyMap

namespace Conversion

theorem run_eq_of_declarations_eq (c : Conversion) {source source' : List Char}
    (h : KeyMap.declarations source = KeyMap.declarations source') :
    c.run source = c.run source' := by
  rw [run_eq, run_eq, h]

/-- The segment table of a key map is not read. A conversion gives the same fragment, number of
segments or error, and reports the same events, with the first mark and all that follows it as
without; and wherever there is a mark, nothing after it matters. -/
theorem run_ignores_segment_table (c : Conversion) (s : List Char) :
    (¬ KeyMap.tableMark <:+: s → ∀ t, c.run (s ++ KeyMap.tableMark ++ t) = c.run s) ∧
      ∀ t t', c.run (s ++ KeyMap.tableMark ++ t) = c.run (s ++ KeyMap.tableMark ++ t') := by
  refine ⟨fun hs t => ?_, fun t t' => ?_⟩
  · refine c.run_eq_of_declarations_eq ?_
    rw [KeyMap.declarations_append_tableMark hs, KeyMap.declarations, Text.before_eq_self hs]
  · exact c.run_eq_of_declarations_eq (KeyMap.declarations_append_tail s t t')

def cutKeyMap : List Char :=
  "USER_BASE_SEGMENT_MAP
  \x7b\"base:size\", \"size\", TRAIT_TYPE_UINT, \x7btrue, false, false, false\x7d\x7d
  segment_key_mapping_".toList

theorem run_ignores_segment_table_cut :
    ¬ KeyMap.tableMark <:+: cutKeyMap ∧
      run ⟨.lenient, ⟨"user"⟩, .ofRows []⟩
          (cutKeyMap ++ KeyMap.tableMark ++ " USER_TSO_SEGMENT_MAP".toList) =
        run ⟨.lenient, ⟨"user"⟩, .ofRows []⟩ cutKeyMap := by
  have hs : ¬ KeyMap.tableMark <:+: cutKeyMap := by decide +kernel
  exact ⟨hs, (run_ignores_segment_table ⟨.lenient, ⟨"user"⟩, .ofRows []⟩ cutKeyMap).1 hs _⟩

end Conversion

end TraitSchema
