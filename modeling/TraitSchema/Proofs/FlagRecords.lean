import TraitSchema.Support
import TraitSchema.Proofs.DocumentMembers
import TraitSchema.Proofs.ListSteps

namespace TraitSchema

namespace SupportEntry

/-- The keys of the flags of a record, in their order. Two of them are for altering. -/
def flagKeys : List String := ["add", "alt", "alter", "extract"]

/-- The value is a record of operations and not some other part of a matrix: it is an object with a
flag for extracting, of whatever form. -/
def IsRecord (value : Json) : Prop := ∃ flag, value.get? "extract" = some flag

/-- Every flag of the record is a boolean, and the one for altering is given once. -/
structure WellTyped (record : Json) : Prop where
  booleans : ∀ key ∈ flagKeys, ∀ flag, record.get? key = some flag → ∃ b, flag = .bool b
  once : record.get? "alt" = none ∨ record.get? "alter" = none

/-- The record gives the operations of the entry: those whose flags are set. -/
structure Gives (record : Json) (entry : SupportEntry) : Prop where
  add : entry.add = true ↔ record.get? "add" = some (.bool true)
  alter : entry.alter = true ↔
    record.get? "alt" = some (.bool true) ∨ record.get? "alter" = some (.bool true)
  extract : entry.extract = true ↔ record.get? "extract" = some (.bool true)

/-- What is wrong with the flag under a key. A second flag for altering is wrong whatever it is. -/
inductive WrongFlag (record : Json) : String → FlagFault → Prop where
  | mistyped {key : String} {flag : Json} (isFlag : key ∈ flagKeys)
      (found : record.get? key = some flag) (noBoolean : ∀ b, flag ≠ .bool b)
      (once : key = "alter" → record.get? "alt" = none) : WrongFlag record key (.mistyped flag)
  | duplicate {first second : Json} (found : record.get? "alt" = some first)
      (again : record.get? "alter" = some second) : WrongFlag record "alter" .duplicate

/-- The fault is that of the first wrong flag of the record, in the order of the keys. -/
def FirstWrong (record : Json) (fault : FlagFault) : Prop :=
  ∃ key, WrongFlag record key fault ∧ ∀ other < key, ∀ fault, ¬ WrongFlag record other fault

variable {record : Json} {key : String} {fault fault' : FlagFault} {entry entry' : SupportEntry}

theorem isRecord_iff {value : Json} : isRecord value = true ↔ IsRecord value :=
  Option.isSome_iff_exists

theorem IsRecord.eq_object {value : Json} (h : IsRecord value) :
    ∃ members, value = .object members := by
  obtain ⟨flag, hflag⟩ := h
  exact Json.eq_object_of_isObject (Json.isObject_of_get? hflag)

theorem WrongFlag.mem_flagKeys (h : WrongFlag record key fault) : key ∈ flagKeys := by
  cases h with
  | mistyped isFlag => exact isFlag
  | duplicate => decide

theorem WrongFlag.unique (h : WrongFlag record key fault) (h' : WrongFlag record key fault') :
    fault = fault' := by
  cases h with
  | mistyped _ found _ once =>
    cases h' with
    | mistyped _ found' => rw [Option.some.inj (found.symm.trans found')]
    | duplicate first => cases first.symm.trans (once rfl)
  | duplicate first =>
    cases h' with
    | mistyped _ _ _ once => cases first.symm.trans (once rfl)
    | duplicate => rfl

theorem WellTyped.not_wrongFlag (h : WellTyped record) : ¬ WrongFlag record key fault := by
  intro hw
  cases hw with
  | mistyped isFlag found noBoolean =>
    obtain ⟨b, hb⟩ := h.booleans _ isFlag _ found
    exact noBoolean b hb
  | duplicate found again => rcases h.once with hnone | hnone <;> simp_all

theorem FirstWrong.unique (h : FirstWrong record fault) (h' : FirstWrong record fault') :
    fault = fault' := by
  obtain ⟨key, hw, hfirst⟩ := h
  obtain ⟨key', hw', hfirst'⟩ := h'
  have hkey : key = key' := String.le_antisymm
    (String.not_lt.mp fun hlt => hfirst _ hlt _ hw')
    (String.not_lt.mp fun hlt => hfirst' _ hlt _ hw)
  subst hkey
  exact hw.unique hw'

theorem Gives.unique (h : Gives record entry) (h' : Gives record entry') : entry = entry' := by
  obtain ⟨add, alter, extract⟩ := entry
  obtain ⟨add', alter', extract'⟩ := entry'
  have hadd := h.add.trans h'.add.symm
  have halter := h.alter.trans h'.alter.symm
  have hextract := h.extract.trans h'.extract.symm
  simp only [← Bool.eq_iff_iff] at hadd halter hextract
  rw [hadd, halter, hextract]

theorem firstWrong_of_front {front back : List String} (hkeys : flagKeys = front ++ key :: back)
    (hw : WrongFlag record key fault) (hfront : ∀ k ∈ front, ∀ f, ¬ WrongFlag record k f) :
    FirstWrong record fault := by
  have hsorted : flagKeys.Pairwise (· < ·) := by decide
  refine ⟨key, hw, fun other hlt f hother => ?_⟩
  rw [hkeys] at hsorted
  refine hfront other ?_ f hother
  exact mem_front_of_lt (fun _ _ => String.lt_asymm) hsorted (hkeys ▸ hother.mem_flagKeys) hlt

theorem wellTyped_of_no_wrongFlag (h : ∀ key ∈ flagKeys, ∀ f, ¬ WrongFlag record key f) :
    WellTyped record := by
  have hunlessAlter : record.get? "alt" = none ∨ record.get? "alter" = none := by
    cases halt : record.get? "alt" with
    | none => exact .inl rfl
    | some first =>
      cases halter : record.get? "alter" with
      | none => exact .inr rfl
      | some second => exact absurd (.duplicate halt halter) (h "alter" (by decide) _)
  refine ⟨fun key hkey flag hflag => ?_, hunlessAlter⟩
  by_contra hno
  refine h key hkey _ (.mistyped hkey hflag (fun b hb => hno ⟨b, hb⟩) ?_)
  rintro rfl
  exact hunlessAlter.resolve_right (by simp [hflag])

/-- The result is right for the record: what it gives if it is well typed, and the fault of its
first wrong flag otherwise. -/
def RightFor (record : Json) : Except FlagFault SupportEntry → Prop
  | .ok entry => WellTyped record ∧ Gives record entry
  | .error fault => FirstWrong record fault

/-- The record holds this boolean under the key, or nothing if there is none. -/
def HasFlag (record : Json) (key : String) (given : Option Bool) : Prop :=
  record.get? key = given.map .bool

theorem HasFlag.set_iff {given : Option Bool} (h : HasFlag record key given) :
    given.getD false = true ↔ record.get? key = some (.bool true) := by
  rw [h]
  cases given <;> simp

theorem HasFlag.eq_none_iff {given : Option Bool} (h : HasFlag record key given) :
    record.get? key = none ↔ given = none := by
  rw [h, Option.map_eq_none_iff]

theorem HasFlag.not_wrongFlag {given : Option Bool} (h : HasFlag record key given)
    (honce : key = "alter" → record.get? "alt" = none ∨ record.get? "alter" = none) :
    ¬ WrongFlag record key fault := by
  intro hw
  cases hw with
  | mistyped _ found noBoolean =>
    obtain ⟨b, -, hb⟩ := Option.map_eq_some_iff.mp (h.symm.trans found)
    exact noBoolean b hb.symm
  | duplicate found again => rcases honce rfl with hnone | hnone <;> simp_all

/-- Reading goes on after a flag that is a boolean or not given, and stops at a wrong one. -/
theorem rightFor_flag?_bind {members : Table Json} {front back : List String}
    (hkeys : flagKeys = front ++ key :: back)
    (hfront : ∀ k ∈ front, ∀ f, ¬ WrongFlag (.object members) k f)
    (honce : key = "alter" → members.get? "alt" = none ∨ members.get? "alter" = none)
    {next : Option Bool → Except FlagFault SupportEntry}
    (hnext : ∀ given, HasFlag (.object members) key given →
      (∀ k ∈ front ++ [key], ∀ f, ¬ WrongFlag (.object members) k f) →
        RightFor (.object members) (next given)) :
    RightFor (.object members) (flag? members key >>= next) := by
  have hgoOn : ∀ given : Option Bool, members.get? key = given.map .bool →
      RightFor (.object members) (next given) := by
    intro given hgiven
    have hflag : HasFlag (.object members) key given := hgiven
    refine hnext given hflag fun k hk f => ?_
    rcases List.mem_append.mp hk with hk | hk
    · exact hfront k hk f
    · exact List.mem_singleton.mp hk ▸ hflag.not_wrongFlag honce
  rw [flag?]
  cases hfound : members.get? key with
  | none => exact hgoOn none hfound
  | some flag =>
    cases flag with
    | bool b => exact hgoOn (some b) hfound
    | _ =>
      -- no flag before this one is wrong, so the record has its first fault here
      exact firstWrong_of_front hkeys
        (.mistyped (hkeys ▸ List.mem_append_right front List.mem_cons_self) hfound
          (fun _ h => nomatch h) fun h => (honce h).resolve_right (by simp [← h, hfound])) hfront

/-- An object is read as what it gives if it is well typed, and else faulted for its first wrong
flag. -/
theorem rightFor_ofMembers (members : Table Json) :
    RightFor (.object members) (ofMembers members) := by
  unfold ofMembers
  refine rightFor_flag?_bind rfl (List.forall_mem_nil _) (fun h => absurd h (by decide))
    fun add hadd sound => ?_
  refine rightFor_flag?_bind rfl sound (fun h => absurd h (by decide)) fun alt halt sound => ?_
  dsimp only
  split
  next htwice =>
    obtain ⟨hfirst, hsecond⟩ := Bool.and_eq_true_iff.mp htwice
    obtain ⟨b, rfl⟩ := Option.isSome_iff_exists.mp hfirst
    obtain ⟨second, hsecond⟩ := Option.isSome_iff_exists.mp hsecond
    exact firstWrong_of_front rfl (.duplicate halt hsecond) sound
  next hnot =>
    have honce : members.get? "alt" = none ∨ members.get? "alter" = none := by
      simp only [Table.holds, Bool.and_eq_true, not_and_or, Option.not_isSome_iff_eq_none] at hnot
      exact hnot.imp_left halt.eq_none_iff.mpr
    refine rightFor_flag?_bind rfl sound (fun _ => honce) fun alter halter sound => ?_
    refine rightFor_flag?_bind rfl sound (fun h => absurd h (by decide)) fun extract hextract sound => ?_
    refine ⟨wellTyped_of_no_wrongFlag sound, hadd.set_iff, ?_, hextract.set_iff⟩
    rw [← halt.set_iff, ← halter.set_iff]
    -- one of the two flags for altering is not given
    rcases honce with hnone | hnone
    · simp [halt.eq_none_iff.mp hnone]
    · simp [halter.eq_none_iff.mp hnone]

theorem ofMembers_eq_ok_iff {members : Table Json} :
    ofMembers members = .ok entry ↔ WellTyped (.object members) ∧ Gives (.object members) entry := by
  have hright := rightFor_ofMembers members
  cases hr : ofMembers members with
  | ok read =>
    rw [hr] at hright
    constructor
    · intro h
      exact Except.ok.inj h ▸ hright
    · rintro ⟨-, hgives⟩
      rw [hright.2.unique hgives]
  | error f =>
    rw [hr] at hright
    obtain ⟨key, hwrong, -⟩ := hright
    exact iff_of_false (fun h => nomatch h) fun h => h.1.not_wrongFlag hwrong

theorem ofMembers_eq_error_iff {members : Table Json} :
    ofMembers members = .error fault ↔ FirstWrong (.object members) fault := by
  have hright := rightFor_ofMembers members
  cases hr : ofMembers members with
  | ok read =>
    rw [hr] at hright
    refine iff_of_false (fun h => nomatch h) ?_
    rintro ⟨key, hwrong, -⟩
    exact hright.1.not_wrongFlag hwrong
  | error f =>
    rw [hr] at hright
    constructor
    · intro h
      exact Except.error.inj h ▸ hright
    · intro h
      rw [hright.unique h]

theorem exists_ofMembers_iff {members : Table Json} :
    (∃ entry, ofMembers members = .ok entry) ↔ WellTyped (.object members) := by
  constructor
  · rintro ⟨entry, he⟩
    exact (ofMembers_eq_ok_iff.mp he).1
  · intro htyped
    cases he : ofMembers members with
    | ok entry => exact ⟨entry, rfl⟩
    | error f =>
      obtain ⟨key, hwrong, -⟩ := ofMembers_eq_error_iff.mp he
      exact absurd hwrong htyped.not_wrongFlag

end SupportEntry

end TraitSchema
