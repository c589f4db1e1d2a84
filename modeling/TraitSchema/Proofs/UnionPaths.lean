import TraitSchema.Json.Union
import TraitSchema.Proofs.DocumentMembers

namespace TraitSchema.Json

/-- The value at a key path, reached through objects. -/
def at? : Json → List String → Option Json
  | value, [] => some value
  | value, key :: path => (value.get? key).bind fun member => member.at? path

/-- On the way to the path the document holds nothing but objects, as far as it holds anything. -/
def OpenTo (value : Json) (path : List String) : Prop :=
  ∀ front, front <+: path → front ≠ path → ∀ v, value.at? front = some v → v.isObject = true

theorem Ordered.at? {value member : Json} {path : List String} (h : value.Ordered)
    (ha : value.at? path = some member) : member.Ordered := by
  induction path generalizing value with
  | nil => cases ha; exact h
  | cons key path ih =>
    obtain ⟨v, hv, ha⟩ := Option.bind_eq_some_iff.mp ha
    exact ih (h.get? hv) ha

theorem at?_concat (value : Json) (path : List String) (key : String) :
    value.at? (path ++ [key]) = (value.at? path).bind (·.get? key) := by
  induction path generalizing value with
  | nil =>
    rw [List.nil_append, at?, at?, Option.bind_some]
    cases value.get? key <;> rfl
  | cons first path ih =>
    rw [List.cons_append, at?, at?, Option.bind_assoc]
    simp only [ih]

theorem openTo_nil (value : Json) : value.OpenTo [] :=
  fun _ hf hne => absurd (List.prefix_nil.mp hf) hne

theorem openTo_cons {value : Json} {key : String} {path : List String} :
    value.OpenTo (key :: path) ↔
      value.isObject = true ∧ ∀ member, value.get? key = some member → member.OpenTo path := by
  constructor
  · intro h
    refine ⟨h [] (List.nil_prefix) (List.cons_ne_nil _ _).symm value rfl, ?_⟩
    intro member hg front hf hne v hv
    refine h (key :: front) (List.cons_prefix_cons.mpr ⟨rfl, hf⟩) (fun he => hne ?_) v ?_
    · exact (List.cons.inj he).2
    · simpa [at?, hg] using hv
  · rintro ⟨hobject, h⟩ front hf hne v hv
    cases front with
    | nil => cases hv; exact hobject
    | cons first front =>
      obtain ⟨rfl, hprefix⟩ := List.cons_prefix_cons.mp hf
      obtain ⟨member, hg, hv⟩ := Option.bind_eq_some_iff.mp hv
      exact h member hg front hprefix (fun he => hne (he ▸ rfl)) v hv

theorem uniteMembers_cons (join : Json → Json → Json) (left : Table Json) (key : String)
    (value : Json) (right : Table Json) :
    uniteMembers join left ((key, value) :: right) =
      uniteMembers join (left.put key ((left.get? key).elim value (join · value))) right := by
  cases h : left.get? key <;> simp [uniteMembers, h]

/-- A key of the union has the joined values, or the one value that there is. -/
theorem get?_uniteMembers (join : Json → Json → Json) (left : Table Json) {right : Table Json}
    (hr : right.names.Nodup) (key : String) :
    (uniteMembers join left right).get? key =
      match left.get? key, right.get? key with
      | some a, some b => some (join a b)
      | none, some b => some b
      | found, none => found := by
  induction right generalizing left with
  | nil =>
    cases hl : left.get? key <;> simp [uniteMembers, Table.get?, hl]
  | cons pair right ih =>
    obtain ⟨first, value⟩ := pair
    obtain ⟨hfirst, hrest⟩ := List.nodup_cons.mp hr
    rw [uniteMembers_cons, ih _ hrest, Table.get?_put, Table.get?]
    by_cases hk : key = first
    · subst hk
      rw [if_pos rfl, if_pos rfl, Table.get?_eq_none_iff.mpr hfirst]
      cases left.get? key <;> rfl
    · rw [if_neg hk, if_neg hk]

theorem unite_of_not_isObject {left right : Json} (n : Nat)
    (h : ¬ (left.isObject = true ∧ right.isObject = true)) : unite n left right = right := by
  cases n with
  | zero => cases left <;> cases right <;> rfl
  | succ n =>
    cases left with
    | object left =>
      cases right with
      | object right => exact absurd ⟨rfl, rfl⟩ h
      | _ => rfl
    | _ => cases right <;> rfl

theorem unite_zero (left right : Json) : unite 0 left right = right := by
  cases left <;> cases right <;> rfl

theorem get?_unite {n : Nat} {left right : Json} (hr : right.Ordered)
    (hobjects : left.isObject = true ∧ right.isObject = true) (key : String) :
    (unite (n + 1) left right).get? key =
      match left.get? key, right.get? key with
      | some a, some b => some (unite n a b)
      | none, some b => some b
      | found, none => found := by
  obtain ⟨lefts, rfl⟩ := eq_object_of_isObject hobjects.1
  obtain ⟨rights, rfl⟩ := eq_object_of_isObject hobjects.2
  exact get?_uniteMembers (unite n) lefts (Table.names_nodup hr.1) key

theorem isObject_unite {n : Nat} {left right : Json} (h : right.isObject = true) :
    (unite n left right).isObject = true := by
  obtain ⟨rights, rfl⟩ := eq_object_of_isObject h
  cases n <;> cases left <;> rfl

theorem ordered_uniteMembers {join : Json → Json → Json}
    (hjoin : ∀ a b : Json, a.Ordered → b.Ordered → (join a b).Ordered) {left right : Table Json}
    (hl : (object left).Ordered) (hr : OrderedMembers right) :
    (object (uniteMembers join left right)).Ordered := by
  induction right generalizing left with
  | nil => exact hl
  | cons pair right ih =>
    obtain ⟨key, value⟩ := pair
    rw [uniteMembers_cons]
    refine ih ?_ hr.2
    refine ⟨Table.sorted_put hl.1 _ _, orderedMembers_iff.mpr fun pair hp => ?_⟩
    rcases Table.mem_put hp with rfl | hp
    · cases hg : Table.get? left key with
      | none => exact hr.1
      | some existing => exact hjoin _ _ (orderedMembers_iff.mp hl.2 _ (Table.mem_of_get? hg)) hr.1
    · exact orderedMembers_iff.mp hl.2 pair hp

theorem ordered_unite (n : Nat) {left right : Json} (hl : left.Ordered) (hr : right.Ordered) :
    (unite n left right).Ordered := by
  induction n generalizing left right with
  | zero => exact (unite_zero left right).symm ▸ hr
  | succ n ih =>
    by_cases hobjects : left.isObject = true ∧ right.isObject = true
    · obtain ⟨lefts, rfl⟩ := eq_object_of_isObject hobjects.1
      obtain ⟨rights, rfl⟩ := eq_object_of_isObject hobjects.2
      exact ordered_uniteMembers (fun _ _ => ih) hl hr.2
    · exact (unite_of_not_isObject _ hobjects).symm ▸ hr

section Paths

variable {left right : Json} {path : List String}

/-- Where both documents hold a value, the union has the union of the two. -/
theorem at?_unite_of_both {n : Nat} (hr : right.Ordered) (hn : path.length ≤ n) {l r : Json}
    (hleft : left.at? path = some l) (hright : right.at? path = some r) :
    (unite n left right).at? path = some (unite (n - path.length) l r) := by
  induction path generalizing n left right with
  | nil => cases hleft; cases hright; rfl
  | cons key path ih =>
    obtain ⟨a, ha, hleft⟩ := Option.bind_eq_some_iff.mp hleft
    obtain ⟨b, hb, hright⟩ := Option.bind_eq_some_iff.mp hright
    cases n with
    | zero => cases hn
    | succ n =>
      rw [at?, get?_unite hr ⟨isObject_of_get? ha, isObject_of_get? hb⟩, ha, hb, Option.bind_some,
        ih (hr.get? hb) (Nat.le_of_succ_le_succ hn) hleft hright, List.length_cons,
        Nat.add_sub_add_right]

/-- Where only the right document holds a value, the union has that value. -/
theorem at?_unite_of_right {n : Nat} (hr : right.Ordered) (hn : path.length ≤ n) {r : Json}
    (hleft : left.at? path = none) (hright : right.at? path = some r) :
    (unite n left right).at? path = some r := by
  induction path generalizing n left right with
  | nil => cases hleft
  | cons key path ih =>
    obtain ⟨b, hb, hrest⟩ := Option.bind_eq_some_iff.mp hright
    cases n with
    | zero => cases hn
    | succ n =>
      by_cases hobjects : left.isObject = true ∧ right.isObject = true
      · rw [at?, get?_unite hr hobjects, hb]
        cases ha : left.get? key with
        | none => exact hrest
        | some a =>
          -- the left document ends further on, inside the member that both have
          rw [at?, ha] at hleft
          exact ih (hr.get? hb) (Nat.le_of_succ_le_succ hn) hleft hrest
      · rw [unite_of_not_isObject _ hobjects]
        exact hright

/-- Where the right document holds no value, the union has what the left one holds if the right
one is open to the path, and nothing otherwise. -/
theorem at?_unite_of_not_right {n : Nat} (hr : right.Ordered) (hn : path.length ≤ n)
    (hright : right.at? path = none) (value : Json) :
    (unite n left right).at? path = some value ↔
      left.at? path = some value ∧ right.OpenTo path := by
  induction path generalizing n left right with
  | nil => cases hright
  | cons key path ih =>
    cases n with
    | zero => cases hn
    | succ n =>
      rw [openTo_cons]
      by_cases hobjects : left.isObject = true ∧ right.isObject = true
      · rw [at?, at?, get?_unite hr hobjects]
        cases hb : right.get? key with
        | none => cases left.get? key <;> simp [hobjects.2]
        | some b =>
          rw [at?, hb] at hright
          cases left.get? key with
          | none => simpa using fun h => nomatch hright.symm.trans h
          | some a => simpa [hobjects.2] using ih (hr.get? hb) (Nat.le_of_succ_le_succ hn) hright
      · -- the union is the right document, which holds nothing there
        rw [unite_of_not_isObject _ hobjects, hright]
        refine iff_of_false (fun h => nomatch h) ?_
        rintro ⟨hl, hobject, -⟩
        obtain ⟨a, ha, -⟩ := Option.bind_eq_some_iff.mp hl
        exact hobjects ⟨isObject_of_get? ha, hobject⟩

end Paths

/-- The union of two schemas, path by path. The right schema decides wherever it holds a value,
but objects that both hold less than three levels deep are united; what the left one holds stays
where the right one is open to it, and nothing else is in the union. -/
theorem at?_uniteSchemas (left right : Json) (hr : right.Ordered) :
    let united := uniteSchemas left right
    (left.Ordered → united.Ordered) ∧
    (¬ (left.isObject = true ∧ right.isObject = true) → united = right) ∧
    (left.isObject = true ∧ right.isObject = true →
      ∀ path, path ≠ [] → path.length ≤ 3 →
        (∀ r, right.at? path = some r →
          (path.length = 3 ∨ (¬ ∃ l, left.at? path = some l ∧ l.isObject = true) ∨
              r.isObject = false → united.at? path = some r) ∧
          (path.length < 3 → r.isObject = true →
            ∀ l, left.at? path = some l → l.isObject = true →
              ∃ m, united.at? path = some m ∧ m.isObject = true ∧ ∀ key,
                (m.get? key).isSome = true ↔
                  (l.get? key).isSome = true ∨ (r.get? key).isSome = true)) ∧
        (∀ l, right.at? path = none → left.at? path = some l → right.OpenTo path →
          united.at? path = some l) ∧
        ((united.at? path).isSome = true → (right.at? path).isSome = true ∨
          (left.at? path).isSome = true ∧ right.OpenTo path)) := by
  intro united
  refine ⟨fun hl => ordered_unite schemaLevels hl hr, unite_of_not_isObject schemaLevels,
    fun _ path _ hn => ⟨?_, ?_, ?_⟩⟩
  · intro r hright
    constructor
    · intro hkept
      cases hleft : left.at? path with
      | none => exact at?_unite_of_right hr hn hleft hright
      | some l =>
        -- no level is left, or one of the two values is no object
        have hunited : united.at? path = some (unite (schemaLevels - path.length) l r) :=
          at?_unite_of_both hr hn hleft hright
        rw [hunited]
        rcases hkept with hlength | hobject | hobject
        · rw [hlength]
          exact congrArg some (unite_zero l r)
        · exact congrArg some (unite_of_not_isObject _ fun h => hobject ⟨l, hleft, h.1⟩)
        · refine congrArg some (unite_of_not_isObject _ fun h => ?_)
          exact absurd (hobject.symm.trans h.2) Bool.false_ne_true
    · intro hlength hobject l hleft hl
      obtain ⟨n, hdepth⟩ := Nat.exists_eq_add_of_lt hlength
      have hlevels : schemaLevels - path.length = n + 1 := by
        show 3 - path.length = n + 1
        omega
      refine ⟨unite (n + 1) l r, ?_, isObject_unite hobject, fun key => ?_⟩
      · rw [← hlevels]
        exact at?_unite_of_both hr hn hleft hright
      · rw [get?_unite (hr.at? hright) ⟨hl, hobject⟩]
        cases l.get? key <;> cases r.get? key <;> simp
  · intro l hright hleft hopen
    exact (at?_unite_of_not_right hr hn hright l).mpr ⟨hleft, hopen⟩
  · intro hsome
    cases hright : right.at? path with
    | some r => exact .inl rfl
    | none =>
      obtain ⟨value, hv⟩ := Option.isSome_iff_exists.mp hsome
      obtain ⟨hleft, hopen⟩ := (at?_unite_of_not_right hr hn hright value).mp hv
      exact .inr ⟨Option.isSome_iff_exists.mpr ⟨value, hleft⟩, hopen⟩

def titledSchema : Json :=
  .object [("$defs", .object [("x", .object [("a", .bool true), ("p", .object [("q", .null)])])]),
    ("title", .string "base")]

def addedSchema : Json :=
  .object [("$defs", .object [("x", .object [("b", .bool false), ("p", .object [])])])]

theorem at?_uniteSchemas_added :
    let united := uniteSchemas titledSchema addedSchema
    addedSchema.Ordered ∧ united.at? ["$defs", "x", "a"] = some (.bool true) ∧
      united.at? ["$defs", "x", "p"] = some (.object []) ∧
      united.at? ["title"] = some (.string "base") ∧ united.at? ["$defs", "y"] = none := by
  have hbody : (Json.object [("b", .bool false), ("p", .object [])]).Ordered :=
    ⟨List.pairwise_pair.mpr (by decide +kernel), trivial, ⟨List.Pairwise.nil, trivial⟩, trivial⟩
  have hordered : addedSchema.Ordered := ordered_singleton (ordered_singleton hbody)
  obtain ⟨-, -, h⟩ := at?_uniteSchemas titledSchema addedSchema hordered
  have hx := h ⟨rfl, rfl⟩ ["$defs", "x", "a"] (by decide) (by decide)
  have hp := h ⟨rfl, rfl⟩ ["$defs", "x", "p"] (by decide) (by decide)
  have ht := h ⟨rfl, rfl⟩ ["title"] (by decide) (by decide)
  have hy := h ⟨rfl, rfl⟩ ["$defs", "y"] (by decide) (by decide)
  refine ⟨hordered, hx.2.1 _ rfl rfl ?_, (hp.1 _ rfl).1 (.inl rfl), ht.2.1 _ rfl rfl ?_, ?_⟩
  · simp [openTo_cons, openTo_nil, addedSchema, get?, members?, isObject, Table.get?]
  · simp [openTo_cons, openTo_nil, addedSchema, isObject, members?]
  · by_contra hsome
    rcases hy.2.2 (Option.isSome_iff_ne_none.mpr hsome) with hr | ⟨hl, -⟩
    · cases hr
    · cases hl

end TraitSchema.Json
