import TraitSchema.Proofs.ReadDocuments
import TraitSchema.Proofs.WrittenScalars

namespace TraitSchema

namespace Json

/-- The containers in the value are nested at most `depth` deep. -/
def NestedWithin : (depth : Nat) → Json → Prop
  | 0, .array _ | 0, .object _ => False
  | depth + 1, .array items => ∀ item ∈ items, NestedWithin depth item
  | depth + 1, .object members => ∀ member ∈ members, NestedWithin depth member.2
  | _, _ => True

/-- Every number in the value is a whole one that fits into 64 bits, with or without a sign. -/
inductive Integral : Json → Prop where
  | null : Integral .null
  | bool (b : Bool) : Integral (.bool b)
  | number {n : Int} (hlow : -2 ^ 63 ≤ n) (hhigh : n < 2 ^ 64) : Integral (.number (.whole n))
  | string (s : String) : Integral (.string s)
  | array {items : List Json} (h : ∀ item ∈ items, Integral item) : Integral (.array items)
  | object {members : List (String × Json)} (h : ∀ member ∈ members, Integral member.2) :
      Integral (.object members)

/-- A value that a file can hold without loss. -/
structure Storable (depth : Nat) (value : Json) : Prop where
  nested : NestedWithin depth value
  integral : Integral value
  ordered : Ordered value

theorem Storable.items {depth : Nat} {items : List Json}
    (h : Storable (depth + 1) (.array items)) : ∀ item ∈ items, Storable depth item := by
  intro item hm
  have hintegral : Integral item := by
    cases h.integral with
    | array hitems => exact hitems item hm
  exact ⟨h.nested item hm, hintegral, orderedItems_iff.mp h.ordered item hm⟩

theorem Storable.members {depth : Nat} {members : List (String × Json)}
    (h : Storable (depth + 1) (.object members)) :
    ∀ member ∈ members, Storable depth member.2 := by
  intro member hm
  have hintegral : Integral member.2 := by
    cases h.integral with
    | object hmembers => exact hmembers member hm
  exact ⟨h.nested member hm, hintegral, orderedMembers_iff.mp h.ordered.2 member hm⟩

theorem skipGap_newline (level : Nat) (rest : List Char) :
    skipGap (newline level ++ rest) = skipGap rest := by
  have hgap : ∀ c ∈ newline level, isGap c = true := by
    intro c hc
    rcases List.mem_cons.mp hc with rfl | hc
    · rfl
    · rw [List.eq_of_mem_replicate hc]
      rfl
  exact List.dropWhile_append_of_pos hgap

theorem skipGap_cons {c : Char} (h : isGap c = false) (rest : List Char) :
    skipGap (c :: rest) = c :: rest :=
  List.dropWhile_cons_of_neg (Bool.eq_false_iff.mp h)

/-- The text starts neither with a gap nor with the end of a container. -/
def StartsItem (text : List Char) : Prop :=
  ∃ c tail, text = c :: tail ∧ isGap c = false ∧ c ≠ ']' ∧ c ≠ '\x7d'

theorem StartsItem.skipGap {text : List Char} (h : StartsItem text) (rest : List Char) :
    skipGap (text ++ rest) = text ++ rest := by
  obtain ⟨c, tail, rfl, hc, -⟩ := h
  exact skipGap_cons hc _

section Listings

variable {α : Type} {item : Reader α} {write : α → List Char} {close : Char}

/-- The reader takes exactly this text off the front and gives `x` for it. -/
def Takes (item : Reader α) (text : List Char) (x : α) : Prop :=
  ∀ rest, StartsDelimited rest → item (text ++ rest) = some (x, rest)

/-- Items that follow another one, each after a comma on a line of its own. -/
def others (write : α → List Char) (level : Nat) (xs : List α) : List Char :=
  xs.flatMap fun x => ',' :: newline level ++ write x

def listed (close : Char) (write : α → List Char) (level : Nat) (x : α) (xs : List α) :
    List Char :=
  newline (level + 1) ++ (write x ++ (others write (level + 1) xs ++ (newline level ++ [close])))

theorem prettyItems_eq (level : Nat) (items : List Json) :
    prettyItems level items = others (pretty level) level items := by
  induction items with
  | nil => rfl
  | cons item items ih =>
    rw [prettyItems, ih, others, others, List.flatMap_cons]

def prettyMember (level : Nat) (member : String × Json) : List Char :=
  quote member.1 ++ ':' :: ' ' :: pretty level member.2

theorem prettyMembers_eq (level : Nat) (members : List (String × Json)) :
    prettyMembers level members = others (prettyMember level) level members := by
  induction members with
  | nil => rfl
  | cons member members ih =>
    rw [prettyMembers, ih, others, others, List.flatMap_cons]
    simp [prettyMember]

theorem pretty_array (level : Nat) (item : Json) (items : List Json) :
    pretty level (.array (item :: items)) =
      '[' :: listed ']' (pretty (level + 1)) level item items := by
  simp [pretty, prettyItems_eq, listed]

theorem pretty_object (level : Nat) (member : String × Json) (members : List (String × Json)) :
    pretty level (.object (member :: members)) =
      '\x7b' :: listed '\x7d' (prettyMember (level + 1)) level member members := by
  simp [pretty, prettyMembers_eq, prettyMember, listed]

theorem length_le_length_others (level : Nat) (xs : List α) :
    xs.length ≤ (others write level xs).length := by
  induction xs with
  | nil => exact Nat.le_refl _
  | cons x xs ih =>
    rw [others, List.flatMap_cons, ← others, List.length_append, List.length_cons]
    simp only [List.cons_append, List.length_cons]
    omega

theorem length_write_le {level : Nat} {x y : α} {xs : List α} (hy : y ∈ x :: xs) :
    (write y).length ≤ (listed close write level x xs).length := by
  simp only [listed, List.length_append]
  rcases List.mem_cons.mp hy with rfl | hy
  · omega
  · obtain ⟨before, after, rfl⟩ := List.append_of_mem hy
    simp only [others, List.flatMap_append, List.flatMap_cons, List.length_append,
      List.cons_append, List.length_cons]
    omega

theorem startsDelimited_others (level : Nat) (xs : List α) (inner : Nat) (rest : List Char) :
    StartsDelimited (others write inner xs ++ (newline level ++ rest)) := by
  cases xs with
  | nil => exact ⟨'\n', _, rfl, .inr rfl⟩
  | cons x xs => exact ⟨',', _, rfl, .inl rfl⟩

/-- Items that are written are read one after the other up to the closing mark. -/
theorem items?_written (hclose : isGap close = false ∧ close ≠ ',') (level inner : Nat)
    {x : α} {xs : List α} (htakes : ∀ y ∈ x :: xs, Takes item (write y) y)
    (hstarts : ∀ y ∈ x :: xs, StartsItem (write y)) {fuel : Nat} (hfuel : xs.length < fuel)
    {text rest : List Char}
    (htext : skipGap text =
      write x ++ (others write inner xs ++ (newline level ++ close :: rest))) :
    items? close item fuel text = some (x :: xs, rest) := by
  induction xs generalizing x fuel text with
  | nil =>
    cases fuel with
    | zero => exact absurd hfuel (Nat.not_lt_zero _)
    | succ fuel =>
      have hafter : skipGap (others write inner [] ++ (newline level ++ close :: rest)) =
          close :: rest := (skipGap_newline level _).trans (skipGap_cons hclose.1 rest)
      rw [items?, htext, htakes x List.mem_cons_self _ (startsDelimited_others level [] inner _)]
      simp [hafter, hclose.2]
  | cons y ys ih =>
    cases fuel with
    | zero => exact absurd hfuel (Nat.not_lt_zero _)
    | succ fuel =>
      -- behind the comma the rest of the items stands on a new line
      have hafter : skipGap (others write inner (y :: ys) ++ (newline level ++ close :: rest)) =
          ',' :: (newline inner ++
            (write y ++ (others write inner ys ++ (newline level ++ close :: rest)))) := by
        rw [others, List.flatMap_cons, ← others]
        simp only [List.cons_append, List.append_assoc]
        exact skipGap_cons rfl _
      have hnext : skipGap (newline inner ++
            (write y ++ (others write inner ys ++ (newline level ++ close :: rest)))) =
          write y ++ (others write inner ys ++ (newline level ++ close :: rest)) :=
        (skipGap_newline inner _).trans ((hstarts y (by simp)).skipGap _)
      have hys := ih (fun z hz => htakes z (List.mem_cons_of_mem x hz))
        (fun z hz => hstarts z (List.mem_cons_of_mem x hz)) (Nat.lt_of_succ_lt_succ hfuel) hnext
      rw [items?, htext,
        htakes x List.mem_cons_self _ (startsDelimited_others level (y :: ys) inner _)]
      simp [hafter, hys]

theorem listing?_listed (hclose : close = ']' ∨ close = '\x7d') (level : Nat) {x : α} {xs : List α}
    (htakes : ∀ y ∈ x :: xs, Takes item (write y) y)
    (hstarts : ∀ y ∈ x :: xs, StartsItem (write y)) {fuel : Nat}
    (hfuel : (listed close write level x xs).length ≤ fuel) (rest : List Char) :
    listing? close item fuel (listed close write level x xs ++ rest) = some (x :: xs, rest) := by
  have hmark : isGap close = false ∧ close ≠ ',' := by rcases hclose with rfl | rfl <;> decide
  have htext : skipGap (listed close write level x xs ++ rest) =
      write x ++ (others write (level + 1) xs ++ (newline level ++ close :: rest)) := by
    simp only [listed, List.append_assoc, List.singleton_append]
    exact (skipGap_newline _ _).trans ((hstarts x List.mem_cons_self).skipGap _)
  have hmany : xs.length < fuel := by
    have hxs : xs.length ≤ (others write (level + 1) xs).length := length_le_length_others _ _
    simp only [listed, List.length_append, List.length_singleton] at hfuel
    omega
  obtain ⟨c, tail, hwrite, hgap, hbracket, hbrace⟩ := hstarts x List.mem_cons_self
  have hne : c ≠ close := by rcases hclose with rfl | rfl <;> assumption
  have hskipped := (hstarts x List.mem_cons_self).skipGap
    (others write (level + 1) xs ++ (newline level ++ close :: rest))
  have hitems := items?_written hmark level (level + 1) htakes hstarts hmany hskipped
  rw [listing?, htext]
  rw [hwrite, List.cons_append] at hitems ⊢
  exact (if_neg hne).trans hitems

end Listings

theorem startsItem_quote (s : String) (rest : List Char) : StartsItem (quote s ++ rest) :=
  ⟨'"', _, rfl, by decide⟩

/-- What starts a whole number starts nothing else. -/
theorem startsNumber_ne {c : Char} (h : c = '-' ∨ c.isDigit = true) :
    (isGap c = false ∧ c ≠ ']' ∧ c ≠ '\x7d') ∧ (c ≠ '[' ∧ c ≠ '\x7b') ∧
      (c ≠ 'n' ∧ c ≠ 't' ∧ c ≠ 'f' ∧ c ≠ '"') := by
  rcases h with rfl | h
  · decide
  · have hne : ∀ d : Char, d.isDigit = false → c ≠ d := by
      rintro d hd rfl
      exact absurd (h.symm.trans hd) (by decide)
    have hgap : isGap c = false := by
      simp [isGap, hne ' ' rfl, hne '\n' rfl, hne '\t' rfl, hne '\r' rfl]
    exact ⟨⟨hgap, hne _ rfl, hne _ rfl⟩, ⟨hne _ rfl, hne _ rfl⟩, hne _ rfl, hne _ rfl, hne _ rfl,
      hne _ rfl⟩

theorem startsItem_pretty {depth : Nat} {value : Json} (h : Storable depth value) (level : Nat) :
    StartsItem (pretty level value) := by
  cases value with
  | null => exact ⟨'n', _, rfl, by decide⟩
  | bool b => cases b <;> exact ⟨_, _, rfl, by decide⟩
  | number n =>
    cases h.integral with
    | @number n _ _ =>
      obtain ⟨c, tail, htext, hc⟩ := exists_text_eq_cons n
      exact ⟨c, tail, htext, (startsNumber_ne hc).1⟩
  | string s => exact ⟨'"', _, rfl, by decide⟩
  | array items => cases items <;> exact ⟨'[', _, rfl, by decide⟩
  | object members => cases members <;> exact ⟨'\x7b', _, rfl, by decide⟩

theorem value?_eq_scalar? {c : Char} (h : c ≠ '[' ∧ c ≠ '\x7b') (fuel depth : Nat)
    (tail : List Char) : value? fuel depth (c :: tail) = scalar? (c :: tail) := by
  cases depth with
  | zero => rfl
  | succ depth =>
    rw [value?]
    · rintro _ he
      exact h.1 (List.cons.inj he).1
    · rintro _ he
      exact h.2 (List.cons.inj he).1

theorem scalar?_eq_number? {c : Char} (h : c ≠ 'n' ∧ c ≠ 't' ∧ c ≠ 'f' ∧ c ≠ '"')
    (tail : List Char) :
    scalar? (c :: tail) = (number? (c :: tail)).map fun (n, rest) => (.number n, rest) := by
  obtain ⟨hn, ht, hf, hquote⟩ := h
  rw [scalar?]
  · exact fun _ he => hn (List.cons.inj he).1
  · exact fun _ he => ht (List.cons.inj he).1
  · exact fun _ he => hf (List.cons.inj he).1
  · exact fun _ he => hquote (List.cons.inj he).1

theorem takes_null (fuel depth level : Nat) :
    Takes (value? fuel depth) (pretty level .null) .null := by
  intro rest _
  exact value?_eq_scalar? (by decide) fuel depth _

theorem takes_bool (fuel depth level : Nat) (b : Bool) :
    Takes (value? fuel depth) (pretty level (.bool b)) (.bool b) := by
  intro rest _
  cases b <;> exact value?_eq_scalar? (by decide) fuel depth _

theorem takes_string (fuel depth level : Nat) (s : String) :
    Takes (value? fuel depth) (pretty level (.string s)) (.string s) := by
  intro rest _
  obtain ⟨body, htext, hbody⟩ := stringBody_quote s rest
  rw [pretty, htext, value?_eq_scalar? (by decide), scalar?, hbody]
  exact congrArg (fun t => some (Json.string t, rest)) String.ofList_toList

theorem takes_number {n : Int} (hlow : -2 ^ 63 ≤ n) (hhigh : n < 2 ^ 64)
    (fuel depth level : Nat) :
    Takes (value? fuel depth) (pretty level (.number (.whole n))) (.number (.whole n)) := by
  intro rest hrest
  obtain ⟨c, tail, htext, hc⟩ := exists_text_eq_cons n
  have hread := number?_text hlow hhigh hrest
  rw [pretty]
  rw [htext, List.cons_append] at hread ⊢
  rw [value?_eq_scalar? (startsNumber_ne hc).2.1, scalar?_eq_number? (startsNumber_ne hc).2.2,
    hread, Option.map_some]

theorem takes_member {reader : Reader Json} {member : String × Json} {level : Nat}
    (hstarts : StartsItem (pretty level member.2))
    (htakes : Takes reader (pretty level member.2) member.2) :
    Takes (member? reader) (prettyMember level member) member := by
  intro rest hrest
  obtain ⟨body, htext, hbody⟩ :=
    stringBody_quote member.1 (':' :: ' ' :: (pretty level member.2 ++ rest))
  have hgap : skipGap (' ' :: (pretty level member.2 ++ rest)) = pretty level member.2 ++ rest :=
    (List.dropWhile_cons_of_pos rfl).trans (hstarts.skipGap rest)
  simp only [prettyMember, List.append_assoc, List.cons_append]
  rw [htext, member?, hbody]
  simp [skipGap_cons (show isGap ':' = false from rfl), hgap, htakes rest hrest]

section Containers

variable {fuel depth level : Nat}

theorem takes_array {items : List Json}
    (hfuel : (pretty level (.array items)).length ≤ fuel)
    (htakes : ∀ y ∈ items, (pretty (level + 1) y).length ≤ fuel →
      Takes (value? fuel depth) (pretty (level + 1) y) y)
    (hstarts : ∀ y ∈ items, StartsItem (pretty (level + 1) y)) :
    Takes (value? fuel (depth + 1)) (pretty level (.array items)) (.array items) := by
  cases items with
  | nil => exact fun _ _ => rfl
  | cons item items =>
    rw [pretty_array] at hfuel ⊢
    have hlisted := Nat.le_of_succ_le hfuel
    intro rest _
    have hread := listing?_listed (.inl rfl) level
      (fun y hy => htakes y hy (Nat.le_trans (length_write_le hy) hlisted)) hstarts hlisted rest
    rw [List.cons_append, value?, hread, Option.map_some]

theorem takes_object {members : List (String × Json)} (hsorted : Table.Sorted members)
    (hfuel : (pretty level (.object members)).length ≤ fuel)
    (htakes : ∀ y ∈ members, (pretty (level + 1) y.2).length ≤ fuel →
      Takes (value? fuel depth) (pretty (level + 1) y.2) y.2)
    (hstarts : ∀ y ∈ members, StartsItem (pretty (level + 1) y.2)) :
    Takes (value? fuel (depth + 1)) (pretty level (.object members)) (.object members) := by
  cases members with
  | nil => exact fun _ _ => rfl
  | cons member members =>
    rw [pretty_object] at hfuel ⊢
    have hlisted := Nat.le_of_succ_le hfuel
    have hvalue : ∀ y : String × Json,
        (pretty (level + 1) y.2).length ≤ (prettyMember (level + 1) y).length := by
      intro y
      simp only [prettyMember, List.length_append, List.length_cons]
      omega
    have hmember : ∀ y ∈ member :: members,
        Takes (member? (value? fuel depth)) (prettyMember (level + 1) y) y := by
      intro y hy
      have hlength := Nat.le_trans (hvalue y) (Nat.le_trans (length_write_le hy) hlisted)
      exact takes_member (hstarts y hy) (htakes y hy hlength)
    intro rest _
    have hread := listing?_listed (.inr rfl) level hmember (fun y _ => startsItem_quote y.1 _)
      hlisted rest
    rw [List.cons_append, value?, hread, Option.map_some]
    -- the members are written in the order of their keys, so that sorting them changes nothing
    exact congrArg (fun ms => some (Json.object ms, rest)) (Table.ofList_of_sorted hsorted)

end Containers

/-- A value that can be stored is read as it was written, at any level. -/
theorem takes_pretty {depth : Nat} {value : Json} (h : Storable depth value) {fuel level : Nat}
    (hfuel : (pretty level value).length ≤ fuel) :
    Takes (value? fuel depth) (pretty level value) value := by
  -- on the depth that is left for containers; those inside a container have one less
  induction depth using Nat.strongRecOn generalizing value level with
  | ind depth ih =>
    cases value with
    | null => exact takes_null fuel depth level
    | bool b => exact takes_bool fuel depth level b
    | number n =>
      cases h.integral with
      | number hlow hhigh => exact takes_number hlow hhigh fuel depth level
    | string s => exact takes_string fuel depth level s
    | array items =>
      cases depth with
      | zero => exact absurd h.nested id
      | succ depth =>
        exact takes_array hfuel (fun y hy => ih depth depth.lt_succ_self (h.items y hy))
          fun y hy => startsItem_pretty (h.items y hy) (level + 1)
    | object members =>
      cases depth with
      | zero => exact absurd h.nested id
      | succ depth =>
        exact takes_object h.ordered.1 hfuel
          (fun y hy => ih depth depth.lt_succ_self (h.members y hy))
          fun y hy => startsItem_pretty (h.members y hy) (level + 1)

/-- The text of a file that a value is written to stands for that value. -/
theorem read?_fileText {value : Json} (h : Storable nestingLimit value) :
    read? value.fileText = some value := by
  have hfuel : (pretty 0 value).length ≤ (pretty 0 value ++ ['\n']).length := by
    rw [List.length_append]
    exact Nat.le_add_right _ _
  have hvalue := takes_pretty h hfuel ['\n'] ⟨'\n', [], rfl, .inr rfl⟩
  rw [read?, fileText, String.toList_ofList, readNested?,
    (startsItem_pretty h 0).skipGap, hvalue]
  rfl

theorem IsScalar.nestedWithin {value : Json} (h : value.IsScalar) (depth : Nat) :
    NestedWithin depth value := by
  cases value with
  | array => exact h.elim
  | object => exact h.elim
  | _ => cases depth <;> trivial

theorem nestedWithin_ofMembers {depth : Nat} {members : List (String × Json)}
    (h : ∀ member ∈ members, NestedWithin depth member.2) :
    NestedWithin (depth + 1) (ofMembers members) :=
  fun member hm => h member (Table.mem_of_mem_ofList hm)

theorem nestedWithin_value? {fuel depth : Nat} {text rest : List Char} {value : Json}
    (h : value? fuel depth text = some (value, rest)) : NestedWithin depth value :=
  forall_of_value? (fun depth _ hscalar => hscalar.nestedWithin depth) (fun _ _ hitems => hitems)
    (fun _ _ => nestedWithin_ofMembers) h

/-- A document that is read and has no numbers but whole ones of 64 bits can be stored again. -/
theorem storable_of_read? {text : String} {value : Json} (h : read? text = some value)
    (hintegral : Integral value) : Storable nestingLimit value := by
  refine ⟨?_, hintegral, ordered_of_read? h⟩
  obtain ⟨⟨found, rest⟩, hfound, h⟩ := Option.bind_eq_some_iff.mp h
  dsimp only at h
  split at h
  · cases h
    exact nestedWithin_value? hfound
  · cases h

end Json

end TraitSchema
