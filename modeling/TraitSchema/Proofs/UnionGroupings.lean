import Mathlib.Data.List.Induction
import TraitSchema.Proofs.UnionLaws

namespace TraitSchema.Json

/-- Less than `n` keys deep, where the first and the last document both hold an object, the one in
the middle holds an object too, if it holds anything. -/
def Unbroken (n : Nat) (first middle last : Json) : Prop :=
  ∀ path : List String, path.length < n → ∀ a b c,
    first.at? path = some a → a.isObject = true → last.at? path = some c → c.isObject = true →
    middle.at? path = some b → b.isObject = true

theorem unbroken_zero (first middle last : Json) : Unbroken 0 first middle last :=
  fun _ hn => absurd hn (Nat.not_lt_zero _)

theorem unbroken_succ_iff {n : Nat} {first middle last : Json} :
    Unbroken (n + 1) first middle last ↔
      (first.isObject = true → last.isObject = true → middle.isObject = true) ∧
      ∀ key a b c, first.get? key = some a → middle.get? key = some b → last.get? key = some c →
        Unbroken n a b c := by
  constructor
  · intro h
    refine ⟨fun hf hl => h [] (Nat.succ_pos n) _ _ _ rfl hf rfl hl rfl, ?_⟩
    intro key a b c ha hb hc path hn x y z hx hxo hz hzo hy
    refine h (key :: path) (Nat.succ_lt_succ hn) x y z ?_ hxo ?_ hzo ?_
    · rw [at?, ha]
      exact hx
    · rw [at?, hc]
      exact hz
    · rw [at?, hb]
      exact hy
  · rintro ⟨hroot, hmembers⟩ path hn x y z hx hxo hz hzo hy
    cases path with
    | nil =>
      cases hx
      cases hz
      cases hy
      exact hroot hxo hzo
    | cons key path =>
      obtain ⟨a, ha, hx⟩ := Option.bind_eq_some_iff.mp hx
      obtain ⟨b, hb, hy⟩ := Option.bind_eq_some_iff.mp hy
      obtain ⟨c, hc, hz⟩ := Option.bind_eq_some_iff.mp hz
      exact hmembers key a b c ha hb hc path (Nat.lt_of_succ_lt_succ hn) x y z hx hxo hz hzo hy

theorem unite_assoc (n : Nat) {first middle last : Json} (hfirst : first.Ordered)
    (hmiddle : middle.Ordered) (hlast : last.Ordered) (h : Unbroken n first middle last) :
    unite n (unite n first middle) last = unite n first (unite n middle last) := by
  induction n generalizing first middle last with
  | zero => simp only [unite_zero]
  | succ n ih =>
    obtain ⟨hroot, hmembers⟩ := unbroken_succ_iff.mp h
    by_cases hl : last.isObject = true
    · by_cases hf : first.isObject = true
      · have hm : middle.isObject = true := hroot hf hl
        have hleft : (unite (n + 1) first middle).Ordered := ordered_unite _ hfirst hmiddle
        have hright : (unite (n + 1) middle last).Ordered := ordered_unite _ hmiddle hlast
        have hleftObject : (unite (n + 1) first middle).isObject = true := isObject_unite hm
        have hrightObject : (unite (n + 1) middle last).isObject = true := isObject_unite hl
        refine (ordered_unite _ hleft hlast).eq_of_get?_eq (ordered_unite _ hfirst hright)
          ⟨isObject_unite hl, isObject_unite hrightObject⟩ fun key => ?_
        rw [get?_unite hlast ⟨hleftObject, hl⟩, get?_unite hmiddle ⟨hf, hm⟩,
          get?_unite hright ⟨hf, hrightObject⟩, get?_unite hlast ⟨hm, hl⟩]
        -- only a key of all three documents needs the induction
        cases ha : first.get? key with
        | none => cases middle.get? key <;> cases last.get? key <;> rfl
        | some a =>
          cases hb : middle.get? key with
          | none => cases last.get? key <;> rfl
          | some b =>
            cases hc : last.get? key with
            | none => rfl
            | some c =>
              have hbelow : Unbroken n a b c := hmembers key a b c ha hb hc
              exact congrArg some (ih (hfirst.get? ha) (hmiddle.get? hb) (hlast.get? hc) hbelow)
      · -- nothing is left of the first document
        simp only [unite_of_not_isObject _ fun hobjects => hf hobjects.1]
    · -- the last document replaces all
      simp only [unite_of_not_isObject _ fun hobjects => hl hobjects.2]

def uniteAll (first : Json) (rest : List Json) : Json := rest.foldl uniteSchemas first

theorem uniteAll_concat (first : Json) (rest : List Json) (last : Json) :
    uniteAll first (rest ++ [last]) = uniteSchemas (uniteAll first rest) last := by
  simp [uniteAll]

theorem ordered_uniteAll {first : Json} {rest : List Json} (hfirst : first.Ordered)
    (hrest : ∀ d ∈ rest, d.Ordered) : (uniteAll first rest).Ordered := by
  induction rest using List.reverseRecOn with
  | nil => exact hfirst
  | append_singleton rest last ih =>
    rw [uniteAll_concat]
    exact ordered_unite _ (ih fun d hd => hrest d (List.mem_append_left _ hd))
      (hrest last (List.mem_append_right _ (List.mem_singleton_self last)))

/-- Where a union holds an object, one of the two documents does, and where it holds some other
value, one of them holds such a value as well. -/
theorem exists_kind_of_at?_unite {n : Nat} {left right v : Json} {path : List String}
    (hr : right.Ordered) (hn : path.length ≤ n) (h : (unite n left right).at? path = some v) :
    ∃ w, (left.at? path = some w ∨ right.at? path = some w) ∧ w.isObject = v.isObject := by
  cases hright : right.at? path with
  | none => exact ⟨v, .inl ((at?_unite_of_not_right hr hn hright v).mp h).1, rfl⟩
  | some r =>
    refine ⟨r, .inr rfl, ?_⟩
    cases hleft : left.at? path with
    | none =>
      rw [at?_unite_of_right hr hn hleft hright] at h
      exact congrArg isObject (Option.some.inj h)
    | some l =>
      rw [at?_unite_of_both hr hn hleft hright] at h
      rw [← Option.some.inj h]
      by_cases hobject : r.isObject = true
      · rw [hobject, isObject_unite hobject]
      · rw [unite_of_not_isObject _ fun hobjects => hobject hobjects.2]

theorem exists_kind_of_at?_uniteAll {first v : Json} {rest : List Json} {path : List String}
    (hrest : ∀ d ∈ rest, d.Ordered) (hn : path.length < schemaLevels)
    (h : (uniteAll first rest).at? path = some v) :
    ∃ d ∈ first :: rest, ∃ w, d.at? path = some w ∧ w.isObject = v.isObject := by
  induction rest using List.reverseRecOn generalizing v with
  | nil => exact ⟨first, List.mem_singleton_self first, v, h, rfl⟩
  | append_singleton rest last ih =>
    rw [uniteAll_concat] at h
    have hlast : last ∈ rest ++ [last] := List.mem_append_right _ (List.mem_singleton_self last)
    obtain ⟨w, hw | hw, hkind⟩ := exists_kind_of_at?_unite (hrest last hlast) (Nat.le_of_lt hn) h
    · obtain ⟨d, hd, u, hu, hukind⟩ := ih (fun d hd => hrest d (List.mem_append_left _ hd)) hw
      exact ⟨d, List.mem_append_left [last] hd, u, hu, hukind.trans hkind⟩
    · exact ⟨last, List.mem_cons_of_mem _ hlast, w, hw, hkind⟩

/-- No document of the list breaks an object that one before it and one after it have. -/
def AllUnbroken (docs : List Json) : Prop :=
  ∀ first middle last, [first, middle, last].Sublist docs →
    Unbroken schemaLevels first middle last

theorem AllUnbroken.sublist {docs others : List Json} (h : AllUnbroken docs)
    (hsub : others.Sublist docs) : AllUnbroken others :=
  fun first middle last ht => h first middle last (ht.trans hsub)

/-- The unions of two groups and a document after them are as unbroken as their members are. -/
theorem AllUnbroken.uniteAll {first first' last : Json} {rest rest' : List Json}
    (h : AllUnbroken ((first :: rest) ++ (first' :: rest') ++ [last]))
    (hrest : ∀ d ∈ rest, d.Ordered) (hrest' : ∀ d ∈ rest', d.Ordered) :
    Unbroken schemaLevels (uniteAll first rest) (uniteAll first' rest') last := by
  intro path hn a b c ha hao hc hco hb
  obtain ⟨d, hd, w, hw, hkind⟩ := exists_kind_of_at?_uniteAll hrest hn ha
  obtain ⟨d', hd', w', hw', hkind'⟩ := exists_kind_of_at?_uniteAll hrest' hn hb
  have hsub : [d, d', last].Sublist ((first :: rest) ++ (first' :: rest') ++ [last]) :=
    ((List.singleton_sublist.mpr hd).append (List.singleton_sublist.mpr hd')).append
      (List.Sublist.refl [last])
  rw [← hkind']
  exact h d d' last hsub path hn w w' c hw (hkind.trans hao) hc hco hw'

/-- Two groups may be united each for itself before they are united. -/
theorem uniteSchemas_uniteAll {first first' : Json} {rest rest' : List Json}
    (hordered : ∀ d ∈ (first :: rest) ++ (first' :: rest'), d.Ordered)
    (h : AllUnbroken ((first :: rest) ++ (first' :: rest'))) :
    uniteSchemas (uniteAll first rest) (uniteAll first' rest') =
      uniteAll first (rest ++ first' :: rest') := by
  -- on the second group from its end, since a document is united with all those before it
  induction rest' using List.reverseRecOn with
  | nil => exact (uniteAll_concat first rest first').symm
  | append_singleton rest' last ih =>
    have hlist : (first :: rest) ++ (first' :: (rest' ++ [last])) =
        (first :: rest) ++ (first' :: rest') ++ [last] := by simp
    rw [hlist] at hordered h
    have hfront : ∀ d ∈ (first :: rest) ++ (first' :: rest'), d.Ordered :=
      fun d hd => hordered d (List.mem_append_left _ hd)
    obtain ⟨hleft, hright⟩ := List.forall_mem_append.mp hfront
    obtain ⟨hfirst, hrest⟩ := List.forall_mem_cons.mp hleft
    obtain ⟨hfirst', hrest'⟩ := List.forall_mem_cons.mp hright
    have hlast : last.Ordered :=
      hordered last (List.mem_append_right _ (List.mem_singleton_self last))
    have hjoined := ih hfront (h.sublist (List.sublist_append_left _ _))
    calc uniteSchemas (uniteAll first rest) (uniteAll first' (rest' ++ [last]))
        = uniteSchemas (uniteAll first rest) (uniteSchemas (uniteAll first' rest') last) := by
          rw [uniteAll_concat first']
      _ = uniteSchemas (uniteSchemas (uniteAll first rest) (uniteAll first' rest')) last :=
          (unite_assoc schemaLevels (ordered_uniteAll hfirst hrest)
            (ordered_uniteAll hfirst' hrest') hlast (h.uniteAll hrest hrest')).symm
      _ = uniteSchemas (uniteAll first (rest ++ first' :: rest')) last := by rw [hjoined]
      _ = uniteAll first (rest ++ first' :: (rest' ++ [last])) := by
          rw [← uniteAll_concat, List.append_assoc, List.cons_append]

/-- A way to group a list of documents into pairs. -/
inductive Grouping where
  | document (d : Json)
  | pair (left right : Grouping)

namespace Grouping

def documents : Grouping → List Json
  | document d => [d]
  | pair left right => left.documents ++ right.documents

/-- The union of the documents, pair by pair. -/
def union : Grouping → Json
  | document d => d
  | pair left right => uniteSchemas left.union right.union

theorem exists_documents_eq_cons (g : Grouping) : ∃ first rest, g.documents = first :: rest := by
  induction g with
  | document d => exact ⟨d, [], rfl⟩
  | pair left right ihl _ =>
    obtain ⟨first, rest, h⟩ := ihl
    exact ⟨first, rest ++ right.documents, by rw [documents, h, List.cons_append]⟩

theorem union_eq_uniteAll {g : Grouping} (hordered : ∀ d ∈ g.documents, d.Ordered)
    (h : AllUnbroken g.documents) {first : Json} {rest : List Json}
    (hg : g.documents = first :: rest) : g.union = uniteAll first rest := by
  induction g generalizing first rest with
  | document d =>
    obtain ⟨rfl, rfl⟩ := List.cons.inj hg
    rfl
  | pair left right ihl ihr =>
    rw [documents] at hordered h hg
    obtain ⟨a, as, hl⟩ := left.exists_documents_eq_cons
    obtain ⟨b, bs, hr⟩ := right.exists_documents_eq_cons
    have hleft := ihl (fun d hd => hordered d (List.mem_append_left _ hd))
      (h.sublist (List.sublist_append_left _ _)) hl
    have hright := ihr (fun d hd => hordered d (List.mem_append_right _ hd))
      (h.sublist (List.sublist_append_right _ _)) hr
    rw [hl, hr] at hordered h hg
    obtain ⟨hfirst, hrest⟩ := List.cons.inj hg
    rw [union, hleft, hright, uniteSchemas_uniteAll hordered h, ← hfirst, ← hrest]
    rfl

end Grouping

/-- Three documents may be united in either order of grouping if the one in the middle is unbroken,
and a list of documents in groups of any kind if this holds of any three in the order of the list. -/
theorem uniteSchemas_regroups :
    (∀ first middle last : Json, first.Ordered → middle.Ordered → last.Ordered →
      Unbroken schemaLevels first middle last →
      uniteSchemas (uniteSchemas first middle) last =
        uniteSchemas first (uniteSchemas middle last)) ∧
    (∀ g : Grouping, (∀ d ∈ g.documents, d.Ordered) → AllUnbroken g.documents →
      ∀ first rest, g.documents = first :: rest → g.union = uniteAll first rest) :=
  ⟨fun _ _ _ => unite_assoc schemaLevels,
    fun _ hordered h _ _ => Grouping.union_eq_uniteAll hordered h⟩

theorem unbroken_singleton {n : Nat} (key : String) {a b c : Json} (h : Unbroken n a b c) :
    Unbroken (n + 1) (.object [(key, a)]) (.object [(key, b)]) (.object [(key, c)]) := by
  have hsingle : ∀ {other : String} {value member : Json},
      (Json.object [(key, value)]).get? other = some member → value = member := by
    intro other value member hg
    exact (Prod.mk.inj (List.mem_singleton.mp (Table.mem_of_get? hg))).2.symm
  refine unbroken_succ_iff.mpr ⟨fun _ _ => rfl, fun other x y z hx hy hz => ?_⟩
  rw [← hsingle hx, ← hsingle hy, ← hsingle hz]
  exact h

theorem allUnbroken_of_three {first middle last : Json}
    (h : Unbroken schemaLevels first middle last) : AllUnbroken [first, middle, last] := by
  intro a b c hsub
  cases hsub.eq_of_length rfl
  exact h

def memberSchema (key : String) (value : Json) : Json :=
  .object [("$defs", .object [("x", .object [(key, value)])])]

theorem uniteSchemas_regroups_members :
    let a := memberSchema "p" (.bool true)
    let b := memberSchema "q" .null
    let c := memberSchema "p" (.bool false)
    Unbroken schemaLevels a b c ∧
      uniteSchemas (uniteSchemas a b) c = uniteSchemas a (uniteSchemas b c) ∧
      (Grouping.pair (.document a) (.pair (.document b) (.document c))).union =
        uniteAll a [b, c] := by
  intro a b c
  have ha : a.Ordered := by decide +kernel
  have hb : b.Ordered := by decide +kernel
  have hc : c.Ordered := by decide +kernel
  have hunbroken : Unbroken schemaLevels a b c := by
    refine unbroken_singleton _ (unbroken_singleton _ ?_)
    exact unbroken_succ_iff.mpr ⟨fun _ _ => rfl, fun _ x y z _ _ _ => unbroken_zero x y z⟩
  obtain ⟨hassoc, hgroups⟩ := uniteSchemas_regroups
  refine ⟨hunbroken, hassoc a b c ha hb hc hunbroken, hgroups _ ?_ ?_ a [b, c] rfl⟩
  · simp [Grouping.documents, ha, hb, hc]
  · exact allUnbroken_of_three hunbroken

/-- A value in the middle that is no object makes a difference. -/
example :
    let a := memberSchema "p" .null
    let b := Json.object [("$defs", .null)]
    let c := memberSchema "q" .null
    (uniteSchemas (uniteSchemas a b) c == uniteSchemas a (uniteSchemas b c)) = false := by
  decide +kernel

end TraitSchema.Json
