import Mathlib.Data.List.Forall2
import ProductQuery.Proofs.SelectedRecords
/-!
# Proofs.MergedFilters — filters put together

A filter is a conjunction of its parts.  Two filters that are merged into one document (`Json.merge`) are read exactly
if both are, and a record satisfies what is read exactly if it satisfies both (`Composes`).  So it is with entries that
are added to a filter: each counts by itself, and neither their order matters nor how the operators on a field are
shared out among them (`CountsEntries`).

What carries the proofs is that a merged object has the members of both, those of one name joined
(`Json.member?_merge`).  A property that joined objects have if both have it (`Json.Splits`) then holds of what is under
a name in the merged object if it holds of what is under that name in both.
-/
namespace ProductQuery

/-! ## Documents put together -/

namespace Json

/-- Two objects as one; of other values the second. -/
def join : Json → Json → Json
  | .object xs, .object ys => .object (orderMembers (xs ++ ys))
  | _, w => w

/-- The members of two objects, where those of one name are joined. -/
def mergeMembers (xs ys : List (String × Json)) : List (String × Json) :=
  orderMembers (ys ++ xs.map (fun m => (m.1, (member? m.1 ys).elim m.2 m.2.join)))

/-- Two objects as one, in which what both have under a name is joined; of other values the second. -/
def merge : Json → Json → Json
  | .object xs, .object ys => .object (mergeMembers xs ys)
  | _, w => w

/-- Two objects that have no name in common. -/
structure Joins (v w : Json) : Prop where
  left : v.IsObject
  right : w.IsObject
  apart : ∀ name a b, v.Has name a → ¬w.Has name b

/-- Two objects that have at most known names in common, and under such a name objects to be joined. -/
structure Merges (known : List String) (v w : Json) : Prop where
  left : v.IsObject
  right : w.IsObject
  shared : ∀ name a b, v.Has name a → w.Has name b → name ∈ known ∧ a.Joins b

variable {v w : Json} {xs ys : List (String × Json)} {known : List String} {P : Json → Prop}

theorem member?_orderMembers_append (hxs : IsOrdered (.object xs)) (hys : (ys.map Prod.fst).Nodup) (name : String) :
    member? name (orderMembers (xs ++ ys)) = (member? name ys).or (member? name xs) := by
  rw [member?_orderMembers, List.reverse_append, member?_append, member?_reverse_of_nodup hys,
    member?_reverse_of_nodup hxs.keys_nodup]

theorem isOrdered_join (hv : v.IsOrdered) (hw : w.IsOrdered) : (v.join w).IsOrdered := by
  unfold join
  split
  · refine isOrdered_orderMembers fun m hm => ?_
    rcases List.mem_append.1 hm with hm | hm
    · exact hv.of_has hm
    · exact hw.of_has hm
  · exact hw

theorem has_join (hv : v.IsOrdered) (hw : w.IsOrdered) (h : v.Joins w) (name : String) (u : Json) :
    (v.join w).Has name u ↔ v.Has name u ∨ w.Has name u := by
  have hvw := isOrdered_join hv hw
  have hapart := h.apart name u
  obtain ⟨xs, rfl⟩ := h.left
  obtain ⟨ys, rfl⟩ := h.right
  have hmember := member?_orderMembers_append hv hw.keys_nodup name
  simp only [join] at hvw ⊢
  simp only [← hvw.member?_eq_some_iff, ← hv.member?_eq_some_iff, ← hw.member?_eq_some_iff, hmember] at hapart ⊢
  cases hy : member? name ys with
  | none => simp
  | some b =>
    have hx : member? name xs ≠ some u := fun hx => hapart b hx hy
    simp [hx]

/-- **What a merged object has under a name**: what one of the two has, or what both have, joined. -/
theorem member?_merge (hxs : IsOrdered (.object xs)) (hys : IsOrdered (.object ys)) (name : String) :
    member? name (mergeMembers xs ys) = Option.merge join (member? name xs) (member? name ys) := by
  have hmap : (xs.map (fun m => (m.1, (member? m.1 ys).elim m.2 m.2.join))).map Prod.fst = xs.map Prod.fst := by
    rw [List.map_map]
    rfl
  -- What both have stands in the list twice.  The joined member is the last of the two, so it is the one that stays.
  rw [mergeMembers, member?_orderMembers_append hys (hmap ▸ hxs.keys_nodup),
    member?_map (fun key v => (member? key ys).elim v v.join)]
  cases member? name xs <;> cases member? name ys <;> rfl

theorem isOrdered_mergeMembers (hxs : IsOrdered (.object xs)) (hys : IsOrdered (.object ys)) :
    IsOrdered (.object (mergeMembers xs ys)) := by
  refine isOrdered_orderMembers fun m hm => ?_
  rcases List.mem_append.1 hm with hm | hm
  · exact hys.of_has hm
  · obtain ⟨n, hn, rfl⟩ := List.mem_map.1 hm
    have hvalue : n.2.IsOrdered := hxs.of_has hn
    cases hy : member? n.1 ys with
    | none => exact hvalue
    | some b => exact isOrdered_join hvalue (hys.of_member? hy)

/-- What is asked of all that a merged object has under a name is asked of all that the two have. -/
theorem forall_has_merge (hv : v.IsOrdered) (hw : w.IsOrdered) (h : v.Merges known w) (name : String)
    (hP : ∀ a b, v.Has name a → w.Has name b → (P (a.join b) ↔ P a ∧ P b)) :
    (∀ u, (v.merge w).Has name u → P u) ↔ (∀ a, v.Has name a → P a) ∧ ∀ b, w.Has name b → P b := by
  obtain ⟨xs, rfl⟩ := h.left
  obtain ⟨ys, rfl⟩ := h.right
  have hvw := isOrdered_mergeMembers hv hw
  simp only [merge, ← hvw.member?_eq_some_iff, ← hv.member?_eq_some_iff, ← hw.member?_eq_some_iff,
    member?_merge hv hw] at hP ⊢
  cases hx : member? name xs with
  | none => simp
  | some a =>
    cases hy : member? name ys with
    | none => simp
    | some b => simpa using hP a b hx hy

theorem exists_has_merge (hv : v.IsOrdered) (hw : w.IsOrdered) (h : v.Merges known w) (name : String) :
    (∃ u, (v.merge w).Has name u) ↔ (∃ a, v.Has name a) ∨ ∃ b, w.Has name b := by
  -- Nothing is under a name in both exactly if nothing is in either.
  have hnone := forall_has_merge (P := fun _ => False) hv hw h name (fun _ _ _ _ => (and_self_iff).symm)
  simpa only [Classical.not_forall, not_false_eq_true, exists_prop, and_true, Classical.not_and_iff_not_or_not]
    using not_congr hnone

theorem Merges.isObject_merge (h : v.Merges known w) : (v.merge w).IsObject := by
  obtain ⟨xs, rfl⟩ := h.left
  obtain ⟨ys, rfl⟩ := h.right
  exact ⟨_, rfl⟩

theorem mem_keys_iff {name : String} : name ∈ xs.map Prod.fst ↔ ∃ v, (Json.object xs).Has name v := by
  rw [List.mem_map]
  constructor
  · rintro ⟨m, hm, rfl⟩
    exact ⟨m.2, hm⟩
  · rintro ⟨v, hv⟩
    exact ⟨(name, v), hv, rfl⟩

/-! ## Properties of joined objects -/

/-- Joined objects have a property if both have it. -/
def Splits (P : Json → Prop) : Prop := ∀ v w : Json, v.IsOrdered → w.IsOrdered → v.Joins w → (P (v.join w) ↔ P v ∧ P w)

theorem splits_isObject : Splits IsObject := by
  intro v w _ _ h
  refine iff_of_true ?_ ⟨h.left, h.right⟩
  obtain ⟨xs, rfl⟩ := h.left
  obtain ⟨ys, rfl⟩ := h.right
  exact ⟨_, rfl⟩

/-- What is asked of every member is asked of the members of both. -/
theorem splits_forall_has (Q : String → Json → Prop) : Splits (fun v => ∀ name u, v.Has name u → Q name u) := by
  intro v w hv hw h
  simp only [has_join hv hw h, or_imp, forall_and]

theorem splits_holdsOf (t : FieldValue) : Splits (HoldsOf · t) := splits_forall_has t.Demanded

theorem Splits.forall_has_merge (hP : Splits P) (hv : v.IsOrdered) (hw : w.IsOrdered) (h : v.Merges known w)
    (name : String) : (∀ u, (v.merge w).Has name u → P u) ↔ (∀ a, v.Has name a → P a) ∧ ∀ b, w.Has name b → P b :=
  Json.forall_has_merge hv hw h name fun a b ha hb =>
    hP a b (hv.of_has ha) (hw.of_has hb) (h.shared name a b ha hb).2

theorem forall_named_has_merge {N : Type} {P : N → Json → Prop} (name : N → String) (hP : ∀ n, Splits (P n))
    (hv : v.IsOrdered) (hw : w.IsOrdered) (h : v.Merges known w) : (∀ n u, (v.merge w).Has (name n) u → P n u) ↔
      (∀ n a, v.Has (name n) a → P n a) ∧ ∀ n b, w.Has (name n) b → P n b :=
  (forall_congr' fun n => (hP n).forall_has_merge hv hw h (name n)).trans forall_and

theorem joins_single {name name' : String} (h : name ≠ name') (v w : Json) :
    (Json.object [(name, v)]).Joins (.object [(name', w)]) :=
  ⟨⟨_, rfl⟩, ⟨_, rfl⟩, fun _ _ _ ha hb => h ((has_single.1 ha).1.symm.trans (has_single.1 hb).1)⟩

/-- The unknown names of a merged object are those of both. -/
theorem unknown_mergeMembers (hv : IsOrdered (.object xs)) (hw : IsOrdered (.object ys))
    (h : (Json.object xs).Merges known (.object ys)) :
    (((mergeMembers xs ys).map Prod.fst).filter (· ∉ known)).Perm
      ((xs.map Prod.fst).filter (· ∉ known) ++ (ys.map Prod.fst).filter (· ∉ known)) := by
  have hxs := hv.keys_nodup.filter (· ∉ known)
  have hys := hw.keys_nodup.filter (· ∉ known)
  have hmerged := (isOrdered_mergeMembers hv hw).keys_nodup.filter (· ∉ known)
  refine (List.perm_ext_iff_of_nodup hmerged (List.nodup_append.2 ⟨hxs, hys, ?_⟩)).2 fun name => ?_
  -- A name of both is known, so it is in neither list.
  · rintro name hx _ hy rfl
    simp only [List.mem_filter, mem_keys_iff, decide_eq_true_eq] at hx hy
    obtain ⟨⟨a, ha⟩, hunknown⟩ := hx
    obtain ⟨⟨b, hb⟩, -⟩ := hy
    exact hunknown (h.shared name a b ha hb).1
  · have hname := exists_has_merge hv hw h name
    simp only [merge] at hname
    simp only [List.mem_append, List.mem_filter, mem_keys_iff, decide_eq_true_eq, hname, or_and_right]

end Json

/-! ## Filters that are conjunctions -/

namespace Engine

variable {R F K : Type} [Queryable R F K]

/-- A filter is let through, and then excludes every record or not, as its unknown fields and the policy have it. -/
theorem exclusion_some_eq_ok_iff (policy : Policy) (f : F) (x : Bool) : exclusion R policy (some f) = .ok x ↔
    (Queryable.unknownFields R f = [] ∧ x = false) ∨
      (Queryable.unknownFields R f ≠ [] ∧ policy = .lenient ∧ x = true) := by
  cases hu : Queryable.unknownFields R f with
  | nil => simp [exclusion, hu, eq_comm]
  | cons name rest => cases policy <;> simp [exclusion, hu, eq_comm]

/-- **Filtering by a conjunction is filtering by one part and then by the other.** -/
theorem matching_matching {f g h : F}
    (hsatisfies : ∀ r : R, Queryable.satisfies r h = (Queryable.satisfies r f && Queryable.satisfies r g))
    (records : List R) (x y : Bool) :
    matching (matching records x (some f)) y (some g) = matching records (x || y) (some h) := by
  have hboth : (fun r : R => Queryable.satisfies r h) = fun r => Queryable.satisfies r g && Queryable.satisfies r f :=
    funext fun r => (hsatisfies r).trans (Bool.and_comm _ _)
  cases x with
  | true => cases y <;> rfl
  | false =>
    cases y with
    | true => rfl
    | false => simp only [matching, Bool.or_false, Bool.false_eq_true, if_false, List.filter_filter, hboth]

end Engine

/-- A filter of a kind of record is the conjunction of two others. -/
structure IsConjunction (R : Type) {F K : Type} [Queryable R F K] (f g h : F) : Prop where
  /-- The unknown fields are those of both, in increasing order. -/
  unknownFields : (Queryable.unknownFields R h).Perm (Queryable.unknownFields R f ++ Queryable.unknownFields R g) ∧
    (Queryable.unknownFields R h).Pairwise (compare · · = .lt)
  satisfies : ∀ r : R, Queryable.satisfies r h = (Queryable.satisfies r f && Queryable.satisfies r g)
  /-- What becomes of unknown fields: the filter is let through if both are, and excludes all records if one does. -/
  exclusion : ∀ policy x, Engine.exclusion R policy (some h) = .ok x ↔
    ∃ y z, Engine.exclusion R policy (some f) = .ok y ∧ Engine.exclusion R policy (some g) = .ok z ∧ x = (y || z)
  /-- To filter by it is to filter by the one and then by the other. -/
  matching : ∀ (records : List R) y z,
    Engine.matching (Engine.matching records y (some f)) z (some g) = Engine.matching records (y || z) (some h)
  matching_swapped : ∀ (records : List R) y z,
    Engine.matching (Engine.matching records z (some g)) y (some f) = Engine.matching records (y || z) (some h)

/-- **Two documents compose**: merged they are a filter if both are, and the filter is their conjunction. -/
structure Composes (R : Type) {F K : Type} [Queryable R F K] (v w : Json) : Prop where
  isRead : (∃ h, Queryable.readFilter R (v.merge w) = .ok h) ↔
    (∃ f, Queryable.readFilter R v = .ok f) ∧ ∃ g, Queryable.readFilter R w = .ok g
  isConjunction : ∀ f g h, Queryable.readFilter R v = .ok f → Queryable.readFilter R w = .ok g →
    Queryable.readFilter R (v.merge w) = .ok h → IsConjunction R f g h

section

variable {R F K : Type} [Queryable R F K]

theorem IsConjunction.of_satisfies {f g h : F}
    (hperm : (Queryable.unknownFields R h).Perm (Queryable.unknownFields R f ++ Queryable.unknownFields R g))
    (hsorted : (Queryable.unknownFields R h).Pairwise (compare · · = .lt))
    (hsatisfies : ∀ r : R, Queryable.satisfies r h = (Queryable.satisfies r f && Queryable.satisfies r g)) :
    IsConjunction R f g h where
  unknownFields := ⟨hperm, hsorted⟩
  satisfies := hsatisfies
  exclusion := by
    intro policy x
    have hnil : Queryable.unknownFields R h = [] ↔
        Queryable.unknownFields R f = [] ∧ Queryable.unknownFields R g = [] := by
      rw [← List.append_eq_nil_iff]
      exact ⟨fun h => (h ▸ hperm).symm.eq_nil, fun h => (h ▸ hperm).eq_nil⟩
    simp only [Engine.exclusion_some_eq_ok_iff, ne_eq, hnil]
    by_cases hf : Queryable.unknownFields R f = [] <;> by_cases hg : Queryable.unknownFields R g = [] <;> simp [hf, hg]
  matching := Engine.matching_matching hsatisfies
  matching_swapped := by
    intro records y z
    rw [Bool.or_comm]
    exact Engine.matching_matching (fun r => (hsatisfies r).trans (Bool.and_comm _ _)) records z y

/-- **Documents of a grammar compose** where its notion of a filter and what a filter demands go through merging. -/
theorem Composes.of_grammar {isFilter : Json → Prop} {known : List String} {meets : R → Json → Prop} {v w : Json}
    (grammar : FilterGrammar R isFilter known) (hv : v.IsOrdered) (hw : w.IsOrdered) (h : v.Merges known w)
    (hmeets : ∀ (members : List (String × Json)) (f : F), Queryable.readFilter R (.object members) = .ok f →
      (Json.object members).IsOrdered → ∀ r, Queryable.satisfies r f = true ↔ meets r (.object members))
    (hfilter : isFilter (v.merge w) ↔ isFilter v ∧ isFilter w)
    (hboth : ∀ r, meets r (v.merge w) ↔ meets r v ∧ meets r w) : Composes R v w := by
  obtain ⟨xs, rfl⟩ := h.left
  obtain ⟨ys, rfl⟩ := h.right
  have hmerged := Json.isOrdered_mergeMembers hv hw
  refine ⟨?_, fun f g m hf hg hm => .of_satisfies ?_ ?_ fun r => ?_⟩
  · rw [grammar.exists_read_iff hv, grammar.exists_read_iff hw]
    exact (grammar.exists_read_iff hmerged).trans hfilter
  · rw [grammar.unknownFields hf, grammar.unknownFields hg, grammar.unknownFields hm]
    exact Json.unknown_mergeMembers hv hw h
  · rw [grammar.unknownFields hm]
    exact hmerged.keys_pairwise.filter _
  · rw [Bool.eq_iff_iff, Bool.and_eq_true, hmeets _ _ hm hmerged, hmeets _ _ hf hv, hmeets _ _ hg hw]
    exact hboth r

end

/-! ## Filters of products -/

namespace ProductFilter

variable {v w : Json}

theorem splits_isAttributes : Json.Splits IsAttributes := by
  intro v w hv hw h
  have hobject := Json.splits_isObject v w hv hw h
  have hoperators := fun op : OperatorName => Json.splits_forall_has (fun name _ => name ≠ op.name) v w hv hw h
  have hentries := Json.splits_forall_has (fun _ entry => AttributeFilter.IsEntry entry) v w hv hw h
  constructor
  · rintro ⟨hvw, hno, hall⟩
    obtain ⟨hleft, hright⟩ := hentries.1 hall
    simp only [Json.has_join hv hw h, not_or] at hno
    exact ⟨⟨h.left, fun op u => (hno op u).1, hleft⟩, h.right, fun op u => (hno op u).2, hright⟩
  · rintro ⟨hleft, hright⟩
    refine ⟨hobject.2 ⟨hleft.object, hright.object⟩, fun op u => ?_, hentries.2 ⟨hleft.entries, hright.entries⟩⟩
    rw [Json.has_join hv hw h, not_or]
    exact ⟨hleft.noOperator op u, hright.noOperator op u⟩

theorem isFilter_merge (hv : v.IsOrdered) (hw : w.IsOrdered) (h : v.Merges knownNames w) :
    IsFilter (v.merge w) ↔ IsFilter v ∧ IsFilter w := by
  have hfields := Json.forall_named_has_merge ProductField.name (fun _ => Json.splits_isObject) hv hw h
  have hattributes := splits_isAttributes.forall_has_merge hv hw h "attributes"
  constructor
  · rintro ⟨-, hf, ha⟩
    obtain ⟨hf, hf'⟩ := hfields.1 hf
    obtain ⟨ha, ha'⟩ := hattributes.1 ha
    exact ⟨⟨h.left, hf, ha⟩, h.right, hf', ha'⟩
  · rintro ⟨⟨-, hf, ha⟩, -, hf', ha'⟩
    exact ⟨h.isObject_merge, hfields.2 ⟨hf, hf'⟩, hattributes.2 ⟨ha, ha'⟩⟩

/-- **A product meets a merged document if it meets both.** -/
theorem meets_merge (hv : v.IsOrdered) (hw : w.IsOrdered) (h : v.Merges knownNames w) (p : Product) :
    p.Meets (v.merge w) ↔ p.Meets v ∧ p.Meets w := by
  have hfields := Json.forall_named_has_merge ProductField.name (fun f => Json.splits_holdsOf (p.field f)) hv hw h
  have hattributes := (Json.splits_forall_has p.MeetsEntry).forall_has_merge hv hw h "attributes"
  rw [Product.meets_iff, Product.meets_iff, Product.meets_iff]
  constructor
  · rintro ⟨hf, ha⟩
    obtain ⟨hf, hf'⟩ := hfields.1 hf
    obtain ⟨ha, ha'⟩ := hattributes.1 ha
    exact ⟨⟨hf, ha⟩, hf', ha'⟩
  · rintro ⟨⟨hf, ha⟩, hf', ha'⟩
    exact ⟨hfields.2 ⟨hf, hf'⟩, hattributes.2 ⟨ha, ha'⟩⟩

theorem composes (hv : v.IsOrdered) (hw : w.IsOrdered) (h : v.Merges knownNames w) : Composes Product v w :=
  .of_grammar grammar hv hw h (fun _ _ => satisfies_readMembers) (isFilter_merge hv hw h) (meets_merge hv hw h)

end ProductFilter

/-! ## Filters of definitions -/

/-- What a filter demands of a definition. -/
def Definition.Meets (d : Definition) (filter : Json) : Prop :=
  ∀ (f : DefinitionField) entry, filter.Has f.wireName entry → entry.HoldsOf (d.field f)

namespace DefinitionFilter

variable {v w : Json}

theorem satisfies_readMembers {d : Definition} : ∀ {members : List (String × Json)} {f : DefinitionFilter},
    readMembers members = .ok f → (d.satisfies f = true ↔ d.Meets (.object members))
  | [], f, h => by
    obtain rfl := Except.ok.inj h
    exact iff_of_true rfl (fun _ _ hm => by cases hm)
  | (name, entry) :: rest, f, h => by
    obtain ⟨g, hg, hcases⟩ := readMembers_cons_eq_ok h
    have ih := satisfies_readMembers (d := d) hg
    rcases hcases with ⟨field, c, rfl, hc, rfl⟩ | ⟨hno, rfl⟩
    · unfold Definition.satisfies at ih ⊢
      rw [List.all_cons, Bool.and_eq_true, Condition.holds_of_read hc, ih]
      exact (ProductFilter.forall_mem_cons_of_name (P := fun a v => v.HoldsOf (d.field a))
        DefinitionField.wireName_inj).symm
    · refine ih.trans (forall_congr' fun field => ?_)
      exact (ProductFilter.forall_mem_cons_of_ne (hno field)).symm

theorem isFilter_merge (hv : v.IsOrdered) (hw : w.IsOrdered) (h : v.Merges knownNames w) :
    IsFilter (v.merge w) ↔ IsFilter v ∧ IsFilter w := by
  have hfields := Json.forall_named_has_merge DefinitionField.wireName (fun _ => Json.splits_isObject) hv hw h
  constructor
  · rintro ⟨-, hf⟩
    obtain ⟨hf, hf'⟩ := hfields.1 hf
    exact ⟨⟨h.left, hf⟩, h.right, hf'⟩
  · rintro ⟨⟨-, hf⟩, -, hf'⟩
    exact ⟨h.isObject_merge, hfields.2 ⟨hf, hf'⟩⟩

/-- **A definition meets a merged document if it meets both.** -/
theorem meets_merge (hv : v.IsOrdered) (hw : w.IsOrdered) (h : v.Merges knownNames w) (d : Definition) :
    d.Meets (v.merge w) ↔ d.Meets v ∧ d.Meets w :=
  Json.forall_named_has_merge DefinitionField.wireName (fun f => Json.splits_holdsOf (d.field f)) hv hw h

theorem composes (hv : v.IsOrdered) (hw : w.IsOrdered) (h : v.Merges knownNames w) : Composes Definition v w :=
  .of_grammar grammar hv hw h (fun _ _ hread _ _ => satisfies_readMembers hread) (isFilter_merge hv hw h)
    (meets_merge hv hw h)

end DefinitionFilter

/-! ## Entries of filters -/

/-- The same up to a relation, in another order. -/
def Reordered {E : Type} (rel : E → E → Prop) (xs ys : List E) : Prop := ∃ zs, xs.Perm zs ∧ List.Forall₂ rel zs ys

theorem Reordered.all_eq {E : Type} {rel : E → E → Prop} {p : E → Bool} (hp : ∀ x y, rel x y → p x = p y)
    {xs ys : List E} (h : Reordered rel xs ys) : xs.all p = ys.all p := by
  obtain ⟨zs, hperm, hzs⟩ := h
  rw [hperm.all_eq]
  clear hperm
  induction hzs with
  | nil => rfl
  | cons hxy _ ih => rw [List.all_cons, List.all_cons, hp _ _ hxy, ih]

namespace Condition

variable {a b c d : Condition}

/-- The same operators in another order. -/
def Permutes (c d : Condition) : Prop := c.operators.Perm d.operators

/-- The operators of a condition are those of two others. -/
def IsSharedBy (c a b : Condition) : Prop := c.operators.Perm (a.operators ++ b.operators)

theorem Permutes.holds_eq (h : c.Permutes d) (t : FieldValue) : c.holds t = d.holds t := List.Perm.all_eq h

theorem IsSharedBy.holds_eq (h : c.IsSharedBy a b) (t : FieldValue) : c.holds t = (a.holds t && b.holds t) := by
  rw [holds, List.Perm.all_eq h, List.all_append]
  rfl

theorem Permutes.isNotExists_eq (h : c.Permutes d) : c.isNotExists = d.isNotExists := by
  have hsingle : ∀ c : Condition, c.isNotExists = true ↔ c.operators = [.exists (.bool false)] := by
    intro c
    unfold isNotExists
    split <;> simp_all
  rw [Bool.eq_iff_iff, hsingle, hsingle]
  constructor
  · exact fun hc => List.perm_singleton.1 (hc ▸ h.symm)
  · exact fun hd => List.perm_singleton.1 (hd ▸ h)

theorem Permutes.holdsWithin_eq (h : c.Permutes d) (t : FieldValue) : c.holdsWithin t = d.holdsWithin t := by
  have hholds : c.holds = d.holds := funext h.holds_eq
  unfold holdsWithin
  rw [hholds]

theorem all_holds_eq {c d : Option Condition} (h : Option.Rel Permutes c d) (t : FieldValue) :
    c.all (·.holds t) = d.all (·.holds t) := by
  cases h with
  | none => rfl
  | some h => exact h.holds_eq t

end Condition

/-- The same conditions with their operators in another order. -/
inductive AttributeFilter.Permutes : AttributeFilter → AttributeFilter → Prop
  | plain {c d : Condition} (h : c.Permutes d) : Permutes (.plain c) (.plain d)
  | structured {value value' unit unit' : Option Condition} (hvalue : Option.Rel Condition.Permutes value value')
      (hunit : Option.Rel Condition.Permutes unit unit') : Permutes (.structured value unit) (.structured value' unit')

theorem AttributeFilter.Permutes.attributeSatisfies_eq {f g : AttributeFilter} (h : f.Permutes g) (p : Product)
    (key : String) : p.attributeSatisfies key f = p.attributeSatisfies key g := by
  unfold Product.attributeSatisfies
  cases h with
  | plain h =>
    cases p.attribute? key with
    | none => exact h.isNotExists_eq
    | some a => exact h.holdsWithin_eq _
  | structured hvalue hunit =>
    cases p.attribute? key with
    | none => rfl
    | some a =>
      obtain ⟨key, value⟩ := a
      cases value with
      | structured m =>
        show (_ && _) = (_ && _)
        rw [Condition.all_holds_eq hvalue, Condition.all_holds_eq hunit]
      | _ => rfl

namespace ProductFilter

/-- A part of a filter of products. -/
inductive Entry where
  | field (f : ProductField) (c : Condition)
  | attribute (key : String) (filter : AttributeFilter)

namespace Entry

def holds (p : Product) : Entry → Bool
  | .field f c => c.holds (p.field f)
  | .attribute key filter => p.attributeSatisfies key filter

/-- The same entry with its operators in another order. -/
inductive Permutes : Entry → Entry → Prop
  | field (f : ProductField) {c d : Condition} (h : c.Permutes d) : Permutes (.field f c) (.field f d)
  | attribute (key : String) {f g : AttributeFilter} (h : f.Permutes g) : Permutes (.attribute key f) (.attribute key g)

theorem Permutes.holds_eq (p : Product) {x y : Entry} (h : x.Permutes y) : x.holds p = y.holds p := by
  cases h with
  | field f h => exact h.holds_eq _
  | «attribute» key h => exact h.attributeSatisfies_eq p key

end Entry

def entries (f : ProductFilter) : List Entry :=
  f.fields.map (fun e => .field e.1 e.2) ++ (f.attributes.getD []).map (fun e => .attribute e.1 e.2)

/-- A filter with one more entry. -/
def add (f : ProductFilter) : Entry → ProductFilter
  | .field field c => { f with fields := f.fields ++ [(field, c)] }
  | .attribute key filter => { f with attributes := some (f.attributes.getD [] ++ [(key, filter)]) }

theorem satisfies_eq_all (p : Product) (f : ProductFilter) : p.satisfies f = f.entries.all (·.holds p) := by
  unfold Product.satisfies entries
  rw [List.all_append, List.all_map, List.all_map]
  cases f.attributes <;> rfl

theorem entries_add (f : ProductFilter) (e : Entry) : (f.add e).entries.Perm (f.entries ++ [e]) := by
  cases e with
  | field field c =>
    simp only [entries, add, List.map_append, List.map_cons, List.map_nil, List.append_assoc]
    exact List.perm_append_comm.append_left _
  | «attribute» key filter =>
    simp only [entries, add, List.map_append, List.map_cons, List.map_nil, List.append_assoc, Option.getD_some]
    exact .refl _

end ProductFilter

namespace DefinitionFilter

/-- A part of a filter of definitions. -/
abbrev Entry := DefinitionField × Condition

/-- The same entry with its operators in another order. -/
def Entry.Permutes (x y : Entry) : Prop := x.1 = y.1 ∧ x.2.Permutes y.2

/-- A filter with one more entry. -/
def add (f : DefinitionFilter) (e : Entry) : DefinitionFilter := { f with fields := f.fields ++ [e] }

end DefinitionFilter

/-- **Every entry of a filter counts by itself.** -/
structure CountsEntries (R : Type) {F K E N : Type} [Queryable R F K] (entries : F → List E) (add : F → E → F)
    (onField : N → Condition → E) (permutes : E → E → Prop) : Prop where
  /-- Neither the order of the entries nor that of the operators in them matters. -/
  reordered : ∀ f g, Reordered permutes (entries f) (entries g) → ∀ r : R,
    Queryable.satisfies r f = Queryable.satisfies r g
  /-- Nor does the order in which entries are added. -/
  added : ∀ f xs ys, Reordered permutes xs ys → ∀ r : R,
    Queryable.satisfies r (xs.foldl add f) = Queryable.satisfies r (ys.foldl add f)
  /-- The operators on a field can be shared out among two filters. -/
  shared : ∀ f field a b c, Condition.IsSharedBy c a b → ∀ r : R, Queryable.satisfies r (add f (onField field c)) =
    (Queryable.satisfies r (add f (onField field a)) && Queryable.satisfies r (add f (onField field b)))

/-- Entries count by themselves where a filter is satisfied if each of its entries holds. -/
theorem CountsEntries.of_all {R F K E N : Type} [Queryable R F K] {entries : F → List E} {add : F → E → F}
    {onField : N → Condition → E} {permutes : E → E → Prop} (holds : R → E → Bool) (value : R → N → FieldValue)
    (hall : ∀ r f, Queryable.satisfies r f = (entries f).all (holds r))
    (hadd : ∀ f e, (entries (add f e)).Perm (entries f ++ [e]))
    (hpermutes : ∀ r x y, permutes x y → holds r x = holds r y)
    (hfield : ∀ r field c, holds r (onField field c) = c.holds (value r field)) :
    CountsEntries R entries add onField permutes := by
  have hone : ∀ r f e, Queryable.satisfies r (add f e) = (Queryable.satisfies r f && holds r e) := by
    intro r f e
    rw [hall, hall, (hadd f e).all_eq, List.all_append, List.all_cons, List.all_nil, Bool.and_true]
  have hrun : ∀ r (es : List E) f,
      Queryable.satisfies r (es.foldl add f) = (Queryable.satisfies r f && es.all (holds r)) := by
    intro r es
    induction es with
    | nil => exact fun f => (Bool.and_true _).symm
    | cons e es ih =>
      intro f
      rw [List.foldl_cons, ih, hone, List.all_cons, Bool.and_assoc]
  refine ⟨fun f g h r => ?_, fun f xs ys h r => ?_, fun f field a b c h r => ?_⟩
  · rw [hall, hall, h.all_eq (hpermutes r)]
  · rw [hrun, hrun, h.all_eq (hpermutes r)]
  · rw [hone, hone, hone, hfield, hfield, hfield, h.holds_eq]
    cases Queryable.satisfies r f <;> rfl

theorem ProductFilter.countsEntries : CountsEntries Product entries add Entry.field Entry.Permutes :=
  .of_all Entry.holds Product.field satisfies_eq_all entries_add (fun p _ _ => Entry.Permutes.holds_eq p)
    (fun _ _ _ => rfl)

theorem DefinitionFilter.countsEntries : CountsEntries Definition fields add Prod.mk Entry.Permutes := by
  refine .of_all (fun d e => e.2.holds (d.field e.1)) Definition.field (fun _ _ => rfl) (fun _ _ => .refl _) ?_
    (fun _ _ _ => rfl)
  rintro d ⟨f, c⟩ ⟨_, c'⟩ ⟨rfl, h⟩
  exact h.holds_eq _

/-! ## Filters that select every record -/

namespace Engine

variable {F K : Type}

/-- Under every policy a filter is let through, and selects all records. -/
def SelectsAll (R : Type) [Queryable R F K] (filter : Option F) : Prop :=
  ∀ policy, exclusion R policy filter = .ok false ∧ ∀ records : List R, matching records false filter = records

theorem selectsAll_none (R : Type) [Queryable R F K] : SelectsAll R (none : Option F) := fun _ => ⟨rfl, fun _ => rfl⟩

theorem selectsAll_some {R : Type} [Queryable R F K] {f : F} (hknown : Queryable.unknownFields R f = [])
    (hsatisfies : ∀ r : R, Queryable.satisfies r f = true) : SelectsAll R (some f) :=
  fun policy => ⟨(exclusion_some_eq_ok_iff policy f false).2 (.inl ⟨hknown, rfl⟩),
    fun _ => List.filter_eq_self.2 fun r _ => hsatisfies r⟩

end Engine

/-! ## Filters compose -/

/-- **Filters are conjunctions**: of two documents that are merged, and of entries that are added.  Without entries they
select every record, as does having no filter. -/
theorem filters_compose :
    (∀ v w : Json, v.IsOrdered → w.IsOrdered → v.Merges ProductFilter.knownNames w → Composes Product v w) ∧
    (∀ v w : Json, v.IsOrdered → w.IsOrdered → v.Merges DefinitionFilter.knownNames w → Composes Definition v w) ∧
    CountsEntries Product ProductFilter.entries ProductFilter.add ProductFilter.Entry.field
      ProductFilter.Entry.Permutes ∧
    CountsEntries Definition DefinitionFilter.fields DefinitionFilter.add Prod.mk DefinitionFilter.Entry.Permutes ∧
    Engine.SelectsAll Product none ∧
    ∀ filter ∈ [Json.object [], .object [("attributes", .object [])]],
      ∃ f, ProductFilter.read filter = .ok f ∧ Engine.SelectsAll Product (some f) := by
  refine ⟨fun _ _ => ProductFilter.composes, fun _ _ => DefinitionFilter.composes, ProductFilter.countsEntries,
    DefinitionFilter.countsEntries, Engine.selectsAll_none Product, ?_⟩
  intro filter hfilter
  simp only [List.mem_cons, List.not_mem_nil, or_false] at hfilter
  rcases hfilter with rfl | rfl
  · exact ⟨⟨[], none, []⟩, rfl, Engine.selectsAll_some rfl fun _ => rfl⟩
  · exact ⟨⟨[], some [], []⟩, rfl, Engine.selectsAll_some rfl fun _ => rfl⟩

/-- Two filters with a field in common, an attribute each and an unknown name are merged.  Of two products only the one
that satisfies both satisfies what is read, and it does not matter in which order the operators on the field stand. -/
theorem filters_compose_weight :
    let listed : Json := .object
      [("attributes", .object [("weight", .object [("unit", .object [("$eq", .string "kg")])])]),
        ("id", .object [("$in", .array [.string "p1", .string "p2"])])]
    let others : Json := .object
      [("attributes", .object [("color", .object [("$exists", .bool false)])]), ("brand", .null),
        ("id", .object [("$ne", .string "p2")])]
    let both : Json := .object
      [("attributes", .object [("color", .object [("$exists", .bool false)]),
          ("weight", .object [("unit", .object [("$eq", .string "kg")])])]), ("brand", .null),
        ("id", .object [("$in", .array [.string "p1", .string "p2"]), ("$ne", .string "p2")])]
    let weight : Attribute := ⟨"weight", .structured ⟨none, some (.string "kg"), []⟩⟩
    let weighed : String → Product := fun id => ⟨id, "s", 0, 0, [weight]⟩
    let onId : List Operator → ProductFilter := fun ops => ⟨[(.id, ⟨ops⟩)], none, []⟩
    listed.merge others = both ∧
      (∃ f, ProductFilter.read both = .ok f ∧ f.unknownFields.Perm ["brand"] ∧ (weighed "p1").satisfies f = true ∧
        (weighed "p2").satisfies f = false) ∧
      ∀ a b : Operator, (weighed "p1").satisfies (onId [a, b]) = (weighed "p1").satisfies (onId [b, a]) := by
  intro listed others both weight weighed onId
  obtain ⟨hcompose, -, hentries, -⟩ := filters_compose
  have hlisted : listed.IsOrdered := Json.isOrdered_of_ordered_eq rfl
  have hothers : others.IsOrdered := Json.isOrdered_of_ordered_eq rfl
  have hmerges : listed.Merges ProductFilter.knownNames others := by
    refine ⟨⟨_, rfl⟩, ⟨_, rfl⟩, fun name a b ha hb => ?_⟩
    simp only [listed, others, Json.has_object, List.mem_cons, Prod.mk.injEq, List.not_mem_nil, or_false] at ha hb
    rcases ha with ⟨rfl, rfl⟩ | ⟨rfl, rfl⟩
    · obtain rfl : b = _ := by simpa using hb
      exact ⟨by decide, Json.joins_single (by decide) _ _⟩
    · obtain rfl : b = _ := by simpa using hb
      exact ⟨by decide, Json.joins_single (by decide) _ _⟩
  have hcomposes := hcompose listed others hlisted hothers hmerges
  obtain ⟨f, hread⟩ := hcomposes.isRead.2 ⟨⟨_, rfl⟩, _, rfl⟩
  have hconjunction := hcomposes.isConjunction _ _ f rfl rfl hread
  refine ⟨rfl, ⟨f, hread, hconjunction.unknownFields.1, ?_, ?_⟩, fun a b => ?_⟩
  · exact (hconjunction.satisfies _).trans (by decide)
  · exact (hconjunction.satisfies _).trans (by decide)
  · exact hentries.reordered _ _ ⟨_, .refl _, .cons (.field _ (.swap _ _ _)) .nil⟩ (weighed "p1")

end ProductQuery
