import Mathlib.Data.List.SplitBy
/-!
# Proofs.StableSort — what stable sorting by a comparison determines

A stable sort has the elements of its input, in order, and those that tie as they stood (`IsStableSort`).  For a total
preorder there is exactly one such list: merge sort finds it (`isStableSort_mergeSort`) and no other list is one
(`IsStableSort.unique`).  Everything else follows from the uniqueness: elements may be left out before or after
(`IsStableSort.filter`), sorting the other way round is sorting the reversed list and reversing (`IsStableSort.reverse`),
and the runs of tied elements come in the opposite order, each as it was (`IsStableSort.reverse_tieGroups`).
-/
namespace ProductQuery

variable {α : Type} {cmp : α → α → Ordering} {xs ys zs : List α}

/-- The elements that tie with `a`, as they stand in a list. -/
def tied (cmp : α → α → Ordering) (a : α) (xs : List α) : List α := xs.filter (fun b => cmp a b == .eq)

/-- `ys` is `xs` in order; elements that tie stand as in `xs`. -/
structure IsStableSort (cmp : α → α → Ordering) (xs ys : List α) : Prop where
  perm : ys.Perm xs
  sorted : ys.Pairwise (fun a b => cmp a b ≠ .gt)
  stable : ∀ a, tied cmp a ys = tied cmp a xs

@[simp]
theorem mem_tied {a b : α} : b ∈ tied cmp a xs ↔ b ∈ xs ∧ cmp a b = .eq := by
  unfold tied; rw [List.mem_filter, beq_iff_eq]

/-- A list in order is its own stable sort. -/
theorem isStableSort_self (h : xs.Pairwise (fun a b => cmp a b ≠ .gt)) : IsStableSort cmp xs xs :=
  ⟨List.Perm.refl xs, h, fun _ => rfl⟩

theorem tied_filter (p : α → Bool) (a : α) (xs : List α) : tied cmp a (xs.filter p) = (tied cmp a xs).filter p := by
  unfold tied
  rw [List.filter_filter, List.filter_filter]
  exact List.filter_congr (fun b _ => Bool.and_comm _ _)

/-- **Leaving elements out of a list leaves them out of its stable sort**, and moves no other. -/
theorem IsStableSort.filter (h : IsStableSort cmp xs ys) (p : α → Bool) :
    IsStableSort cmp (xs.filter p) (ys.filter p) where
  perm := h.perm.filter p
  sorted := h.sorted.filter p
  stable := by
    intro a
    rw [tied_filter, tied_filter, h.stable a]

theorem isLE_total (cmp : α → α → Ordering) [Std.OrientedCmp cmp] (a b : α) : (cmp a b).isLE || (cmp b a).isLE := by
  have hba : cmp b a = (cmp a b).swap := Std.OrientedCmp.eq_swap
  rw [hba]
  cases cmp a b <;> rfl

section

variable [Std.TransCmp cmp]

theorem tied_congr {a b : α} (h : cmp a b = .eq) (xs : List α) : tied cmp a xs = tied cmp b xs := by
  unfold tied
  exact List.filter_congr (fun c _ => by rw [Std.TransCmp.congr_left h])

/-- **Neighbours that do not tie may change places** before a list is sorted. -/
theorem IsStableSort.swap {a b : α} (before after : List α) (h : IsStableSort cmp (before ++ a :: b :: after) ys)
    (hne : cmp a b ≠ .eq) : IsStableSort cmp (before ++ b :: a :: after) ys where
  perm := h.perm.trans ((List.Perm.swap b a after).append_left before)
  sorted := h.sorted
  stable c := by
    rw [h.stable, tied, tied, List.filter_append, List.filter_append]
    -- No element ties with both neighbours.
    by_cases ha : cmp c a = .eq
    · have hb : cmp c b ≠ .eq := fun hb => hne (Std.TransCmp.eq_trans (Std.OrientedCmp.eq_symm ha) hb)
      simp [ha, hb]
    · simp [List.filter_cons, ha]

/-! ## Existence -/

theorem tied_pairwise (a : α) (xs : List α) : (tied cmp a xs).Pairwise (fun b c => (cmp b c).isLE) :=
  List.pairwise_of_forall_mem_list (fun b hb c hc => by
    rw [Std.TransCmp.eq_trans (Std.OrientedCmp.eq_symm (mem_tied.1 hb).2) (mem_tied.1 hc).2]; rfl)

theorem tied_mergeSort (a : α) (xs : List α) :
    tied cmp a (xs.mergeSort (fun b c => (cmp b c).isLE)) = tied cmp a xs := by
  have hsub : (tied cmp a xs).Sublist (xs.mergeSort (fun b c => (cmp b c).isLE)) :=
    List.sublist_mergeSort (fun _ _ _ => Std.TransCmp.isLE_trans) (isLE_total cmp) (tied_pairwise a xs)
      List.filter_sublist
  have hties := hsub.filter (fun b => cmp a b == .eq)
  rw [tied, List.filter_filter] at hties
  simp only [Bool.and_self] at hties
  refine (hties.eq_of_length ?_).symm
  exact ((List.mergeSort_perm xs _).filter _).symm.length_eq

/-- **Merge sort is a stable sort.** -/
theorem isStableSort_mergeSort (xs : List α) : IsStableSort cmp xs (xs.mergeSort (fun a b => (cmp a b).isLE)) where
  perm := List.mergeSort_perm xs _
  sorted := by
    have hp := List.pairwise_mergeSort (fun _ _ _ => Std.TransCmp.isLE_trans) (isLE_total cmp) xs
    exact hp.imp Ordering.isLE_iff_ne_gt.1
  stable := fun a => tied_mergeSort a xs

/-! ## Uniqueness -/

theorem isLE_head {x y : α} (hxs : (x :: xs).Pairwise (fun a b => cmp a b ≠ .gt)) (hy : y ∈ x :: xs) :
    (cmp x y).isLE := by
  rcases List.mem_cons.1 hy with rfl | hy
  · exact Std.ReflCmp.isLE_rfl
  · exact Ordering.isLE_iff_ne_gt.2 (List.rel_of_pairwise_cons hxs hy)

/-- **Lists in order with the same elements are equal if the elements that tie are in the same order.** -/
theorem eq_of_sorted_of_tied : ∀ {ys zs : List α}, ys.Perm zs → ys.Pairwise (fun a b => cmp a b ≠ .gt) →
    zs.Pairwise (fun a b => cmp a b ≠ .gt) → (∀ a, tied cmp a ys = tied cmp a zs) → ys = zs
  | [], _, hp, _, _, _ => hp.nil_eq
  | _ :: _, [], hp, _, _, _ => hp.eq_nil
  | y :: ys, z :: zs, hp, hys, hzs, ht => by
    -- Each head is in the other list, so neither is after the other.
    have hyz : cmp y z = .eq := Std.OrientedCmp.isLE_antisymm
      (isLE_head hys (hp.mem_iff.2 List.mem_cons_self)) (isLE_head hzs (hp.mem_iff.1 List.mem_cons_self))
    have hhead := ht y
    unfold tied at hhead
    rw [List.filter_cons_of_pos (by simp [Std.ReflCmp.compare_self]), List.filter_cons_of_pos (by simp [hyz])] at hhead
    obtain rfl : y = z := (List.cons.inj hhead).1
    rw [eq_of_sorted_of_tied hp.cons_inv hys.of_cons hzs.of_cons (fun a => ?_)]
    have ha := ht a
    unfold tied at ha ⊢
    by_cases hay : cmp a y = .eq
    · rw [List.filter_cons_of_pos (by simp [hay]), List.filter_cons_of_pos (by simp [hay])] at ha
      exact (List.cons.inj ha).2
    · rwa [List.filter_cons_of_neg (by simp [hay]), List.filter_cons_of_neg (by simp [hay])] at ha

/-- **There is one stable sort of a list.** -/
theorem IsStableSort.unique (hy : IsStableSort cmp xs ys) (hz : IsStableSort cmp xs zs) : ys = zs :=
  eq_of_sorted_of_tied (hy.perm.trans hz.perm.symm) hy.sorted hz.sorted
    (fun a => (hy.stable a).trans (hz.stable a).symm)

theorem tied_opposite (a : α) (xs : List α) : tied (fun a b => cmp b a) a xs = tied cmp a xs := by
  unfold tied
  refine List.filter_congr (fun b _ => ?_)
  rw [Bool.eq_iff_iff, beq_iff_eq, beq_iff_eq, Std.OrientedCmp.eq_comm]

/-- **The stable sort of the reversed list, reversed, is the stable sort the other way round.** -/
theorem IsStableSort.reverse (h : IsStableSort cmp xs.reverse ys) :
    IsStableSort (fun a b => cmp b a) xs ys.reverse where
  perm := (List.reverse_perm ys).trans (h.perm.trans (List.reverse_perm xs))
  sorted := List.pairwise_reverse.2 h.sorted
  stable := by
    intro a
    have ha := h.stable a
    rw [tied_opposite a xs, tied_opposite a ys.reverse]
    unfold tied at ha ⊢
    rw [List.filter_reverse, ha, List.filter_reverse, List.reverse_reverse]

end

/-! ## Runs of tied elements -/

/-- The runs of tied elements of a list. -/
def tieGroups (cmp : α → α → Ordering) (xs : List α) : List (List α) := xs.splitBy (fun a b => cmp a b == .eq)

/-- Groups of tied elements, each before the next. -/
structure IsGrouping (cmp : α → α → Ordering) (gs : List (List α)) : Prop where
  ne_nil : ∀ g ∈ gs, g ≠ []
  tie : ∀ g ∈ gs, ∀ a ∈ g, ∀ b ∈ g, cmp a b = .eq
  apart : gs.Pairwise (fun g h => ∀ a ∈ g, ∀ b ∈ h, cmp a b = .lt)

namespace IsGrouping

variable {gs : List (List α)}

theorem reverse (hG : IsGrouping cmp gs) : IsGrouping (fun a b => cmp b a) gs.reverse where
  ne_nil := fun g hg => hG.ne_nil g (List.mem_reverse.1 hg)
  tie := fun g hg a ha b hb => hG.tie g (List.mem_reverse.1 hg) b hb a ha
  apart := List.pairwise_reverse.2 (hG.apart.imp (fun hgh a ha b hb => hgh b hb a ha))

theorem sorted_flatten (hG : IsGrouping cmp gs) : gs.flatten.Pairwise (fun a b => cmp a b ≠ .gt) := by
  rw [List.pairwise_flatten]
  refine ⟨fun g hg => List.pairwise_of_forall_mem_list (fun a ha b hb => ?_), hG.apart.imp (fun hgh a ha b hb => ?_)⟩
  · rw [hG.tie g hg a ha b hb]; exact Ordering.noConfusion
  · rw [hgh a ha b hb]; exact Ordering.noConfusion

/-- Groups are the runs of the list that they make up. -/
theorem tieGroups_flatten (hG : IsGrouping cmp gs) : tieGroups cmp gs.flatten = gs := by
  refine List.splitBy_flatten (fun h => hG.ne_nil [] h rfl) (fun g hg => ?_) ?_
  · exact (List.pairwise_of_forall_mem_list (fun a ha b hb => beq_iff_eq.2 (hG.tie g hg a ha b hb))).isChain
  · refine hG.apart.isChain.imp_of_mem_imp (fun g h hg hh hgh => ?_)
    refine ⟨hG.ne_nil g hg, hG.ne_nil h hh, ?_⟩
    rw [hgh _ (List.getLast_mem _) _ (List.head_mem _)]
    rfl

end IsGrouping

section

variable [Std.TransCmp cmp]

theorem tie_of_isChain {g : List α} (h : g.IsChain (fun a b => (cmp a b == .eq) = true)) :
    ∀ a ∈ g, ∀ b ∈ g, cmp a b = .eq := by
  have htrans : Trans (fun a b => cmp a b = .eq) (fun a b => cmp a b = .eq) (fun a b => cmp a b = .eq) :=
    ⟨Std.TransCmp.eq_trans⟩
  have hsymm : Std.Symm (fun a b => cmp a b = .eq) := ⟨fun _ _ => Std.OrientedCmp.eq_symm⟩
  have hp : g.Pairwise (fun a b => cmp a b = .eq) := (h.imp (fun _ _ hab => beq_iff_eq.1 hab)).pairwise
  intro a ha b hb
  exact hp.forall_of_forall (fun _ _ => Std.ReflCmp.compare_self) ha hb

/-- Groups in order are apart if the last of each does not tie with the first of the next. -/
theorem apart_of_isChain : ∀ {gs : List (List α)}, (∀ g ∈ gs, ∀ a ∈ g, ∀ b ∈ g, cmp a b = .eq) →
    gs.Pairwise (fun g h => ∀ a ∈ g, ∀ b ∈ h, cmp a b ≠ .gt) →
    gs.IsChain (fun g h => ∃ hg hh, (cmp (g.getLast hg) (h.head hh) == .eq) = false) →
    gs.Pairwise (fun g h => ∀ a ∈ g, ∀ b ∈ h, cmp a b = .lt)
  | [], _, _, _ => List.Pairwise.nil
  | [_], _, _, _ => List.pairwise_singleton _ _
  | g :: h :: gs, htie, hle, hch => by
    rw [List.isChain_cons_cons] at hch
    obtain ⟨⟨hg, hh, hne⟩, hch⟩ := hch
    have hlt : ∀ a ∈ g, ∀ b ∈ h, cmp a b = .lt := by
      intro a ha b hb
      have hle' := List.rel_of_pairwise_cons hle List.mem_cons_self a ha b hb
      cases hab : cmp a b with
      | lt => rfl
      | gt => exact absurd hab hle'
      | eq =>
        -- A tie across the boundary would make the two neighbours at the boundary tie.
        have h1 := htie g List.mem_cons_self _ (g.getLast_mem hg) a ha
        have h2 := htie h (by simp) b hb _ (h.head_mem hh)
        rw [Std.TransCmp.eq_trans h1 (Std.TransCmp.eq_trans hab h2)] at hne
        cases hne
    have hrest := apart_of_isChain (fun k hk => htie k (List.mem_cons_of_mem g hk)) hle.of_cons hch
    refine List.Pairwise.cons (fun k hk a ha b hb => ?_) hrest
    rcases List.mem_cons.1 hk with rfl | hk
    · exact hlt a ha b hb
    · have h1 := hlt a ha _ (h.head_mem hh)
      have h2 := List.rel_of_pairwise_cons hrest hk _ (h.head_mem hh) b hb
      exact Std.TransCmp.lt_trans h1 h2

theorem flatten_tieGroups (cmp : α → α → Ordering) (xs : List α) : (tieGroups cmp xs).flatten = xs :=
  List.flatten_splitBy _ xs

/-- **The runs of a list in order are groups, each before the next.** -/
theorem isGrouping_tieGroups (h : xs.Pairwise (fun a b => cmp a b ≠ .gt)) : IsGrouping cmp (tieGroups cmp xs) where
  ne_nil := fun _ hg => List.ne_nil_of_mem_splitBy hg
  tie := fun _ hg => tie_of_isChain (List.isChain_of_mem_splitBy hg)
  apart := by
    rw [← flatten_tieGroups cmp xs, List.pairwise_flatten] at h
    exact apart_of_isChain (fun _ hg => tie_of_isChain (List.isChain_of_mem_splitBy hg)) h.2
      (List.isChain_getLast_head_splitBy (fun a b => cmp a b == .eq) xs)

namespace IsGrouping

variable {gs : List (List α)}

/-- A group holds all that tie with one of its elements. -/
theorem tied_flatten (hG : IsGrouping cmp gs) {g : List α} (hg : g ∈ gs) {a : α} (ha : a ∈ g) :
    tied cmp a gs.flatten = g := by
  obtain ⟨pre, post, rfl⟩ := List.append_of_mem hg
  obtain ⟨-, hpost, hpre⟩ := List.pairwise_append.1 hG.apart
  have hmid : tied cmp a g = g := List.filter_eq_self.2 (fun b hb => beq_iff_eq.2 (hG.tie g hg a ha b hb))
  have hbefore : tied cmp a pre.flatten = [] := List.filter_eq_nil_iff.2 (fun b hb => by
    obtain ⟨h, hh, hb⟩ := List.mem_flatten.1 hb
    have hba := hpre h hh g List.mem_cons_self b hb a ha
    rw [Std.OrientedCmp.gt_of_lt hba]
    exact Bool.false_ne_true)
  have hbehind : tied cmp a post.flatten = [] := List.filter_eq_nil_iff.2 (fun b hb => by
    obtain ⟨h, hh, hb⟩ := List.mem_flatten.1 hb
    rw [List.rel_of_pairwise_cons hpost hh a ha b hb]
    exact Bool.false_ne_true)
  unfold tied at hmid hbefore hbehind ⊢
  rw [List.flatten_append, List.flatten_cons, List.filter_append, List.filter_append, hbefore, hmid, hbehind,
    List.append_nil, List.nil_append]

/-- Turning the order of the groups around keeps the ties. -/
theorem tied_flatten_reverse (hG : IsGrouping cmp gs) (a : α) :
    tied cmp a gs.reverse.flatten = tied cmp a gs.flatten := by
  by_cases h : ∃ g ∈ gs, ∃ b ∈ g, cmp a b = .eq
  · obtain ⟨g, hg, b, hb, hab⟩ := h
    rw [tied_congr hab, tied_congr hab, hG.tied_flatten hg hb, ← tied_opposite,
      hG.reverse.tied_flatten (List.mem_reverse.2 hg) hb]
  · have hnone : ∀ hs : List (List α), (∀ g ∈ hs, g ∈ gs) → tied cmp a hs.flatten = [] := fun hs hmem =>
      List.filter_eq_nil_iff.2 (fun b hb hab => by
        obtain ⟨g, hg, hb⟩ := List.mem_flatten.1 hb
        exact h ⟨g, hmem g hg, b, hb, beq_iff_eq.1 hab⟩)
    rw [hnone gs (fun _ => id), hnone gs.reverse (fun _ => List.mem_reverse.1)]

end IsGrouping

/-- **The runs of a stable sort, taken from the last to the first, are the stable sort the other way round.** -/
theorem IsStableSort.reverse_tieGroups (h : IsStableSort cmp xs ys) :
    IsStableSort (fun a b => cmp b a) xs (tieGroups cmp ys).reverse.flatten where
  perm := by
    have hp := (List.reverse_perm (tieGroups cmp ys)).flatten
    rw [flatten_tieGroups] at hp
    exact hp.trans h.perm
  sorted := (isGrouping_tieGroups h.sorted).reverse.sorted_flatten
  stable := by
    intro a
    rw [tied_opposite a xs, tied_opposite a (tieGroups cmp ys).reverse.flatten,
      (isGrouping_tieGroups h.sorted).tied_flatten_reverse, flatten_tieGroups, h.stable a]

/-- **Each run of a stable sort is a part of the input as it stood.** -/
theorem IsStableSort.eq_tied (h : IsStableSort cmp xs ys) {g : List α} (hg : g ∈ tieGroups cmp ys) {a : α}
    (ha : a ∈ g) : g = tied cmp a xs := by
  have hG := isGrouping_tieGroups h.sorted
  rw [← h.stable a, ← hG.tied_flatten hg ha, flatten_tieGroups]

end
end ProductQuery
