import ProductQuery.Json.Node
import ProductQuery.Proofs.ByteOrder
/-!
# Proofs.JsonOrder — JSON values with each key once

A JSON value is in order if the keys of each of its objects increase.  Every value that is read from text is in order
(`Node.isOrdered_value`), and so is what is put in order (`isOrdered_ordered`).  What a consumer may rely on is that no
object has two members of one key, so looking a key up finds the member there is (`IsOrdered.member?_eq_some_iff`).
-/
namespace ProductQuery
namespace Json

variable {members : List (String × Json)} {m : String × Json} {key : String} {v : Json}

/-- The key of a member comes before that of another. -/
def Precedes (a b : String × Json) : Prop := compare a.1 b.1 = .lt

instance : DecidableRel Precedes := fun a b => inferInstanceAs (Decidable (compare a.1 b.1 = .lt))

/-- Every object in a value has its members in increasing order of their keys. -/
inductive IsOrdered : Json → Prop
  | null : IsOrdered .null
  | bool (b : Bool) : IsOrdered (.bool b)
  | number (n : Number) : IsOrdered (.number n)
  | string (s : String) : IsOrdered (.string s)
  | array {items : List Json} (h : ∀ v ∈ items, IsOrdered v) : IsOrdered (.array items)
  | object {members : List (String × Json)} (hkeys : members.Pairwise Precedes)
      (h : ∀ m ∈ members, IsOrdered m.2) : IsOrdered (.object members)

theorem Precedes.ne {a b : String × Json} (h : Precedes a b) : a.1 ≠ b.1 := by
  intro hab
  have heq : compare a.1 b.1 = .eq := hab ▸ Std.ReflOrd.compare_self
  cases h.symm.trans heq

/-- A member of an object. -/
def Has : Json → String → Json → Prop
  | .object members, key, v => (key, v) ∈ members
  | _, _, _ => False

@[simp]
theorem has_object : (Json.object members).Has key v ↔ (key, v) ∈ members := Iff.rfl

namespace IsOrdered

theorem pairwise_precedes (h : IsOrdered (.object members)) : members.Pairwise Precedes := by
  cases h with
  | object hkeys _ => exact hkeys

theorem keys_nodup (h : IsOrdered (.object members)) : (members.map Prod.fst).Nodup :=
  (h.pairwise_precedes.imp Precedes.ne).map Prod.fst (fun _ _ => id)

theorem keys_pairwise (h : IsOrdered (.object members)) : (members.map Prod.fst).Pairwise (compare · · = .lt) :=
  h.pairwise_precedes.map Prod.fst fun _ _ => id

/-- The keys of an object are in the order of their bytes. -/
theorem pairwise_bytes (h : IsOrdered (.object members)) :
    (members.map Prod.fst).Pairwise (fun a b => Text.bytes a < Text.bytes b) :=
  h.keys_pairwise.imp Text.bytes_lt_iff.2

theorem of_has {j : Json} (h : j.IsOrdered) (hv : j.Has key v) : v.IsOrdered := by
  cases h with
  | object _ hvalues => exact hvalues (key, v) hv
  | _ => cases hv

theorem head (h : IsOrdered (.object (m :: members))) : m.2.IsOrdered := by
  cases h with
  | object _ hvalues => exact hvalues m List.mem_cons_self

theorem tail (h : IsOrdered (.object (m :: members))) : IsOrdered (.object members) := by
  cases h with
  | object hkeys hvalues =>
    exact .object (List.pairwise_cons.1 hkeys).2 (fun n hn => hvalues n (List.mem_cons_of_mem _ hn))

theorem not_has_head (h : IsOrdered (.object (m :: members))) (v : Json) : ¬(Json.object members).Has m.1 v := by
  intro hv
  exact (List.nodup_cons.1 h.keys_nodup).1 (List.mem_map.2 ⟨(m.1, v), hv, rfl⟩)

/-- **Looking a key up finds the member there is.** -/
theorem member?_eq_some_iff (h : IsOrdered (.object members)) :
    member? key members = some v ↔ (Json.object members).Has key v := by
  unfold member?
  induction members with
  | nil => exact iff_of_false (fun h => by cases h) List.not_mem_nil
  | cons m rest ih =>
    obtain ⟨k, w⟩ := m
    rw [List.lookup_cons]
    show _ ↔ (key, v) ∈ (k, w) :: rest
    rw [List.mem_cons]
    by_cases hkey : key = k
    · subst hkey
      have hnot : (key, v) ∉ rest := h.not_has_head v
      simp only [BEq.rfl, Option.some.injEq, Prod.mk.injEq, true_and, hnot, or_false]
      exact eq_comm
    · have hbeq : (key == k) = false := beq_eq_false_iff_ne.2 hkey
      simp only [hbeq, Prod.mk.injEq, hkey, false_and, false_or]
      exact ih h.tail

theorem of_member? (h : IsOrdered (.object members)) (hv : member? key members = some v) : v.IsOrdered :=
  h.of_has (h.member?_eq_some_iff.1 hv)

end IsOrdered

/-! ## Putting members in order -/

theorem mem_of_mem_insertMember : ∀ {members : List (String × Json)}, m ∈ insertMember key v members →
    m = (key, v) ∨ m ∈ members
  | [], h => .inl (List.mem_singleton.1 h)
  | (k, w) :: rest, h => by
    unfold insertMember at h
    split at h
    · exact List.mem_cons.1 h
    · rcases List.mem_cons.1 h with rfl | h
      · exact .inl rfl
      · exact .inr (List.mem_cons_of_mem _ h)
    · rcases List.mem_cons.1 h with rfl | h
      · exact .inr List.mem_cons_self
      · exact (mem_of_mem_insertMember h).imp id (List.mem_cons_of_mem _)

/-- **A member put at its place leaves the members in order.** -/
theorem pairwise_insertMember (key : String) (v : Json) : ∀ {members : List (String × Json)},
    members.Pairwise Precedes → (insertMember key v members).Pairwise Precedes
  | [], _ => List.pairwise_singleton _ _
  | (k, w) :: rest, h => by
    obtain ⟨hhead, hrest⟩ := List.pairwise_cons.1 h
    unfold insertMember
    split
    · rename_i hlt
      refine List.pairwise_cons.2 ⟨fun m hm => ?_, h⟩
      rcases List.mem_cons.1 hm with rfl | hm
      · exact hlt
      · exact Std.TransCmp.lt_trans hlt (hhead m hm)
    · rename_i heq
      obtain rfl := Std.LawfulEqOrd.eq_of_compare heq
      exact List.pairwise_cons.2 ⟨hhead, hrest⟩
    · rename_i hgt
      refine List.pairwise_cons.2 ⟨fun m hm => ?_, pairwise_insertMember key v hrest⟩
      rcases mem_of_mem_insertMember hm with rfl | hm
      · exact Std.OrientedCmp.lt_of_gt hgt
      · exact hhead m hm

/-- **Members put in order are in order**, and none is made up. -/
theorem foldl_insertMember : ∀ (members done : List (String × Json)), done.Pairwise Precedes →
    (members.foldl (fun done m => insertMember m.1 m.2 done) done).Pairwise Precedes ∧
      ∀ m ∈ members.foldl (fun done m => insertMember m.1 m.2 done) done, m ∈ done ∨ m ∈ members
  | [], _, hdone => ⟨hdone, fun _ => .inl⟩
  | m :: rest, done, hdone => by
    obtain ⟨hkeys, hmem⟩ := foldl_insertMember rest _ (pairwise_insertMember m.1 m.2 hdone)
    refine ⟨hkeys, fun n hn => ?_⟩
    rcases hmem n hn with hn | hn
    · rcases mem_of_mem_insertMember hn with rfl | hn
      · exact .inr List.mem_cons_self
      · exact .inl hn
    · exact .inr (List.mem_cons_of_mem _ hn)

/-- An object is in order if its members are put in order and their values are in order. -/
theorem isOrdered_orderMembers (h : ∀ m ∈ members, IsOrdered m.2) : IsOrdered (.object (orderMembers members)) := by
  obtain ⟨hkeys, hmem⟩ := foldl_insertMember members [] List.Pairwise.nil
  refine .object hkeys fun m hm => ?_
  rcases hmem m hm with hnil | hm
  · cases hnil
  · exact h m hm

theorem insertMember_of_precedes : ∀ {members : List (String × Json)}, (∀ m ∈ members, Precedes m (key, v)) →
    insertMember key v members = members ++ [(key, v)]
  | [], _ => rfl
  | (k, w) :: rest, h => by
    have hgt : compare key k = .gt := Std.OrientedCmp.gt_of_lt (h _ List.mem_cons_self)
    have hrest := insertMember_of_precedes (fun m hm => h m (List.mem_cons_of_mem _ hm))
    rw [insertMember, hgt, hrest, List.cons_append]

/-- Members in order stay as they are. -/
theorem orderMembers_of_pairwise (h : members.Pairwise Precedes) : orderMembers members = members := by
  suffices hall : ∀ (rest done : List (String × Json)), (done ++ rest).Pairwise Precedes →
      rest.foldl (fun done m => insertMember m.1 m.2 done) done = done ++ rest from hall members [] h
  intro rest
  induction rest with
  | nil => exact fun done _ => (List.append_nil done).symm
  | cons m rest ih =>
    intro done hdone
    have hlast : ∀ n ∈ done, Precedes n (m.1, m.2) := fun n hn =>
      (List.pairwise_append.1 hdone).2.2 n hn m List.mem_cons_self
    rw [List.append_cons] at hdone
    rw [List.foldl_cons, insertMember_of_precedes hlast, ih _ hdone, ← List.append_cons]

/-! ## Looking keys up -/

@[simp]
theorem member?_nil : member? key [] = none := rfl

@[simp]
theorem member?_cons : member? key (m :: members) = if key = m.1 then some m.2 else member? key members := by
  rw [member?, List.lookup_cons]
  by_cases h : key = m.1
  · simp [h]
  · have hbeq : (key == m.1) = false := beq_eq_false_iff_ne.2 h
    rw [hbeq, if_neg h, member?]

@[simp]
theorem member?_append (members' : List (String × Json)) :
    member? key (members ++ members') = (member? key members).or (member? key members') := List.lookup_append

@[simp]
theorem member?_insertMember (key k : String) (v : Json) : ∀ members : List (String × Json),
    member? key (insertMember k v members) = if key = k then some v else member? key members
  | [] => by rw [insertMember, member?_cons]
  | (k', w) :: rest => by
    unfold insertMember
    split
    · rw [member?_cons]
    · rename_i heq
      obtain rfl := Std.LawfulEqOrd.eq_of_compare heq
      simp only [member?_cons]
      by_cases h : key = k <;> simp [h]
    · rename_i hgt
      have hne : k ≠ k' := by
        rintro rfl
        rw [Std.ReflOrd.compare_self] at hgt
        cases hgt
      simp only [member?_cons, member?_insertMember key k v rest]
      by_cases h : key = k'
      · simp [h, Ne.symm hne]
      · simp [h]

/-- **Of several members of one key the last stays.** -/
@[simp]
theorem member?_orderMembers (key : String) (members : List (String × Json)) :
    member? key (orderMembers members) = member? key members.reverse := by
  suffices hall : ∀ (rest done : List (String × Json)),
      member? key (rest.foldl (fun done m => insertMember m.1 m.2 done) done) =
        (member? key rest.reverse).or (member? key done) by
    rw [orderMembers, hall, member?_nil, Option.or_none]
  intro rest
  induction rest with
  | nil => exact fun done => rfl
  | cons m rest ih =>
    intro done
    rw [List.foldl_cons, ih, member?_insertMember, List.reverse_cons, member?_append, Option.or_assoc, member?_cons]
    by_cases h : key = m.1 <;> simp [h]

theorem mem_of_member? (h : member? key members = some v) : (key, v) ∈ members := by
  obtain ⟨before, after, hmembers, -⟩ := List.lookup_eq_some_iff.1 h
  rw [hmembers]
  exact List.mem_append_right _ List.mem_cons_self

theorem member?_eq_none_of_notMem (h : key ∉ members.map Prod.fst) : member? key members = none := by
  refine List.lookup_eq_none_iff.2 fun n hn => ?_
  simpa using fun heq : key = n.1 => h (List.mem_map.2 ⟨n, hn, heq.symm⟩)

theorem member?_eq_none_of_lt (h : ∀ n ∈ members, compare key n.1 = .lt) : member? key members = none := by
  refine List.lookup_eq_none_iff.2 fun n hn => ?_
  have hne : key ≠ n.1 := Precedes.ne (show Precedes (key, .null) n from h n hn)
  simpa using hne

/-- **Members in order are determined by what is found in them.** -/
theorem eq_of_member?_eq : ∀ {xs ys : List (String × Json)}, xs.Pairwise Precedes → ys.Pairwise Precedes →
    (∀ key, member? key xs = member? key ys) → xs = ys
  | [], [], _, _, _ => rfl
  | [], (k, v) :: ys, _, _, h => by
    have hk := h k
    simp at hk
  | (k, v) :: xs, [], _, _, h => by
    have hk := h k
    simp at hk
  | (k, v) :: xs, (k', v') :: ys, hxs, hys, h => by
    obtain ⟨hx, hxs'⟩ := List.pairwise_cons.1 hxs
    obtain ⟨hy, hys'⟩ := List.pairwise_cons.1 hys
    have hhere := h k
    have hthere := h k'
    simp only [member?_cons] at hhere hthere
    -- The lesser of two first keys would be found in one list only.
    have heq : k = k' := by
      rcases hk : compare k k' with _ | _ | _
      · have hnone : member? k ys = none := member?_eq_none_of_lt fun n hn => Std.TransCmp.lt_trans hk (hy n hn)
        have hne : k ≠ k' := Precedes.ne (show Precedes (k, v) (k', v') from hk)
        simp [hne, hnone] at hhere
      · exact Std.LawfulEqOrd.eq_of_compare hk
      · have hk' := Std.OrientedCmp.lt_of_gt hk
        have hnone : member? k' xs = none := member?_eq_none_of_lt fun n hn => Std.TransCmp.lt_trans hk' (hx n hn)
        have hne : k' ≠ k := Precedes.ne (show Precedes (k', v') (k, v) from hk')
        simp [hne, hnone] at hthere
    subst heq
    have hv : v = v' := by simpa using hhere
    subst hv
    congr 1
    refine eq_of_member?_eq hxs' hys' fun key => ?_
    have hkey := h key
    simp only [member?_cons] at hkey
    by_cases hne : key = k
    · subst hne
      rw [member?_eq_none_of_lt hx, member?_eq_none_of_lt hy]
    · simpa [hne] using hkey

/-- Among distinct names the first member of a name is the last. -/
theorem member?_reverse_of_nodup (h : (members.map Prod.fst).Nodup) (name : String) :
    member? name members.reverse = member? name members := by
  induction members with
  | nil => rfl
  | cons m rest ih =>
    obtain ⟨hm, hrest⟩ := List.nodup_cons.1 h
    rw [List.reverse_cons, member?_append, ih hrest, member?_cons, member?_cons, member?_nil]
    by_cases hname : name = m.1
    · subst hname
      simp [member?_eq_none_of_notMem hm]
    · simp [hname]

/-- What is found where every member is given another value. -/
theorem member?_map (f : String → Json → Json) (key : String) : ∀ members : List (String × Json),
    member? key (members.map (fun m => (m.1, f m.1 m.2))) = (member? key members).map (f key)
  | [] => rfl
  | (k, v) :: rest => by
    rw [List.map_cons, member?_cons, member?_cons, member?_map f key rest]
    by_cases h : key = k
    · subst h
      simp
    · simp [h]

theorem member?_filter (p : String × Json → Bool) (key : String) : ∀ {members : List (String × Json)},
    members.Pairwise Precedes → member? key (members.filter p) = (member? key members).filter (fun v => p (key, v))
  | [], _ => rfl
  | (k, v) :: rest, h => by
    obtain ⟨hhead, hrest⟩ := List.pairwise_cons.1 h
    have ih := member?_filter p key hrest
    rw [member?_cons]
    by_cases hk : key = k
    · subst hk
      rw [member?_eq_none_of_lt hhead] at ih
      by_cases hp : p (key, v) = true
      · simp [hp, Option.filter_some]
      · simp [hp, ih, Option.filter_some]
    · by_cases hp : p (k, v) = true
      · simp [hp, hk, ih]
      · simp [hp, hk, ih]

theorem member?_filter_fst (p : String → Bool) (key : String) : ∀ members : List (String × Json),
    member? key (members.filter (fun m => p m.1)) = if p key then member? key members else none
  | [] => by simp
  | (k, v) :: rest => by
    have ih := member?_filter_fst p key rest
    by_cases hk : key = k
    · subst hk
      by_cases hp : p key = true
      · simp [hp]
      · simp [hp, ih]
    · by_cases hp : p k = true
      · simp [hp, hk, ih]
      · simp [hp, hk, ih]

/-! ## Where values come from -/

mutual
/-- **A value put in order is in order.** -/
theorem isOrdered_ordered : ∀ v : Json, IsOrdered v.ordered
  | .null => .null
  | .bool b => .bool b
  | .number n => .number n
  | .string s => .string s
  | .array items => .array (isOrdered_of_mem_orderedItems items)
  | .object members => isOrdered_orderMembers (isOrdered_of_mem_orderedMembers members)

theorem isOrdered_of_mem_orderedItems : ∀ items : List Json, ∀ v ∈ orderedItems items, IsOrdered v
  | [], _, h => by cases h
  | v :: rest, w, h => by
    rcases List.mem_cons.1 h with rfl | h
    · exact isOrdered_ordered v
    · exact isOrdered_of_mem_orderedItems rest w h

theorem isOrdered_of_mem_orderedMembers : ∀ members : List (String × Json), ∀ m ∈ orderedMembers members, IsOrdered m.2
  | [], _, h => by cases h
  | (k, v) :: rest, m, h => by
    rcases List.mem_cons.1 h with rfl | h
    · exact isOrdered_ordered v
    · exact isOrdered_of_mem_orderedMembers rest m h
end

theorem isOrdered_of_ordered_eq (h : v.ordered = v) : v.IsOrdered := h ▸ isOrdered_ordered v

mutual
theorem ordered_of_isOrdered : ∀ {v : Json}, v.IsOrdered → v.ordered = v
  | .null, _ => rfl
  | .bool _, _ => rfl
  | .number _, _ => rfl
  | .string _, _ => rfl
  | .array items, h => by
    cases h with
    | array hitems => rw [ordered, orderedItems_of_isOrdered hitems]
  | .object members, h => by
    cases h with
    | object hkeys hmembers => rw [ordered, orderedMembers_of_isOrdered hmembers, orderMembers_of_pairwise hkeys]

theorem orderedItems_of_isOrdered : ∀ {items : List Json}, (∀ v ∈ items, v.IsOrdered) → orderedItems items = items
  | [], _ => rfl
  | v :: rest, h => by
    rw [orderedItems, ordered_of_isOrdered (h v List.mem_cons_self),
      orderedItems_of_isOrdered (fun w hw => h w (List.mem_cons_of_mem _ hw))]

theorem orderedMembers_of_isOrdered : ∀ {members : List (String × Json)}, (∀ m ∈ members, m.2.IsOrdered) →
    orderedMembers members = members
  | [], _ => rfl
  | (k, v) :: rest, h => by
    rw [orderedMembers, ordered_of_isOrdered (h _ List.mem_cons_self),
      orderedMembers_of_isOrdered (fun m hm => h m (List.mem_cons_of_mem _ hm))]
end

mutual
/-- **A value that is read from text is in order.** -/
theorem Node.isOrdered_value : ∀ n : Node, IsOrdered n.value
  | .null => .null
  | .bool b => .bool b
  | .number n => .number n
  | .string s => .string s
  | .array items _ _ => .array (Node.isOrdered_of_mem_itemValues items)
  | .object members _ _ => isOrdered_orderMembers (Node.isOrdered_of_mem_memberValues members)
  | .refused _ _ => .null

theorem Node.isOrdered_of_mem_itemValues : ∀ items : List Node, ∀ v ∈ Node.itemValues items, IsOrdered v
  | [], _, h => by cases h
  | n :: rest, w, h => by
    rcases List.mem_cons.1 h with rfl | h
    · exact n.isOrdered_value
    · exact Node.isOrdered_of_mem_itemValues rest w h

theorem Node.isOrdered_of_mem_memberValues : ∀ members : List (String × Node), ∀ m ∈ Node.memberValues members,
    IsOrdered m.2
  | [], _, h => by cases h
  | (k, n) :: rest, m, h => by
    rcases List.mem_cons.1 h with rfl | h
    · exact n.isOrdered_value
    · exact Node.isOrdered_of_mem_memberValues rest m h
end

mutual
/-- A value in order is the value of its node. -/
theorem Node.value_ofJson : ∀ {v : Json}, v.IsOrdered → (Node.ofJson v).value = v
  | .null, _ => rfl
  | .bool _, _ => rfl
  | .number _, _ => rfl
  | .string _, _ => rfl
  | .array items, h => by
    cases h with
    | array hitems => rw [ofJson, value, itemValues_ofItems hitems]
  | .object members, h => by
    cases h with
    | object hkeys hmembers =>
      rw [ofJson, value, memberValues_ofMembers hmembers, orderMembers_of_pairwise hkeys]

theorem Node.itemValues_ofItems : ∀ {items : List Json}, (∀ v ∈ items, v.IsOrdered) →
    Node.itemValues (Node.ofItems items) = items
  | [], _ => rfl
  | v :: rest, h => by
    rw [ofItems, itemValues, Node.value_ofJson (h v List.mem_cons_self),
      Node.itemValues_ofItems (fun w hw => h w (List.mem_cons_of_mem _ hw))]

theorem Node.memberValues_ofMembers : ∀ {members : List (String × Json)}, (∀ m ∈ members, m.2.IsOrdered) →
    Node.memberValues (Node.ofMembers members) = members
  | [], _ => rfl
  | (k, v) :: rest, h => by
    rw [ofMembers, memberValues, Node.value_ofJson (h _ List.mem_cons_self),
      Node.memberValues_ofMembers (fun m hm => h m (List.mem_cons_of_mem _ hm))]
end

end Json
end ProductQuery
