import ProductQuery.Proofs.LoadedRecords
/-!
# Proofs.Rereading — reading what was written

A written value may come back with the members of its objects in another order, as long as no name occurs twice in one of
them (`Json.Rearranges`).  What is read back part by part is then what was written (`Json.Rereads`): a list if its items
are, and a record if each of its fields is found under its name.
-/
namespace ProductQuery
namespace Json

/-! ## Values without repeated names -/

/-- No object in a value has two members of one name. -/
inductive HasDistinctKeys : Json → Prop
  | null : HasDistinctKeys .null
  | bool (b : Bool) : HasDistinctKeys (.bool b)
  | number (n : Number) : HasDistinctKeys (.number n)
  | string (s : String) : HasDistinctKeys (.string s)
  | array {items : List Json} (h : ∀ v ∈ items, HasDistinctKeys v) : HasDistinctKeys (.array items)
  | object {members : List (String × Json)} (hkeys : (members.map Prod.fst).Nodup)
      (hvalues : ∀ m ∈ members, HasDistinctKeys m.2) : HasDistinctKeys (.object members)

variable {v w : Json} {ws : List Json} {members : List (String × Json)} {name : String}

attribute [simp] HasDistinctKeys.null HasDistinctKeys.bool HasDistinctKeys.number HasDistinctKeys.string

@[simp]
theorem hasDistinctKeys_array_iff : (Json.array ws).HasDistinctKeys ↔ ∀ w ∈ ws, w.HasDistinctKeys :=
  ⟨fun h => by cases h with | array h => exact h, .array⟩

@[simp]
theorem hasDistinctKeys_object_iff : (Json.object members).HasDistinctKeys ↔
    (members.map Prod.fst).Nodup ∧ ∀ m ∈ members, m.2.HasDistinctKeys :=
  ⟨fun h => by cases h with | object hkeys hvalues => exact ⟨hkeys, hvalues⟩, fun h => .object h.1 h.2⟩

theorem IsOrdered.hasDistinctKeys (h : v.IsOrdered) : v.HasDistinctKeys := by
  induction h with
  | null => exact .null
  | bool b => exact .bool b
  | number n => exact .number n
  | string s => exact .string s
  | array _ ih => exact .array ih
  | object hkeys _ ih => exact .object ((hkeys.imp Precedes.ne).map Prod.fst fun _ _ => id) ih

theorem orderedItems_eq_map : ∀ items : List Json, orderedItems items = items.map ordered
  | [] => rfl
  | v :: rest => by rw [orderedItems, orderedItems_eq_map rest, List.map_cons]

theorem orderedMembers_eq_map : ∀ members : List (String × Json),
    orderedMembers members = members.map (fun m => (m.1, m.2.ordered))
  | [] => rfl
  | (k, v) :: rest => by rw [orderedMembers, orderedMembers_eq_map rest, List.map_cons]

@[simp]
theorem member?_orderedMembers (name : String) (members : List (String × Json)) :
    member? name (members.map (fun m => (m.1, m.2.ordered))) = (member? name members).map ordered :=
  member?_map (fun _ => ordered) name members

mutual
theorem Node.value_ofJson_eq_ordered : ∀ v : Json, (Node.ofJson v).value = v.ordered
  | .null => rfl
  | .bool _ => rfl
  | .number _ => rfl
  | .string _ => rfl
  | .array items => by rw [Node.ofJson, Node.value, Node.itemValues_ofItems_eq_ordered items, ordered]
  | .object members => by rw [Node.ofJson, Node.value, Node.memberValues_ofMembers_eq_ordered members, ordered]

theorem Node.itemValues_ofItems_eq_ordered : ∀ items : List Json,
    Node.itemValues (Node.ofItems items) = orderedItems items
  | [] => rfl
  | v :: rest => by
    rw [Node.ofItems, Node.itemValues, Node.value_ofJson_eq_ordered v, Node.itemValues_ofItems_eq_ordered rest,
      orderedItems]

theorem Node.memberValues_ofMembers_eq_ordered : ∀ members : List (String × Json),
    Node.memberValues (Node.ofMembers members) = orderedMembers members
  | [] => rfl
  | (k, v) :: rest => by
    rw [Node.ofMembers, Node.memberValues, Node.value_ofJson_eq_ordered v, Node.memberValues_ofMembers_eq_ordered rest,
      orderedMembers]
end

/-! ## Rearranged values -/

/-- A value is another but for the order of members, and no object in it has two members of one name. -/
structure Rearranges (v w : Json) : Prop where
  distinct : v.HasDistinctKeys
  ordered : v.ordered = w.ordered

namespace Rearranges

theorem self (h : v.HasDistinctKeys) : v.Rearranges v := ⟨h, rfl⟩

theorem of_ordered (v : Json) : v.ordered.Rearranges v :=
  ⟨(isOrdered_ordered v).hasDistinctKeys, ordered_of_isOrdered (isOrdered_ordered v)⟩

theorem eq_of_scalar {s : Scalar} (h : v.Rearranges s.toJson) : v = s.toJson := by
  obtain ⟨-, h⟩ := h
  rw [ordered_of_isOrdered s.isOrdered_toJson] at h
  cases v with
  | array items => cases s <;> cases h
  | object members => cases s <;> cases h
  | _ => exact h

theorem ne_null (h : v.Rearranges w) (hw : w ≠ .null) : v ≠ .null := by
  rintro rfl
  obtain ⟨-, h⟩ := h
  cases w with
  | null => exact hw rfl
  | _ => cases h

theorem exists_items (h : v.Rearranges (.array ws)) : ∃ vs, v = .array vs ∧ List.Forall₂ Rearranges vs ws := by
  obtain ⟨hdistinct, h⟩ := h
  cases v with
  | array vs =>
    cases hdistinct with
    | array hitems =>
      have hmap := Json.array.inj h
      rw [orderedItems_eq_map, orderedItems_eq_map, ← List.forall₂_eq_eq_eq, List.forall₂_map_left_iff,
        List.forall₂_map_right_iff] at hmap
      exact ⟨vs, rfl, ((List.forall₂_and_left vs ws).2 ⟨hitems, hmap⟩).imp fun v w h => ⟨h.1, h.2⟩⟩
  | _ => cases h

/-- An object comes back member by member. -/
theorem exists_members {ws : List (String × Json)} (h : v.Rearranges (.object ws)) :
    ∃ members, v = .object members ∧ (members.map Prod.fst).Nodup ∧
      ∀ name, Option.Rel Rearranges (member? name members) (member? name ws.reverse) := by
  obtain ⟨hdistinct, h⟩ := h
  cases v with
  | object members =>
    cases hdistinct with
    | object hkeys hvalues =>
      refine ⟨members, rfl, hkeys, fun name => ?_⟩
      -- The last member of a name counts on both sides, and on the left there is no other.
      have hmember := congrArg (member? name) (Json.object.inj h)
      rw [member?_orderMembers, member?_orderMembers, orderedMembers_eq_map, orderedMembers_eq_map, ← List.map_reverse,
        ← List.map_reverse, member?_orderedMembers, member?_orderedMembers, member?_reverse_of_nodup hkeys] at hmember
      cases hv : member? name members with
      | none =>
        rw [hv] at hmember
        rw [Option.map_eq_none_iff.1 hmember.symm]
        exact .none
      | some v =>
        rw [hv] at hmember
        obtain ⟨w, hw, hordered⟩ := Option.map_eq_some_iff.1 hmember.symm
        rw [hw]
        exact .some ⟨hvalues (name, v) (mem_of_member? hv), hordered.symm⟩
  | _ => cases h

end Rearranges

/-! ## Reading back -/

variable {α : Type} {decode : Decoder α} {toJson : α → Json} {a : α} {xs : List α}

/-- What is written of something is read as it, in whatever order the members stand. -/
def Rereads (decode : Decoder α) (toJson : α → Json) (a : α) : Prop :=
  ∀ v, v.Rearranges (toJson a) → decode (.ofJson v) = .ok a

namespace Rereads

theorem of_scalar {s : Scalar} (hwritten : toJson a = s.toJson) (h : decode (.ofJson (toJson a)) = .ok a) :
    Rereads decode toJson a := by
  intro v hv
  rw [hwritten] at h hv
  rw [hv.eq_of_scalar, h]

/-- **A list is read back if its items are.** -/
theorem list (h : ∀ a ∈ xs, Rereads decode toJson a) :
    Rereads (Decode.list decode) (fun xs => .array (xs.map toJson)) xs := by
  intro v hv
  obtain ⟨vs, rfl, hitems⟩ := hv.exists_items
  rw [List.forall₂_map_right_iff] at hitems
  have hmap : (Node.ofItems vs).mapM decode = .ok xs := by
    rw [Node.ofItems_eq_map, Decode.mapM_eq_ok_iff, List.forall₂_map_left_iff]
    exact forall₂_imp_mem hitems fun v a ha hv => h a ha v hv
  exact bind_eq_ok_iff.2 ⟨xs, hmap, rfl⟩

end Rereads

/-- What is written of something is read as it, and is not null. -/
structure Keeps (decode : Decoder α) (toJson : α → Json) (a : α) : Prop where
  rereads : Rereads decode toJson a
  ne_null : toJson a ≠ .null

/-- The members of a record, each under its name and in whatever order. -/
def Record.Rearranges (r : Record) (ws : List (String × Json)) : Prop :=
  ∃ members, r = .members (Node.ofMembers members) none ∧ (members.map Prod.fst).Nodup ∧
    ∀ name, Option.Rel Json.Rearranges (member? name members) (member? name ws.reverse)

theorem Rearranges.exists_record {ws : List (String × Json)} (h : v.Rearranges (.object ws)) :
    ∃ r, (Node.ofJson v).record? = some r ∧ r.Rearranges ws := by
  obtain ⟨members, rfl, hkeys, hmembers⟩ := h.exists_members
  exact ⟨_, rfl, members, rfl, hkeys, hmembers⟩

namespace Record.Rearranges

variable {r : Record} {ws : List (String × Json)} {shape : Shape}

theorem closed (h : r.Rearranges ws) (source : Source) (shape : Shape) : r.closed source shape = .ok () := by
  obtain ⟨members, rfl, -, -⟩ := h
  exact skipFault_ofMembers _ _

/-- **A field that was written is read back.** -/
theorem field (h : r.Rearranges ws) (ha : Rereads decode toJson a) (hpart : member? name ws.reverse = some (toJson a))
    (standard : Option α) : r.field shape name standard decode = .ok a := by
  obtain ⟨members, rfl, hkeys, hmembers⟩ := h
  have hmember := hmembers name
  rw [field_eq_ok_iff (.members hkeys)]
  rw [hpart] at hmember
  generalize member? name members = part at hmember
  cases hmember with
  | some hv => exact .present (ha _ hv)

/-- A field that was written, or left out for nothing, is read back. -/
theorem optional (h : r.Rearranges ws) {o : Option α} (ho : ∀ a ∈ o, Keeps decode toJson a)
    (hpart : member? name ws.reverse = o.map toJson) : r.optional shape name decode = .ok o := by
  obtain ⟨members, rfl, hkeys, hmembers⟩ := h
  have hmember := hmembers name
  unfold Record.optional
  rw [field_eq_ok_iff (.members hkeys)]
  rw [hpart] at hmember
  generalize member? name members = part at hmember
  cases o with
  | none =>
    cases hmember with
    | none => exact .missing rfl
  | some a =>
    obtain ⟨ha, hnull⟩ := ho a rfl
    cases hmember with
    | some hv => exact .present (Decode.optional_eq_ok_iff.2 (.value (hv.ne_null hnull) (ha _ hv)))

end Record.Rearranges

end Json
end ProductQuery
