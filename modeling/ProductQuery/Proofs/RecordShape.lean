import ProductQuery.Json.Decode
import ProductQuery.Proofs.JsonOrder
/-!
# Proofs.RecordShape — which documents are records

What a record must look like can be said of its document alone: it is an object with its members, or the array of the
first of their values (`Lists`), and a part of it may have a standard for where it is missing (`Given`).  A record is read
from exactly the documents that list its parts, each of them in order for itself (`Decode.record_eq_ok_iff`,
`Record.field_eq_ok_iff`).
-/
namespace ProductQuery

/-! ## What records look like -/

namespace Json

/-- A record with its parts by their names: an object, or the array of the first of its values. -/
inductive Lists (names : List String) : Json → (String → Option Json) → Prop
  | object (members : List (String × Json)) : Lists names (.object members) (fun name => member? name members)
  | array (items : List Json) (h : items.length ≤ names.length) :
      Lists names (.array items) (fun name => items[names.idxOf name]?)

/-- A part of a record, or its standard where it is missing. -/
inductive Given {α : Type} (standard : Option α) (spells : Json → α → Prop) : Option Json → α → Prop
  | missing {a : α} (h : standard = some a) : Given standard spells none a
  | present {v : Json} {a : α} (h : spells v a) : Given standard spells (some v) a

@[simp]
theorem given_none_iff {α : Type} {standard : Option α} {spells : Json → α → Prop} {a : α} :
    Given standard spells none a ↔ standard = some a :=
  ⟨fun h => by cases h with | missing h => exact h, .missing⟩

@[simp]
theorem given_some_iff {α : Type} {standard : Option α} {spells : Json → α → Prop} {v : Json} {a : α} :
    Given standard spells (some v) a ↔ spells v a :=
  ⟨fun h => by cases h with | present h => exact h, .present⟩

theorem given_congr {α : Type} {standard : Option α} {spells spells' : Json → α → Prop} {v : Option Json} {a : α}
    (h : ∀ w ∈ v, spells w a ↔ spells' w a) : Given standard spells v a ↔ Given standard spells' v a := by
  cases v with
  | none => rw [given_none_iff, given_none_iff]
  | some w => rw [given_some_iff, given_some_iff, h w rfl]

theorem given_required_iff {α : Type} {spells : Json → α → Prop} {v : Option Json} {a : α} :
    Given none spells v a ↔ ∃ w, v = some w ∧ spells w a := by
  cases v with
  | none => exact iff_of_false (fun h => by cases given_none_iff.1 h) (fun ⟨_, h, _⟩ => by cases h)
  | some w =>
    rw [given_some_iff]
    constructor
    · exact fun h => ⟨w, rfl, h⟩
    · rintro ⟨_, ⟨⟩, h⟩
      exact h

theorem exists_given_iff {α : Type} {spells : Json → α → Prop} {v : Option Json} {standard : α} :
    (∃ a, Given (some standard) spells v a) ↔ ∀ w ∈ v, ∃ a, spells w a := by
  cases v with
  | none => exact iff_of_true ⟨standard, .missing rfl⟩ (fun _ h => by cases h)
  | some w =>
    simp only [given_some_iff]
    exact ⟨fun h _ hw => Option.some.inj hw ▸ h, fun h => h w rfl⟩

/-- Something, or null for nothing. -/
inductive OrNull {α : Type} (spells : Json → α → Prop) : Json → Option α → Prop
  | null : OrNull spells .null none
  | value {v : Json} {a : α} (hv : v ≠ .null) (h : spells v a) : OrNull spells v (some a)

theorem orNull_congr {α : Type} {spells spells' : Json → α → Prop} {v : Json} {a : Option α}
    (h : ∀ a, spells v a ↔ spells' v a) : OrNull spells v a ↔ OrNull spells' v a := by
  constructor
  · rintro (_ | ⟨hv, hs⟩)
    · exact .null
    · exact .value hv ((h _).1 hs)
  · rintro (_ | ⟨hv, hs⟩)
    · exact .null
    · exact .value hv ((h _).2 hs)

/-- A member that may be missing or null. -/
def Optional {α : Type} (spells : Json → α → Prop) (v : Option Json) (a : Option α) : Prop :=
  Given (some none) (OrNull spells) v a

theorem optional_none_iff {α : Type} {spells : Json → α → Prop} {v : Option Json} :
    Optional spells v none ↔ ∀ w ∈ v, w = .null := by
  cases v with
  | none => exact iff_of_true (.missing rfl) (fun _ h => by cases h)
  | some w =>
    rw [Optional, given_some_iff]
    constructor
    · rintro ⟨⟩ _ ⟨⟩
      rfl
    · intro h
      obtain rfl := h w rfl
      exact .null

theorem optional_some_iff {α : Type} {spells : Json → α → Prop} {v : Option Json} {a : α} :
    Optional spells v (some a) ↔ ∃ w ∈ v, w ≠ .null ∧ spells w a := by
  cases v with
  | none => exact iff_of_false (fun h => by cases h with | missing h => cases h) (fun ⟨_, h, _⟩ => by cases h)
  | some w =>
    rw [Optional, given_some_iff]
    constructor
    · rintro (_ | ⟨hw, h⟩)
      exact ⟨w, rfl, hw, h⟩
    · rintro ⟨_, ⟨⟩, hw, h⟩
      exact .value hw h

theorem exists_optional_iff {α : Type} {spells : Json → α → Prop} {v : Option Json} :
    (∃ a, Optional spells v a) ↔ ∀ w ∈ v, w ≠ .null → ∃ a, spells w a := by
  constructor
  · rintro ⟨a, h⟩ w hw hne
    cases a with
    | none => exact absurd (optional_none_iff.1 h w hw) hne
    | some a =>
      obtain ⟨w', hw', -, hs⟩ := optional_some_iff.1 h
      obtain rfl := Option.some.inj (hw.symm.trans hw')
      exact ⟨a, hs⟩
  · intro h
    by_cases hnull : ∀ w ∈ v, w = .null
    · exact ⟨none, optional_none_iff.2 hnull⟩
    · obtain ⟨w, hw⟩ := Classical.not_forall.1 hnull
      obtain ⟨hmem, hne⟩ := Classical.not_imp.1 hw
      obtain ⟨a, ha⟩ := h w hmem hne
      exact ⟨some a, optional_some_iff.2 ⟨w, hmem, hne, ha⟩⟩

/-- A part that may be missing or null spells one thing if its value does. -/
theorem optional_unique {α : Type} {spells : Json → α → Prop} {v : Option Json} {a b : Option α}
    (hspells : ∀ w ∈ v, ∀ a b, spells w a → spells w b → a = b)
    (ha : Optional spells v a) (hb : Optional spells v b) : a = b := by
  cases a with
  | none =>
    cases b with
    | none => rfl
    | some b =>
      obtain ⟨w, hw, hne, -⟩ := optional_some_iff.1 hb
      exact absurd (optional_none_iff.1 ha w hw) hne
  | some a =>
    obtain ⟨w, hw, hne, h⟩ := optional_some_iff.1 ha
    cases b with
    | none => exact absurd (optional_none_iff.1 hb w hw) hne
    | some b =>
      obtain ⟨w', hw', -, h'⟩ := optional_some_iff.1 hb
      obtain rfl := Option.some.inj (hw.symm.trans hw')
      rw [hspells w hw a b h h']

/-! ## Values as nodes -/

variable {members : List (String × Json)} {items : List Json} {name : String} {v : Json} {α : Type} {a : α}

theorem Node.ofMembers_eq_map : ∀ members : List (String × Json),
    Node.ofMembers members = members.map (fun m => (m.1, Node.ofJson m.2))
  | [] => rfl
  | (k, v) :: rest => by rw [ofMembers, List.map_cons, Node.ofMembers_eq_map rest]

theorem Node.ofItems_eq_map : ∀ items : List Json, Node.ofItems items = items.map Node.ofJson
  | [] => rfl
  | v :: rest => by rw [ofItems, List.map_cons, Node.ofItems_eq_map rest]

@[simp]
theorem Node.skipError?_ofJson (v : Json) : (Node.ofJson v).skipError? = none := by cases v <;> rfl

namespace Record

theorem map_snd_places (name : String) (ms : List (String × Node)) :
    (places name ms).map Prod.snd = (ms.filter (fun m => m.1 = name)).map Prod.snd := by
  conv => rhs; rw [← List.zipIdx_map_fst 0 ms]
  rw [places, List.map_map, List.filter_map, List.map_map]
  rfl

theorem map_snd_filter_ofMembers (h : (members.map Prod.fst).Nodup) :
    ((Node.ofMembers members).filter (fun m => m.1 = name)).map Prod.snd =
      ((member? name members).map Node.ofJson).toList := by
  induction members with
  | nil => rfl
  | cons m rest ih =>
    obtain ⟨k, w⟩ := m
    obtain ⟨hk, htail⟩ := List.nodup_cons.1 h
    have hrest := ih htail
    rw [Node.ofMembers, List.filter_cons, member?, List.lookup_cons]
    by_cases hname : k = name
    · subst hname
      rw [member?_eq_none_of_notMem hk] at hrest
      simp [hrest]
    · have hbeq : (name == k) = false := beq_eq_false_iff_ne.2 (Ne.symm hname)
      simp only [hname, hbeq, decide_false, Bool.false_eq_true, if_false]
      exact hrest

/-- The record of a value, and its parts by their names. -/
inductive Of (names : List String) : Json → Record → (String → Option Json) → Prop
  | members {members : List (String × Json)} (h : (members.map Prod.fst).Nodup) :
      Of names (.object members) (.members (Node.ofMembers members) none) (fun name => member? name members)
  | items {items : List Json} (h : items.length ≤ names.length) :
      Of names (.array items) (.items (Node.ofItems items) none) (fun name => items[names.idxOf name]?)

/-- **A part of a record is read from its value, or is standard.** -/
theorem field_eq_ok_iff {shape : Shape} {r : Record} {part : String → Option Json} (hr : Of shape.fields v r part)
    (standard : Option α) (decode : Decoder α) :
    r.field shape name standard decode = .ok a ↔
      Given standard (fun w b => decode (Node.ofJson w) = .ok b) (part name) a := by
  cases hr with
  | @members members h =>
    have hplaces := (map_snd_places name _).trans (map_snd_filter_ofMembers h)
    cases hm : member? name members with
    | none =>
      rw [hm, Option.map_none, Option.toList_none, List.map_eq_nil_iff] at hplaces
      dsimp only [field]
      rw [hplaces, hm, given_none_iff]
      cases standard with
      | none => exact iff_of_false (fun h => by cases h) (fun h => by cases h)
      | some b => rw [Piece.ok.injEq, Option.some.injEq]
    | some w =>
      rw [hm, Option.map_some, Option.toList_some] at hplaces
      obtain ⟨⟨i, n⟩, hplaces, rfl⟩ := List.map_eq_singleton_iff.1 hplaces
      dsimp only [field]
      rw [hplaces, hm, given_some_iff]
      dsimp only
      cases decode (Node.ofJson w) with
      | error e => exact iff_of_false (fun h => by cases h) (fun h => by cases h)
      | ok b => rw [Piece.ok.injEq, Except.ok.injEq]
  | @items items h =>
    have hget : (Node.ofItems items)[shape.fields.idxOf name]? = items[shape.fields.idxOf name]?.map Node.ofJson := by
      rw [Node.ofItems_eq_map, List.getElem?_map]
    dsimp only [field]
    rw [hget]
    cases items[shape.fields.idxOf name]? with
    | none =>
      rw [given_none_iff]
      cases standard with
      | none => exact iff_of_false (fun h => by cases h) (fun h => by cases h)
      | some b => exact ⟨fun h => by cases h; rfl, fun h => by cases h; rfl⟩
    | some w =>
      rw [given_some_iff]
      show Piece.ofDecoded _ (decode (Node.ofJson w)) = .ok a ↔ _
      cases decode (Node.ofJson w) with
      | error e => exact iff_of_false (fun h => by cases h) (fun h => by cases h)
      | ok b => exact ⟨fun h => by cases h; rfl, fun h => by cases h; rfl⟩

theorem skipFault_ofMembers (known : List String) (members : List (String × Json)) :
    skipFault known (Node.ofMembers members) = .ok () := by
  have hnone : (Node.ofMembers members).zipIdx.find? (fun m => !known.contains m.1.1 && m.1.2.skipError?.isSome) = none := by
    rw [List.find?_eq_none]
    intro m hm
    have hmem := List.fst_mem_of_mem_zipIdx hm
    rw [Node.ofMembers_eq_map] at hmem
    obtain ⟨n, -, hn⟩ := List.mem_map.1 hmem
    simp [← hn]
  rw [skipFault, hnone]

end Record

/-! ## Pieces -/

namespace Piece

variable {β γ : Type}

theorem both_eq_ok_iff {f : α → β → γ} {x : Piece α} {y : Piece β} {c : γ} :
    both f x y = .ok c ↔ ∃ a b, x = .ok a ∧ y = .ok b ∧ f a b = c := by
  constructor
  · intro h
    cases x with
    | ok a =>
      cases y with
      | ok b => exact ⟨a, b, rfl, rfl, Piece.ok.inj h⟩
      | fault q e => cases h
    | fault p e =>
      cases y with
      | ok b => cases h
      | fault q e' =>
        by_cases hqp : q < p
        · rw [both, if_pos hqp] at h
          cases h
        · rw [both, if_neg hqp] at h
          cases h
  · rintro ⟨a, b, rfl, rfl, rfl⟩
    rfl

@[simp]
theorem toDecoded_eq_ok_iff {x : Piece α} {a : α} : x.toDecoded = .ok a ↔ x = .ok a := by
  cases x with
  | ok b => exact ⟨fun h => by cases h; rfl, fun h => by cases h; rfl⟩
  | fault p e => exact iff_of_false (fun h => by cases h) (fun h => by cases h)

theorem map_eq_ok_iff {f : α → β} {x : Piece α} {b : β} : f <$> x = .ok b ↔ ∃ a, x = .ok a ∧ f a = b := by
  cases x with
  | ok a =>
    constructor
    · exact fun h => ⟨a, rfl, Piece.ok.inj h⟩
    · rintro ⟨_, ⟨⟩, rfl⟩
      rfl
  | fault p e => exact iff_of_false (fun h => by cases h) (fun ⟨_, h, _⟩ => by cases h)

theorem seq_eq_ok_iff {f : Piece (α → β)} {x : Piece α} {b : β} :
    (f <*> x) = .ok b ↔ ∃ g a, f = .ok g ∧ x = .ok a ∧ g a = b :=
  both_eq_ok_iff

/-- What is read of a part, as the start of the parts of a record (`exists_map_ok_iff`, `exists_seq_ok_iff`). -/
theorem eq_ok_iff_exists {x : Piece α} {a : α} : x = .ok a ↔ ∃ b, x = .ok b ∧ b = a := by
  simp only [exists_eq_right]

/-- The first part of a record. -/
theorem exists_map_ok_iff {f : α → β} {x : Piece α} {p : β → Prop} :
    (∃ b, f <$> x = .ok b ∧ p b) ↔ ∃ a, x = .ok a ∧ p (f a) := by
  simp only [map_eq_ok_iff]
  constructor
  · rintro ⟨_, ⟨a, ha, rfl⟩, hp⟩
    exact ⟨a, ha, hp⟩
  · rintro ⟨a, ha, hp⟩
    exact ⟨_, ⟨a, ha, rfl⟩, hp⟩

/-- One more part of a record. -/
theorem exists_seq_ok_iff {f : Piece (α → β)} {x : Piece α} {p : β → Prop} :
    (∃ b, (f <*> x) = .ok b ∧ p b) ↔ ∃ g, f = .ok g ∧ ∃ a, x = .ok a ∧ p (g a) := by
  simp only [seq_eq_ok_iff]
  constructor
  · rintro ⟨_, ⟨g, a, hg, ha, rfl⟩, hp⟩
    exact ⟨g, hg, a, ha, hp⟩
  · rintro ⟨g, hg, a, ha, hp⟩
    exact ⟨_, ⟨g, a, hg, ha, rfl⟩, hp⟩

theorem map_seq_eq_ok_iff {f : α → β → γ} {x : Piece α} {y : Piece β} {c : γ} :
    (f <$> x <*> y) = .ok c ↔ ∃ a b, x = .ok a ∧ y = .ok b ∧ f a b = c := by
  rw [eq_ok_iff_exists, exists_seq_ok_iff, exists_map_ok_iff]
  simp only [exists_and_left]

end Piece

theorem Record.map_seq_field_eq_ok_iff {shape : Shape} {r : Record} {part : String → Option Json}
    (hr : Of shape.fields v r part) {β γ : Type} {f : α → β → γ} {c : γ} (first second : String) (standard : Option α)
    (standard' : Option β) (decode : Decoder α) (decode' : Decoder β) :
    (f <$> r.field shape first standard decode <*> r.field shape second standard' decode') = .ok c ↔
      ∃ a b, Given standard (fun w a => decode (Node.ofJson w) = .ok a) (part first) a ∧
        Given standard' (fun w b => decode' (Node.ofJson w) = .ok b) (part second) b ∧ f a b = c := by
  rw [Piece.map_seq_eq_ok_iff]
  simp only [field_eq_ok_iff hr]

/-- **A record is read from an object, or from an array that is not too long, by its parts.** -/
theorem Decode.record_eq_ok_iff {shape : Shape} {parts : Record → Piece α} {p : (String → Option Json) → Prop}
    (hordered : v.IsOrdered) (hparts : ∀ r part, Record.Of shape.fields v r part → (parts r = .ok a ↔ p part)) :
    Decode.record .value shape parts (Node.ofJson v) = .ok a ↔ ∃ part, v.Lists shape.fields part ∧ p part := by
  cases v with
  | object members =>
    have hclosed : (Record.members (Node.ofMembers members) none).closed .value shape = .ok () :=
      Record.skipFault_ofMembers _ _
    show (Piece.both (fun a _ => a) (parts _) _).toDecoded = .ok a ↔ _
    rw [Piece.toDecoded_eq_ok_iff, Piece.both_eq_ok_iff, hclosed]
    constructor
    · rintro ⟨b, -, hb, -, rfl⟩
      exact ⟨_, .object members, (hparts _ _ (.members hordered.keys_nodup)).1 hb⟩
    · rintro ⟨_, ⟨⟩, hp⟩
      exact ⟨a, (), (hparts _ _ (.members hordered.keys_nodup)).2 hp, rfl, rfl⟩
  | array items =>
    have hclosed : (Record.items (Node.ofItems items) none).closed .value shape = .ok () ↔
        items.length ≤ shape.fields.length := by
      dsimp only [Record.closed]
      rw [Node.ofItems_eq_map, List.length_map]
      split
      · exact iff_of_false (fun h => by cases h) (by omega)
      · exact iff_of_true rfl (by omega)
    show (Piece.both (fun a _ => a) (parts _) _).toDecoded = .ok a ↔ _
    rw [Piece.toDecoded_eq_ok_iff, Piece.both_eq_ok_iff]
    constructor
    · rintro ⟨b, _, hb, hlength, rfl⟩
      exact ⟨_, .array items (hclosed.1 hlength), (hparts _ _ (.items (hclosed.1 hlength))).1 hb⟩
    · rintro ⟨part, hpart, hp⟩
      cases hpart with
      | array _ hlength => exact ⟨a, (), (hparts _ _ (.items hlength)).2 hp, hclosed.2 hlength, rfl⟩
  | _ => exact iff_of_false (fun h => by cases h) (fun ⟨_, h, _⟩ => by cases h)

/-! ## Values -/

@[simp]
theorem Decode.string_eq_ok_iff {s : String} : Decode.string (Node.ofJson v) = .ok s ↔ v = .string s := by
  cases v with
  | string t => exact ⟨fun h => by cases h; rfl, fun h => by cases h; rfl⟩
  | _ => exact iff_of_false (fun h => by cases h) (fun h => by cases h)

@[simp]
theorem Decode.int64_eq_ok_iff {n : Int64} : Decode.int64 (Node.ofJson v) = .ok n ↔ v = .number (.ofInt64 n) := by
  cases v with
  | number m =>
    cases m with
    | float x => exact iff_of_false (fun h => by cases h) (fun h => by cases h)
    | int i =>
      obtain ⟨i, hi⟩ := i
      have hspells : Json.number (.int ⟨i, hi⟩) = .number (.ofInt64 n) ↔ i = n.toInt := by
        rw [Json.number.injEq, Number.ofInt64, Number.int.injEq, Subtype.mk.injEq]
      rw [hspells]
      show (Decode.integer _ _ _ (.number (.int ⟨i, hi⟩))).map Int64.ofInt = .ok n ↔ _
      dsimp only [Decode.integer]
      split
      · rename_i hrange
        rw [Except.map, Except.ok.injEq]
        constructor
        · rintro rfl
          rw [Int64.toInt_ofInt_of_le (by omega) (by omega)]
        · rintro rfl
          exact Int64.ofInt_toInt n
      · rename_i hrange
        refine iff_of_false (fun h => by cases h) fun h => hrange ?_
        have hleast := n.le_toInt
        have hmost := n.toInt_lt
        omega
  | _ => exact iff_of_false (fun h => by cases h) (fun h => by cases h)

theorem Decode.optional_eq_ok_iff {decode : Decoder α} {b : Option α} :
    Decode.optional decode (Node.ofJson v) = .ok b ↔ OrNull (fun w a => decode (Node.ofJson w) = .ok a) v b := by
  by_cases hv : v = .null
  · subst hv
    constructor
    · rintro ⟨⟩
      exact .null
    · intro h
      cases h with
      | null => rfl
      | value hne _ => exact absurd rfl hne
  · have hmap : Decode.optional decode (Node.ofJson v) = (decode (Node.ofJson v)).map some := by
      cases v with
      | null => exact absurd rfl hv
      | _ => rfl
    rw [hmap]
    constructor
    · intro h
      cases hd : decode (Node.ofJson v) with
      | error e =>
        rw [hd] at h
        cases h
      | ok a =>
        rw [hd] at h
        cases h
        exact .value hv hd
    · intro h
      cases h with
      | null => exact absurd rfl hv
      | value _ h => rw [h]; rfl

@[simp]
theorem Decode.unit_eq_ok_iff : Decode.unit (Node.ofJson v) = .ok () ↔ v = .null := by
  cases v with
  | null => exact iff_of_true rfl rfl
  | _ => exact iff_of_false (fun h => by cases h) (fun h => by cases h)

end Json
end ProductQuery
