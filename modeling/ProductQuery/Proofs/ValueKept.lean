import ProductQuery.Proofs.RecordShape
import ProductQuery.Proofs.Steps
import ProductQuery.Record.Decode
/-!
# Proofs.ValueKept — what attribute values keep of their documents

A document is read as an attribute value if it is a scalar, an array of scalars, or an object whose components are
scalars (`exists_decode_iff`).  The value is written as it was read, every member with its value and every number of its
kind, with one exception: a component that is null counts as missing and is not written (`ordered_toJson_of_decode`).
So what is written is the document exactly if no component of it is null (`written_eq_iff`).
-/
namespace ProductQuery

namespace Json

def isNull : Json → Bool
  | .null => true
  | _ => false

@[simp]
theorem isNull_iff {v : Json} : v.isNull = true ↔ v = .null := by
  cases v <;> simp [isNull]

def IsScalar (v : Json) : Prop := ∃ s : Scalar, v = s.toJson

/-- The documents of attribute values. -/
inductive IsAttributeValue : Json → Prop
  | scalar {v : Json} (h : v.IsScalar) : IsAttributeValue v
  | array {items : List Json} (h : ∀ v ∈ items, v.IsScalar) : IsAttributeValue (.array items)
  | object {members : List (String × Json)}
      (h : ∀ name ∈ ["value", "unit"], ∀ v, (Json.object members).Has name v → v.IsScalar) :
      IsAttributeValue (.object members)

/-- Is a member a component that is null? -/
def isNullComponent (m : String × Json) : Bool := Measure.shape.fields.contains m.1 && m.2.isNull

/-- An object without the components that are null, and any other value as it is. -/
def withoutNullComponents : Json → Json
  | .object members => .object (members.filter (fun m => !isNullComponent m))
  | v => v

variable {v : Json}

theorem withoutNullComponents_eq_iff :
    v.withoutNullComponents = v ↔ ∀ name ∈ ["value", "unit"], ¬v.Has name .null := by
  cases v with
  | object members =>
    rw [withoutNullComponents, Json.object.injEq, List.filter_eq_self]
    constructor
    · intro h name hname hnull
      have hkept := h _ hnull
      simp only [isNullComponent, isNull, Bool.and_true, Bool.not_eq_true'] at hkept
      cases hkept.symm.trans (List.contains_iff_mem.2 hname)
    · intro h m hm
      rw [Bool.not_eq_true', isNullComponent, Bool.and_eq_false_iff]
      by_cases hname : m.1 ∈ ["value", "unit"]
      · refine .inr (Bool.eq_false_iff.2 fun hnull => h m.1 hname ?_)
        rw [← isNull_iff.1 hnull]
        exact hm
      · exact .inl (Bool.eq_false_iff.2 fun hin => hname (List.contains_iff_mem.1 hin))
  | _ => exact iff_of_true rfl fun _ _ h => h

/-! ## The members of a node -/

variable {members : List (String × Json)} {ms : List (String × Node)} {name : String}

theorem Node.memberValues_eq_map : ∀ ms : List (String × Node),
    Node.memberValues ms = ms.map (fun m => (m.1, m.2.value))
  | [] => rfl
  | (k, n) :: rest => by rw [memberValues, List.map_cons, Node.memberValues_eq_map rest]

theorem Node.itemValues_eq_map : ∀ items : List Node, Node.itemValues items = items.map Node.value
  | [] => rfl
  | n :: rest => by rw [itemValues, List.map_cons, Node.itemValues_eq_map rest]

@[simp]
theorem Node.readError?_ofJson (v : Json) : (Node.ofJson v).readError? = none := by cases v <;> rfl

theorem member?_eq_head? (name : String) : ∀ members : List (String × Json),
    member? name members = ((members.filter (fun m => m.1 = name)).map Prod.snd).head?
  | [] => rfl
  | m :: rest => by
    rw [member?_cons, member?_eq_head? name rest]
    by_cases h : name = m.1
    · simp [h]
    · simp [h, Ne.symm h]

/-- The member of a name that occurs once at most, among members in order. -/
theorem member?_orderMembers_memberValues (ms : List (String × Node)) (name : String) :
    member? name (orderMembers (Node.memberValues ms)) =
      (((Record.places name ms).map Prod.snd).reverse.map Node.value).head? := by
  rw [member?_orderMembers, member?_eq_head?, Record.map_snd_places, Node.memberValues_eq_map, ← List.map_reverse,
    List.filter_map, List.map_map, ← List.map_reverse, List.filter_reverse, List.map_map]
  rfl

theorem Decode.whole_eq_ok_iff {α : Type} {decode : Decoder α} {n : Node} {a : α} :
    Decode.whole decode n = .ok a ↔ n.readError? = none ∧ decode n = .ok a := by
  unfold Decode.whole
  cases n.readError? with
  | some e => exact iff_of_false (fun h => by cases h) (fun h => by cases h.1)
  | none => exact (and_iff_right rfl).symm

/-- What may be null is null, or is read as it would be otherwise. -/
theorem Decode.optional_eq_ok {α : Type} {decode : Decoder α} {n : Node} {o : Option α}
    (h : Decode.optional decode n = .ok o) :
    (n = .null ∧ o = none) ∨ (n ≠ .null ∧ ∃ a, o = some a ∧ decode n = .ok a) := by
  unfold Decode.optional at h
  split at h
  · exact .inl ⟨rfl, (Except.ok.inj h).symm⟩
  · cases h
  · rename_i hnull _
    refine .inr ⟨hnull, ?_⟩
    cases hdecode : decode n with
    | error e =>
      rw [hdecode] at h
      cases h
    | ok a =>
      rw [hdecode] at h
      exact ⟨a, (Except.ok.inj h).symm, rfl⟩

end Json

/-! ## Scalars -/

namespace Scalar

open Json

variable {n : Node} {s : Scalar} {v : Json}

theorem isOrdered_toJson (s : Scalar) : s.toJson.IsOrdered := by cases s <;> constructor

theorem value_of_ofNode? (h : ofNode? n = some s) : n.value = s.toJson := by
  cases n with
  | array items ending fault => cases h
  | object members ending fault => cases h
  | refused start fault => cases h
  | _ =>
    obtain rfl := Option.some.inj h
    rfl

theorem decode_eq_ok_iff : decode n = .ok s ↔ n.readError? = none ∧ ofNode? n = some s := by
  rw [decode, Decode.whole_eq_ok_iff]
  cases ofNode? n <;> simp

@[simp]
theorem ofNode?_ofJson : ofNode? (.ofJson v) = some s ↔ v = s.toJson := by
  cases v <;> cases s <;> simp [ofNode?, Node.ofJson, toJson]

@[simp]
theorem decode_ofJson_eq_ok_iff : decode (.ofJson v) = .ok s ↔ v = s.toJson := by
  rw [decode_eq_ok_iff, ofNode?_ofJson]
  exact and_iff_right (Node.readError?_ofJson v)

@[simp]
theorem ofNode?_eq_null : ofNode? n = some .null ↔ n = .null := by
  cases n <;> simp [ofNode?]

/-- A component is read as its value, or as none if it is null. -/
theorem map_toJson_of_optional {o : Option Scalar} (h : Decode.optional decode n = .ok o) :
    o.map toJson = (some n.value).filter (fun v => !v.isNull) := by
  rcases Decode.optional_eq_ok h with ⟨rfl, rfl⟩ | ⟨hn, s, rfl, hs⟩
  · rfl
  · obtain ⟨-, hnode⟩ := decode_eq_ok_iff.1 hs
    have hnull : s.toJson.isNull = false := by
      cases s with
      | null => exact absurd (ofNode?_eq_null.1 hnode) hn
      | _ => rfl
    rw [value_of_ofNode? hnode]
    simp [Option.filter_some, hnull]

end Scalar

/-! ## Objects -/

namespace Measure

open Json

variable {ms : List (String × Node)} {ending : Option SyntaxError} {name : String} {extra : List (String × Json)}

/-- A component is the member of its name, unless that is null. -/
theorem map_toJson_of_component {o : Option Scalar}
    (h : (Record.members ms ending).optional shape name Scalar.decode = .ok o) :
    o.map Scalar.toJson = (member? name (orderMembers (Node.memberValues ms))).filter (fun v => !v.isNull) := by
  rw [member?_orderMembers_memberValues]
  unfold Record.optional Record.field at h
  dsimp only at h
  split at h
  · rename_i hplaces
    obtain rfl := Piece.ok.inj h
    rw [hplaces]
    rfl
  · rename_i i n rest hplaces
    rw [hplaces]
    split at h
    · cases h
    · obtain rfl := Piece.ok.inj h
      rename_i hdecode
      exact Scalar.map_toJson_of_optional hdecode
    · cases h

/-- The other members are kept as they are. -/
theorem member?_of_extraPart (h : extraPart ms = .ok extra) (name : String) :
    extra.Pairwise Precedes ∧ (∀ m ∈ extra, m.2.IsOrdered) ∧ member? name extra =
      if shape.fields.contains name then none else member? name (orderMembers (Node.memberValues ms)) := by
  have hothers : (ms.zipIdx.filter (fun m => !shape.fields.contains m.1.1)).map (fun m => (m.1.1, m.1.2.value)) =
      (Node.memberValues ms).filter (fun m => !shape.fields.contains m.1) := by
    conv => rhs; rw [Node.memberValues_eq_map, ← List.zipIdx_map_fst 0 ms]
    rw [List.map_map, List.filter_map]
    rfl
  unfold extraPart at h
  dsimp only at h
  split at h
  · cases h
  · obtain rfl := Piece.ok.inj h
    rw [hothers]
    have hordered : IsOrdered (.object (orderMembers ((Node.memberValues ms).filter
        (fun m => !shape.fields.contains m.1)))) :=
      isOrdered_orderMembers fun m hm => Node.isOrdered_of_mem_memberValues ms m (List.mem_filter.1 hm).1
    cases hordered with
    | object hkeys hvalues =>
      refine ⟨hkeys, hvalues, ?_⟩
      rw [member?_orderMembers, member?_orderMembers, ← List.filter_reverse,
        member?_filter_fst (fun key => !shape.fields.contains key)]
      cases shape.fields.contains name <;> rfl

theorem decode_object_eq_ok_iff {fault : Option Fault} {m : Measure} : decode (.object ms ending fault) = .ok m ↔
    (Record.members ms ending).optional shape "value" Scalar.decode = .ok m.value ∧
    (Record.members ms ending).optional shape "unit" Scalar.decode = .ok m.unit ∧
    extraPart ms = .ok m.extra ∧ endPart ms ending = .ok () := by
  unfold decode
  dsimp only
  rw [Piece.toDecoded_eq_ok_iff, Piece.both_eq_ok_iff]
  constructor
  · rintro ⟨m, _, hm, hend, rfl⟩
    obtain ⟨_, extra, hparts, hextra, rfl⟩ := Piece.seq_eq_ok_iff.1 hm
    obtain ⟨value, unit, hvalue, hunit, rfl⟩ := Piece.map_seq_eq_ok_iff.1 hparts
    exact ⟨hvalue, hunit, hextra, hend⟩
  · rintro ⟨hvalue, hunit, hextra, hend⟩
    refine ⟨m, (), Piece.seq_eq_ok_iff.2 ⟨Measure.mk m.value m.unit, m.extra, ?_, hextra, rfl⟩, hend, rfl⟩
    exact Piece.map_seq_eq_ok_iff.2 ⟨m.value, m.unit, hvalue, hunit, rfl⟩

@[simp]
theorem mem_shape_fields : name ∈ shape.fields ↔ name = "value" ∨ name = "unit" := by
  simp [shape]

@[simp]
theorem member?_memberOf (key name : String) (o : Option Scalar) :
    member? key (memberOf name o) = if key = name then o.map Scalar.toJson else none := by
  cases o with
  | none => simp [memberOf]
  | some s => simp [memberOf]

@[simp]
theorem memberOf_reverse (name : String) (o : Option Scalar) : (memberOf name o).reverse = memberOf name o := by
  cases o <;> rfl

theorem isOrdered_of_mem_memberOf {o : Option Scalar} : ∀ m ∈ memberOf name o, m.2.IsOrdered := by
  intro m hm
  cases o with
  | none => cases hm
  | some s =>
    obtain rfl := List.mem_singleton.1 hm
    exact s.isOrdered_toJson

theorem isOrdered_of_mem_members {m : Measure} (hextra : extraPart ms = .ok m.extra) :
    ∀ w ∈ memberOf "value" m.value ++ memberOf "unit" m.unit ++ m.extra, w.2.IsOrdered := by
  obtain ⟨-, hordered, -⟩ := member?_of_extraPart hextra ""
  intro w hw
  rcases List.mem_append.1 hw with hw | hw
  · rcases List.mem_append.1 hw with hw | hw <;> exact isOrdered_of_mem_memberOf w hw
  · exact hordered w hw

/-- What is found in a measure is what is found in its document, unless that is a component that is null. -/
theorem member?_members_of_decode {fault : Option Fault} {m : Measure} (h : decode (.object ms ending fault) = .ok m)
    (key : String) : member? key (memberOf "value" m.value ++ memberOf "unit" m.unit ++ m.extra).reverse =
      (member? key (orderMembers (Node.memberValues ms))).filter (fun v => !isNullComponent (key, v)) := by
  obtain ⟨hvalue, hunit, hextra, -⟩ := decode_object_eq_ok_iff.1 h
  obtain ⟨hkeys, -, hother⟩ := member?_of_extraPart hextra key
  have hrest : member? key m.extra.reverse = member? key m.extra := by
    rw [← member?_orderMembers, orderMembers_of_pairwise hkeys]
  simp only [List.reverse_append, memberOf_reverse, member?_append, member?_memberOf, hrest, hother]
  -- A name is that of a component, or of another member.
  by_cases hcomponent : shape.fields.contains key = true
  · have hname : key = "value" ∨ key = "unit" := by simpa using hcomponent
    have hnull : ∀ v : Json, (!isNullComponent (key, v)) = !v.isNull := by
      intro v
      rw [isNullComponent, hcomponent, Bool.true_and]
    simp only [hnull, hcomponent, if_true, Option.none_or]
    rcases hname with rfl | rfl
    · simp [map_toJson_of_component hvalue]
    · simp [map_toJson_of_component hunit]
  · have hne : key ≠ "value" ∧ key ≠ "unit" := by simpa using hcomponent
    have hkept : ∀ v : Json, (!isNullComponent (key, v)) = true := by
      intro v
      rw [isNullComponent, Bool.eq_false_iff.2 hcomponent, Bool.false_and, Bool.not_false]
    simp only [hkept, if_neg hcomponent, if_neg hne.1, if_neg hne.2, Option.or_none]
    cases member? key (orderMembers (Node.memberValues ms)) <;> rfl

/-- **An object is written with every member it was read with, but for components that are null.** -/
theorem ordered_toJson_of_decode {n : Node} {m : Measure} (h : decode n = .ok m) :
    m.toJson.ordered = n.value.withoutNullComponents := by
  cases n with
  | object ms ending fault =>
    obtain ⟨-, -, hextra, -⟩ := decode_object_eq_ok_iff.1 h
    have hmembers := isOrdered_of_mem_members hextra
    have hnode : IsOrdered (.object (orderMembers (Node.memberValues ms))) :=
      isOrdered_orderMembers (Node.isOrdered_of_mem_memberValues ms)
    rw [toJson, ordered, orderedMembers_of_isOrdered hmembers, Node.value, withoutNullComponents, Json.object.injEq]
    refine eq_of_member?_eq (isOrdered_orderMembers hmembers).pairwise_precedes (hnode.pairwise_precedes.filter _)
      fun key => ?_
    rw [member?_filter _ key hnode.pairwise_precedes, member?_orderMembers]
    exact member?_members_of_decode h key
  | _ => cases h

theorem exists_extraPart_ofMembers (members : List (String × Json)) :
    ∃ extra, extraPart (Node.ofMembers members) = .ok extra := by
  have hnone : ((Node.ofMembers members).zipIdx.filter (fun m => !shape.fields.contains m.1.1)).find?
      (fun m => m.1.2.readError?.isSome) = none := by
    rw [List.find?_eq_none]
    intro m hm
    have hmem := List.fst_mem_of_mem_zipIdx (List.mem_filter.1 hm).1
    rw [Node.ofMembers_eq_map] at hmem
    obtain ⟨n, -, hn⟩ := List.mem_map.1 hmem
    rw [← hn, Node.readError?_ofJson]
    simp
  exact ⟨_, by rw [extraPart, hnone]⟩

theorem exists_decode_iff {members : List (String × Json)} (h : (Json.object members).IsOrdered) :
    (∃ m, decode (.ofJson (.object members)) = .ok m) ↔
      ∀ name ∈ ["value", "unit"], ∀ v, (Json.object members).Has name v → v.IsScalar := by
  have hcomponent : ∀ name,
      (∃ o, (Record.members (Node.ofMembers members) none).optional shape name Scalar.decode = .ok o) ↔
        ∀ v, (Json.object members).Has name v → v.IsScalar := by
    intro name
    unfold Record.optional
    simp only [Record.field_eq_ok_iff (.members h.keys_nodup), Decode.optional_eq_ok_iff, Scalar.decode_ofJson_eq_ok_iff]
    show (∃ o, Optional (fun w s => w = Scalar.toJson s) (member? name members) o) ↔ _
    rw [exists_optional_iff]
    constructor
    · intro hall v hv
      by_cases hnull : v = .null
      · exact ⟨.null, hnull⟩
      · exact hall v (h.member?_eq_some_iff.2 hv) hnull
    · exact fun hall v hv _ => hall v (h.member?_eq_some_iff.1 hv)
  obtain ⟨extra, hextra⟩ := exists_extraPart_ofMembers members
  rw [List.forall_mem_cons, List.forall_mem_singleton, ← hcomponent, ← hcomponent, Node.ofJson]
  simp only [decode_object_eq_ok_iff]
  constructor
  · rintro ⟨m, hvalue, hunit, -, -⟩
    exact ⟨⟨_, hvalue⟩, _, hunit⟩
  · rintro ⟨⟨value, hvalue⟩, unit, hunit⟩
    exact ⟨⟨value, unit, extra⟩, hvalue, hunit, hextra, rfl⟩

end Measure

/-! ## Values -/

namespace AttributeValue

open Json

variable {n : Node} {a : AttributeValue} {v : Json}

theorem map_value_of_mapM : ∀ {nodes : List Node} {items : List Scalar}, nodes.mapM Scalar.ofNode? = some items →
    nodes.map Node.value = items.map Scalar.toJson
  | [], _, h => by
    obtain rfl := Option.some.inj h
    rfl
  | n :: rest, items, h => by
    rw [List.mapM_cons] at h
    obtain ⟨s, hs, h⟩ := Option.bind_eq_some_iff.1 h
    obtain ⟨ss, hss, h⟩ := Option.bind_eq_some_iff.1 h
    obtain rfl := Option.some.inj h
    rw [List.map_cons, List.map_cons, Scalar.value_of_ofNode? hs, map_value_of_mapM hss]

theorem exists_mapM_ofItems_iff : ∀ items : List Json,
    (∃ ss, (Node.ofItems items).mapM Scalar.ofNode? = some ss) ↔ ∀ v ∈ items, v.IsScalar
  | [] => iff_of_true ⟨[], rfl⟩ (fun _ h => by cases h)
  | v :: rest => by
    rw [List.forall_mem_cons, ← exists_mapM_ofItems_iff rest, Node.ofItems, List.mapM_cons]
    constructor
    · rintro ⟨ss, h⟩
      obtain ⟨s, hs, h⟩ := Option.bind_eq_some_iff.1 h
      obtain ⟨ss, hss, -⟩ := Option.bind_eq_some_iff.1 h
      exact ⟨⟨s, Scalar.ofNode?_ofJson.1 hs⟩, ss, hss⟩
    · rintro ⟨⟨s, hs⟩, ss, hss⟩
      refine ⟨s :: ss, ?_⟩
      rw [Scalar.ofNode?_ofJson.2 hs, hss]
      rfl

theorem decode_eq_ok_iff : decode n = .ok a ↔ n.readError? = none ∧ ofNode? n = some a := by
  rw [decode, Decode.whole_eq_ok_iff]
  cases ofNode? n <;> simp

/-- **A value is written as it was read, but for components that are null.** -/
theorem ordered_toJson_of_decode (h : decode n = .ok a) : a.toJson.ordered = n.value.withoutNullComponents := by
  obtain ⟨-, hnode⟩ := decode_eq_ok_iff.1 h
  cases n with
  | array items ending fault =>
    obtain ⟨ss, hss, rfl⟩ := Option.map_eq_some_iff.1 hnode
    have hordered : IsOrdered (.array (ss.map Scalar.toJson)) := by
      refine .array fun v hv => ?_
      obtain ⟨s, -, rfl⟩ := List.mem_map.1 hv
      exact s.isOrdered_toJson
    rw [Node.value, Node.itemValues_eq_map, map_value_of_mapM hss]
    exact ordered_of_isOrdered hordered
  | object ms ending fault =>
    obtain ⟨m, hm, rfl⟩ := Option.map_eq_some_iff.1 hnode
    exact Measure.ordered_toJson_of_decode (eq_ok_of_toOption hm)
  | refused start fault => cases hnode
  | _ =>
    obtain rfl := Option.some.inj hnode
    rfl

/-- **The values that can be read** are scalars, arrays of scalars, and objects whose components are scalars. -/
theorem exists_decode_iff (h : v.IsOrdered) : (∃ a, decode (.ofJson v) = .ok a) ↔ v.IsAttributeValue := by
  simp only [decode_eq_ok_iff, Node.readError?_ofJson, true_and]
  have hscalar : v.IsScalar → v.IsAttributeValue := .scalar
  cases v with
  | array items =>
    have hitems : (∃ a, ofNode? (.ofJson (.array items)) = some a) ↔ ∀ v ∈ items, v.IsScalar := by
      rw [← exists_mapM_ofItems_iff]
      constructor
      · rintro ⟨a, ha⟩
        obtain ⟨ss, hss, -⟩ := Option.map_eq_some_iff.1 ha
        exact ⟨ss, hss⟩
      · rintro ⟨ss, hss⟩
        exact ⟨.array ss, congrArg (Option.map array) hss⟩
    rw [hitems]
    constructor
    · exact .array
    · rintro (⟨s, hs⟩ | hall | _)
      · cases s <;> cases hs
      · exact hall
  | object members =>
    have hmembers : (∃ a, ofNode? (.ofJson (.object members)) = some a) ↔
        ∃ m, Measure.decode (.ofJson (.object members)) = .ok m := by
      constructor
      · rintro ⟨a, ha⟩
        obtain ⟨m, hm, -⟩ := Option.map_eq_some_iff.1 ha
        exact ⟨m, eq_ok_of_toOption hm⟩
      · rintro ⟨m, hm⟩
        exact ⟨.structured m, congrArg (fun d => d.toOption.map structured) hm⟩
    rw [hmembers, Measure.exists_decode_iff h]
    constructor
    · exact .object
    · rintro (⟨s, hs⟩ | _ | hall)
      · cases s <;> cases hs
      · exact hall
  | null => exact iff_of_true ⟨_, rfl⟩ (hscalar ⟨.null, rfl⟩)
  | bool b => exact iff_of_true ⟨_, rfl⟩ (hscalar ⟨.bool b, rfl⟩)
  | number m => exact iff_of_true ⟨_, rfl⟩ (hscalar ⟨.number m, rfl⟩)
  | string s => exact iff_of_true ⟨_, rfl⟩ (hscalar ⟨.string s, rfl⟩)

/-- **What attribute values keep of their documents.**  A document can be read if it is a scalar, an array of scalars, or
an object whose components are scalars.  What is written back is the document without the components that are null, so
it is the document itself exactly if no component of it is null. -/
theorem written_eq_iff (hv : v.IsOrdered) :
    ((∃ a, decode (.ofJson v) = .ok a) ↔ v.IsAttributeValue) ∧
      ∀ a, decode (.ofJson v) = .ok a → a.toJson.ordered = v.withoutNullComponents ∧
        (a.toJson.ordered = v ↔ ∀ name ∈ ["value", "unit"], ¬v.Has name .null) := by
  refine ⟨exists_decode_iff hv, fun a ha => ?_⟩
  have hwritten : a.toJson.ordered = v.withoutNullComponents := by
    rw [ordered_toJson_of_decode ha, Node.value_ofJson hv]
  rw [hwritten]
  exact ⟨rfl, withoutNullComponents_eq_iff⟩

/-- A weight with a note is written as it was read. -/
theorem written_eq_weight :
    let v : Json := .object [("note", .array [.null]), ("unit", .string "kg"), ("value", .number (.ofInt64 2))]
    v.IsOrdered ∧ ∃ a, decode (.ofJson v) = .ok a ∧ a.toJson.ordered = v := by
  intro v
  have hv : v.IsOrdered := isOrdered_of_ordered_eq rfl
  obtain ⟨hshape, hkept⟩ := written_eq_iff hv
  have hscalars : v.IsAttributeValue := by
    refine .object fun name hname w hw => ?_
    simp only [has_object, List.mem_cons, Prod.mk.injEq, List.not_mem_nil, or_false] at hw
    obtain ⟨rfl, -⟩ | ⟨-, rfl⟩ | ⟨-, rfl⟩ := hw
    · exact absurd hname (by decide)
    · exact ⟨.string "kg", rfl⟩
    · exact ⟨.number (.ofInt64 2), rfl⟩
  obtain ⟨a, ha⟩ := hshape.2 hscalars
  have hnull : ∀ name ∈ ["value", "unit"], ¬v.Has name .null := by
    intro name _ hnull
    simp [v] at hnull
  exact ⟨hv, a, ha, (hkept a ha).2.2 hnull⟩

/-- A measure whose magnitude is null is written without it. -/
theorem written_ne_of_null_magnitude :
    let v : Json := .object [("unit", .string "kg"), ("value", .null)]
    v.IsOrdered ∧ v.IsAttributeValue ∧ ∃ a, decode (.ofJson v) = .ok a ∧
      a.toJson.ordered = .object [("unit", .string "kg")] ∧ a.toJson.ordered ≠ v := by
  intro v
  have hv : v.IsOrdered := isOrdered_of_ordered_eq rfl
  have hdecode : decode (.ofJson v) = .ok (.structured ⟨none, some (.string "kg"), []⟩) := by rfl
  have hwritten : (structured ⟨none, some (.string "kg"), []⟩).toJson.ordered = .object [("unit", .string "kg")] := by
    rfl
  refine ⟨hv, (exists_decode_iff hv).1 ⟨_, hdecode⟩, _, hdecode, hwritten, ?_⟩
  rw [hwritten]
  intro h
  simp [v] at h

end AttributeValue
end ProductQuery
