import ProductQuery.Proofs.IntegerRounding
import ProductQuery.Proofs.SelectedRecords
import ProductQuery.Proofs.Sorting
/-!
# Proofs.Timestamps — timestamps in sorts and filters

A timestamp is an integer of 64 bits, but a query sees the double nearest to it.  So records are sorted by these doubles,
those with one double in the order of the collection, and a filter compares the double of a timestamp with the double of
its operand (`ComparesAsDoubles`).  Below `2^53` the doubles are the integers; beyond, rounding never exchanges two
timestamps but makes some of them equal that are up to 1024 apart (`timestamps_compare_as_doubles`).
-/
namespace ProductQuery
namespace Timestamp

/-- What a query sees of a timestamp: the nearest double, as a count of the same units for all doubles. -/
def nearest (t : Int64) : Int := (Binary64.ofInt t.toInt).value

/-- Two timestamps of which one is below `2^53`, in either direction, or both are up to it. -/
def AreExact (s t : Int64) : Prop :=
  s.toInt.natAbs < 2 ^ 53 ∨ t.toInt.natAbs < 2 ^ 53 ∨ s.toInt.natAbs ≤ 2 ^ 53 ∧ t.toInt.natAbs ≤ 2 ^ 53

variable {s t : Int64}

theorem natAbs_toInt_le (t : Int64) : t.toInt.natAbs ≤ 2 ^ 63 := by
  have hleast := t.le_toInt
  have hmost := t.toInt_lt
  omega

theorem nearest_mono (h : s.toInt ≤ t.toInt) : nearest s ≤ nearest t := Binary64.value_ofInt_mono h

theorem toInt_lt_of_nearest_lt (h : nearest s < nearest t) : s.toInt < t.toInt := by
  apply Int.lt_of_not_ge
  intro hle
  have hnearest := nearest_mono hle
  omega

theorem toInt_le_of_nearest_eq (h : nearest s = nearest t) : t.toInt ≤ s.toInt + 1024 := by
  have hsub := Binary64.sub_le_of_value_ofInt_eq (natAbs_toInt_le s) (natAbs_toInt_le t) h
  omega

theorem toInt_eq_of_nearest_eq (hexact : AreExact s t) (h : nearest s = nearest t) : s.toInt = t.toInt := by
  rcases hexact with hs | ht | hboth
  · exact Binary64.eq_of_value_ofInt_eq h (.inl hs)
  · exact (Binary64.eq_of_value_ofInt_eq h.symm (.inl ht)).symm
  · exact Binary64.eq_of_value_ofInt_eq h (.inr hboth)

/-- **Doubles compare as the integers do, unless two integers share one.** -/
theorem nearest_le_iff (hexact : AreExact s t) : nearest s ≤ nearest t ↔ s.toInt ≤ t.toInt := by
  constructor
  · intro h
    rcases Int.lt_or_eq_of_le h with hlt | heq
    · exact Int.le_of_lt (toInt_lt_of_nearest_lt hlt)
    · exact Int.le_of_eq (toInt_eq_of_nearest_eq hexact heq)
  · exact nearest_mono

theorem areExact_comm : AreExact s t ↔ AreExact t s := by
  unfold AreExact
  omega

/-- Doubles in order belong to integers in order, but for a step back within one double. -/
theorem toInt_le_of_nearest_le (h : nearest s ≤ nearest t) : s.toInt ≤ t.toInt + 1024 := by
  rcases Int.lt_or_eq_of_le h with hlt | heq
  · have hints := toInt_lt_of_nearest_lt hlt
    omega
  · exact toInt_le_of_nearest_eq heq.symm

/-- The operators that compare numbers, and the relations that they stand for. -/
def comparisons : List (OperatorName × (Int → Int → Prop)) :=
  [(.eq, (· = ·)), (.ne, (· ≠ ·)), (.gt, (· > ·)), (.gte, (· ≥ ·)), (.lt, (· < ·)), (.lte, (· ≤ ·))]

theorem forall_comparisons {P : OperatorName → (Int → Int → Prop) → Prop} :
    (∀ c ∈ comparisons, P c.1 c.2) ↔ P .eq (· = ·) ∧ P .ne (· ≠ ·) ∧ P .gt (· > ·) ∧ P .gte (· ≥ ·) ∧
      P .lt (· < ·) ∧ P .lte (· ≤ ·) := by
  simp [comparisons]

theorem equals_ofInt64 (s t : Int64) :
    (FieldValue.ofInt64 s).Equals (.number (.ofInt64 t)) ↔ nearest s = nearest t := by
  constructor
  · rintro ⟨⟩
    assumption
  · exact FieldValue.Equals.number (x := Binary64.ofInt s.toInt) (n := .ofInt64 t)

theorem compares_ofInt64 (rel : Int → Int → Prop) (s t : Int64) :
    (FieldValue.ofInt64 s).Compares rel (.number (.ofInt64 t)) ↔ rel (nearest s) (nearest t) := by
  constructor
  · rintro ⟨⟩
    assumption
  · exact FieldValue.Compares.number (x := Binary64.ofInt s.toInt) (n := .ofInt64 t)

theorem demands_iff (s t : Int64) : ∀ c ∈ comparisons,
    c.1.Demands (.ofInt64 s) (.number (.ofInt64 t)) ↔ c.2 (nearest s) (nearest t) := by
  refine (forall_comparisons (P := fun op rel => op.Demands _ _ ↔ rel _ _)).2 ⟨?_, ?_, ?_, ?_, ?_, ?_⟩
  · exact equals_ofInt64 s t
  · exact not_congr (equals_ofInt64 s t)
  all_goals exact compares_ofInt64 _ s t

/-- Where the doubles compare as the integers do, every operator does. -/
theorem comparison_iff (hexact : AreExact s t) : ∀ c ∈ comparisons,
    c.2 (nearest s) (nearest t) ↔ c.2 s.toInt t.toInt := by
  have hle := nearest_le_iff hexact
  have hge := nearest_le_iff (areExact_comm.1 hexact)
  refine (forall_comparisons (P := fun _ rel => rel _ _ ↔ rel _ _)).2 ⟨?_, ?_, ?_, hge, ?_, hle⟩ <;> omega

end Timestamp

/-! ## Sorting and filtering by a timestamp -/

open Timestamp

/-- How a field of records that holds a timestamp is sorted and filtered by. -/
structure ComparesAsDoubles (R : Type) {F K : Type} [Queryable R F K] (name : String) (stamp : R → Int64) : Prop where
  /-- Records are sorted by the doubles, and as they stand where these are equal. -/
  sorts : ∃ key, Queryable.sortKey? (R := R) name = some key ∧ ∀ xs : List R,
    (∀ o, (Engine.sortBy key o xs).Perm xs ∧ ∀ r : R,
      (Engine.sortBy key o xs).filter (fun a => nearest (stamp a) = nearest (stamp r)) =
        xs.filter (fun a => nearest (stamp a) = nearest (stamp r)) ∧
      (Engine.sortBy key o xs).filter (fun a => stamp a = stamp r) = xs.filter (fun a => stamp a = stamp r)) ∧
    (Engine.sortBy key .asc xs).Pairwise (fun a b => nearest (stamp a) ≤ nearest (stamp b)) ∧
    (Engine.sortBy key .desc xs).Pairwise (fun a b => nearest (stamp b) ≤ nearest (stamp a))
  /-- Records are selected by the doubles. -/
  selects : ∀ (n : Int64) (r : R), ∀ c ∈ comparisons,
    SelectsIff (.object [(name, .object [(c.1.name, .number (.ofInt64 n))])]) r (c.2 (nearest (stamp r)) (nearest n))

namespace ComparesAsDoubles

variable {R F K : Type} [Queryable R F K] {name : String} {stamp : R → Int64} {key : K}

theorem compareBy_ofInt64 (o : SortOrder) (s t : Int64) :
    FieldValue.compareBy o (.ofInt64 s) (.ofInt64 t) = o.apply (compare (nearest s) (nearest t)) := rfl

theorem recordOrder_ne_gt_iff (hvalue : ∀ r : R, Queryable.sortValue r key = .ofInt64 (stamp r)) (a b : R) :
    (Engine.recordOrder key .asc a b ≠ .gt ↔ nearest (stamp a) ≤ nearest (stamp b)) ∧
      (Engine.recordOrder key .desc a b ≠ .gt ↔ nearest (stamp b) ≤ nearest (stamp a)) := by
  unfold Engine.recordOrder
  rw [hvalue, hvalue, compareBy_ofInt64, compareBy_ofInt64]
  constructor
  · exact Int.compare_ne_gt
  · show (compare (nearest (stamp a)) (nearest (stamp b))).swap ≠ .gt ↔ _
    rw [← Std.OrientedOrd.eq_swap]
    exact Int.compare_ne_gt

theorem tied_eq_filter (hvalue : ∀ r : R, Queryable.sortValue r key = .ofInt64 (stamp r)) (o : SortOrder) (r : R)
    (xs : List R) : tied (Engine.recordOrder key o) r xs =
      xs.filter (fun a => nearest (stamp a) = nearest (stamp r)) := by
  unfold tied Engine.recordOrder
  refine List.filter_congr fun a _ => ?_
  rw [hvalue, hvalue, compareBy_ofInt64]
  rw [Bool.eq_iff_iff, beq_iff_eq, decide_eq_true_iff]
  rw [eq_comm (a := nearest (stamp a)), ← Int.compare_eq_eq]
  cases o <;> simp [SortOrder.apply]

theorem filter_stamp (xs : List R) (r : R) :
    (xs.filter (fun a => nearest (stamp a) = nearest (stamp r))).filter (fun a => stamp a = stamp r) =
      xs.filter (fun a => stamp a = stamp r) := by
  rw [List.filter_filter]
  refine List.filter_congr fun a _ => ?_
  by_cases h : stamp a = stamp r <;> simp [h]

/-- **Sorting by a timestamp is sorting by its double.** -/
theorem of_sortValue (hkey : Queryable.sortKey? (R := R) name = some key)
    (hvalue : ∀ r : R, Queryable.sortValue r key = .ofInt64 (stamp r))
    (hselects : ∀ (op : OperatorName) (v : Json) (r : R),
      SelectsIff (.object [(name, .object [(op.name, v)])]) r (op.Demands (.ofInt64 (stamp r)) v)) :
    ComparesAsDoubles R name stamp where
  sorts := by
    refine ⟨key, hkey, fun xs => ⟨fun o => ?_, ?_, ?_⟩⟩
    · have hstable := Engine.isStableSort_sortBy key o xs
      refine ⟨hstable.perm, fun r => ?_⟩
      have hties := hstable.stable r
      rw [tied_eq_filter hvalue, tied_eq_filter hvalue] at hties
      refine ⟨hties, ?_⟩
      -- Records of one timestamp are among those of one double, so they stay as they stand too.
      rw [← filter_stamp (Engine.sortBy key o xs), hties, filter_stamp]
    · exact (Engine.isStableSort_sortBy key .asc xs).sorted.imp (recordOrder_ne_gt_iff hvalue _ _).1.1
    · exact (Engine.isStableSort_sortBy key .desc xs).sorted.imp (recordOrder_ne_gt_iff hvalue _ _).2.1
  selects := fun n r c hc => (hselects c.1 _ r).congr (demands_iff (stamp r) n c hc)

theorem product (field : ProductField) {stamp : Product → Int64}
    (hfield : ∀ p : Product, p.field field = .ofInt64 (stamp p))
    (hname : ProductKey.ofName? field.name = some (.field field)) : ComparesAsDoubles Product field.name stamp := by
  refine of_sortValue hname hfield fun op v p => ?_
  rw [← hfield p]
  exact ProductFilter.selectsIff_field field op v p

theorem definition (field : DefinitionField) {stamp : Definition → Int64}
    (hfield : ∀ d : Definition, d.field field = .ofInt64 (stamp d)) :
    ComparesAsDoubles Definition field.wireName stamp := by
  refine of_sortValue (DefinitionField.ofName?_wireName field) hfield fun op v d => ?_
  rw [← hfield d]
  exact DefinitionFilter.selectsIff_field field op v d

end ComparesAsDoubles

namespace Timestamp

/-- **Timestamps compare as the doubles nearest to them**, in sorts and in filters, of products and of definitions.  The
doubles keep the order of the integers; two timestamps with one double are no more than 1024 apart, and they are the same
if one of them is below `2^53` in either direction or both are up to it, so there every sort and every filter is as the
integers are. -/
theorem timestamps_compare_as_doubles :
    ComparesAsDoubles Product "createdAt" Product.createdAt ∧
    ComparesAsDoubles Product "updatedAt" Product.updatedAt ∧
    ComparesAsDoubles Definition "createdAt" Definition.createdAt ∧
    ComparesAsDoubles Definition "updatedAt" Definition.updatedAt ∧
    (∀ s t : Int64, (s.toInt ≤ t.toInt → nearest s ≤ nearest t) ∧ (nearest s ≤ nearest t → s.toInt ≤ t.toInt + 1024)) ∧
    ∀ s t : Int64, AreExact s t → ∀ c ∈ comparisons, (c.2 (nearest s) (nearest t) ↔ c.2 s.toInt t.toInt) := by
  refine ⟨?_, ?_, ?_, ?_, fun s t => ⟨nearest_mono, toInt_le_of_nearest_le⟩, fun s t => comparison_iff⟩
  · exact ComparesAsDoubles.product .createdAt (fun _ => rfl) (by decide)
  · exact ComparesAsDoubles.product .updatedAt (fun _ => rfl) (by decide)
  · exact ComparesAsDoubles.definition .createdAt (fun _ => rfl)
  · exact ComparesAsDoubles.definition .updatedAt (fun _ => rfl)

/-- A definition of the first milliseconds is found below an instant that is no double. -/
theorem timestamps_compare_as_doubles_first :
    let d : Definition := .plain "d1" "k" "n" .text 5 7
    SelectsIff (.object [("createdAt", .object [("$lt", .number (.ofInt64 9007199254740993))])]) d True := by
  intro d
  obtain ⟨-, -, hcreated, -, -, hexact⟩ := timestamps_compare_as_doubles
  have hlt : (OperatorName.lt, (· < ·)) ∈ comparisons := by simp [comparisons]
  have hsmall : AreExact 5 9007199254740993 := .inl (by decide)
  have hints : Int64.toInt 5 < Int64.toInt 9007199254740993 := by decide
  exact (hcreated.selects 9007199254740993 d _ hlt).congr (iff_true_intro ((hexact _ _ hsmall _ hlt).2 hints))

/-- A product comes before one that is a millisecond older, and it is found by the timestamp of that one. -/
theorem timestamps_share_double :
    let later : Product := ⟨"p1", "s", 9007199254740993, 0, []⟩
    let earlier : Product := ⟨"p2", "s", 9007199254740992, 0, []⟩
    earlier.createdAt < later.createdAt ∧
      Engine.sortBy (.field .createdAt) .asc [later, earlier] = [later, earlier] ∧
      SelectsIff (.object [("createdAt", .object [("$eq", .number (.ofInt64 earlier.createdAt))])]) later True := by
  intro later earlier
  have hnearest : nearest later.createdAt = nearest earlier.createdAt := by decide +kernel
  refine ⟨by decide, ?_, ?_⟩
  · apply Engine.sortBy_of_sorted
    rw [List.pairwise_pair]
    exact (ComparesAsDoubles.recordOrder_ne_gt_iff (fun _ => rfl) _ _).1.2 (Int.le_of_eq hnearest)
  · have hequals := (equals_ofInt64 later.createdAt earlier.createdAt).2 hnearest
    exact (ProductFilter.selectsIff_field .createdAt .eq _ later).congr (iff_true_intro hequals)

end Timestamp
end ProductQuery
