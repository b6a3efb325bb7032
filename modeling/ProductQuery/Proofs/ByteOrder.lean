import Mathlib.Tactic.SplitIfs
import ProductQuery.Json.Basic
import ProductQuery.Text.Symbol
/-!
# Proofs.ByteOrder — texts in the order of their bytes

The members of an object are kept in the order of their keys.  Keys are compared character by character, and UTF-8 is made
so that this is the order of their bytes (`bytes_lt_iff`): of two characters the later has the later bytes, even with more
bytes behind them (`utf8EncodeChar_append_lt`).
-/
namespace ProductQuery
namespace Text

@[simp]
theorem bytes_inj {s t : String} : bytes s = bytes t ↔ s = t := by
  rw [bytes, bytes, Array.toList_inj, ← ByteArray.ext_iff, String.toByteArray_inj]

theorem bytes_eq_flatMap (s : String) : bytes s = s.toList.flatMap String.utf8EncodeChar := by
  rw [bytes, ← String.utf8Encode_toList, List.utf8Encode, List.toList_data_toByteArray]

theorem cons_ofNat_lt {m n : Nat} (hm : m < 256) (hn : n < 256) (x y : List UInt8) :
    UInt8.ofNat m :: x < UInt8.ofNat n :: y ↔ m < n ∨ m = n ∧ x < y := by
  rw [List.cons_lt_cons_iff, UInt8.lt_iff_toNat_lt, ← UInt8.toNat_inj, UInt8.toNat_ofNat_of_lt' hm,
    UInt8.toNat_ofNat_of_lt' hn]

/-- Lists in order begin with one byte or with two in order. -/
theorem lt_or_eq_and {m n : Nat} {p : Prop} (hle : m ≤ n) (h : m = n → p) : m < n ∨ m = n ∧ p := by
  rcases Nat.lt_or_eq_of_le hle with hlt | heq
  · exact .inl hlt
  · exact .inr ⟨heq, h heq⟩

/-- **Of two characters the later has the later bytes**, whatever follows. -/
theorem utf8EncodeChar_append_lt {c d : Char} (h : c < d) (x y : List UInt8) :
    String.utf8EncodeChar c ++ x < String.utf8EncodeChar d ++ y := by
  have hcd : c.val.toNat < d.val.toNat := UInt32.lt_iff_toNat_lt.1 h
  have hd : d.val.toNat < 0x110000 := by
    have hvalid := d.valid
    simp only [UInt32.isValidChar, Nat.isValidChar] at hvalid
    omega
  unfold String.utf8EncodeChar
  generalize c.val.toNat = m at hcd
  generalize d.val.toNat = n at hcd hd
  dsimp only
  split_ifs <;> simp (disch := omega) only [List.cons_append, List.nil_append, cons_ofNat_lt]
  -- A longer code begins with a greater byte; within one length the digits decide, the most significant first.
  all_goals try exact .inl (by omega)
  · exact lt_or_eq_and (by omega) fun _ => .inl (by omega)
  · exact lt_or_eq_and (by omega) fun _ => lt_or_eq_and (by omega) fun _ => .inl (by omega)
  · exact lt_or_eq_and (by omega) fun _ => lt_or_eq_and (by omega) fun _ => lt_or_eq_and (by omega) fun _ =>
      .inl (by omega)

theorem flatMap_utf8EncodeChar_lt : ∀ {s t : List Char}, s < t →
    s.flatMap String.utf8EncodeChar < t.flatMap String.utf8EncodeChar
  | [], [], h => absurd h (List.lt_irrefl [])
  | c :: s, [], h => absurd h (List.not_lt_nil _)
  | [], d :: t, _ => by
    have hne : String.utf8EncodeChar d ++ t.flatMap String.utf8EncodeChar ≠ [] := by
      exact List.append_ne_nil_of_left_ne_nil String.utf8EncodeChar_ne_nil _
    obtain ⟨b, rest, hb⟩ := List.exists_cons_of_ne_nil hne
    rw [List.flatMap_nil, List.flatMap_cons, hb]
    exact List.nil_lt_cons b rest
  | c :: s, d :: t, h => by
    rw [List.flatMap_cons, List.flatMap_cons]
    rcases List.cons_lt_cons_iff.1 h with hcd | ⟨rfl, hst⟩
    · exact utf8EncodeChar_append_lt hcd _ _
    · exact List.append_left_lt (flatMap_utf8EncodeChar_lt hst)

theorem compare_eq_lt_iff {s t : String} : compare s t = .lt ↔ s < t := by
  show compareOfLessAndEq s t = .lt ↔ s < t
  unfold compareOfLessAndEq
  split
  · rename_i hlt
    exact iff_of_true rfl hlt
  · rename_i hnot
    split
    · exact iff_of_false (fun h => by cases h) hnot
    · exact iff_of_false (fun h => by cases h) hnot

theorem isLE_compare_iff {s t : String} : (compare s t).isLE ↔ s ≤ t := by
  rw [Ordering.isLE_iff_ne_gt, ← String.not_lt, ← compare_eq_lt_iff]
  exact not_congr Std.OrientedCmp.gt_iff_lt

theorem bytes_lt_of_compare {s t : String} (h : compare s t = .lt) : bytes s < bytes t := by
  rw [bytes_eq_flatMap, bytes_eq_flatMap]
  exact flatMap_utf8EncodeChar_lt (String.lt_iff.1 (compare_eq_lt_iff.1 h))

/-- **Texts are in the order of their bytes.** -/
theorem bytes_lt_iff {s t : String} : bytes s < bytes t ↔ compare s t = .lt := by
  refine ⟨fun h => ?_, bytes_lt_of_compare⟩
  cases hst : compare s t with
  | lt => rfl
  | eq =>
    obtain rfl := Std.LawfulEqOrd.eq_of_compare hst
    exact absurd h (List.lt_irrefl _)
  | gt => exact absurd h (List.lt_asymm (bytes_lt_of_compare (Std.OrientedCmp.lt_of_gt hst)))

end Text
end ProductQuery
