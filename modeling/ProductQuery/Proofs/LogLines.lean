import Mathlib.Data.List.Nodup
import ProductQuery.Log.Event
import ProductQuery.Proofs.ByteOrder
import ProductQuery.Proofs.StableSort
import ProductQuery.Proofs.WrittenText
/-!
# Proofs.LogLines — log lines cannot be forged

A line is put together from its pieces, and the pieces make up the text of one object (`Log.line_eq_text`) without a
control character in it (`Log.line_printed`).  So a logged text ends in its only line break, is read as an object of just
what was logged, and tells what that was, up to the order of fields with different keys (`Log.render_reads`).
-/
namespace ProductQuery
namespace Log

variable {severity severity' : Severity} {event event' : String} {fields fields' : List (String × String)}

@[simp]
theorem Severity.name_inj : severity.name = severity'.name ↔ severity = severity' := by
  cases severity <;> cases severity' <;> decide

/-! ## The order of fields -/

/-- Fields compare by their keys, and so by the bytes of these. -/
def keyOrder : String × String → String × String → Ordering := compareOn Prod.fst

instance : Std.TransCmp keyOrder := inferInstanceAs (Std.TransCmp (compareOn Prod.fst))

@[simp]
theorem keyOrder_eq_iff {f g : String × String} : keyOrder f g = .eq ↔ f.1 = g.1 := by
  unfold keyOrder compareOn
  exact Std.LawfulEqOrd.compare_eq_iff_eq

theorem tied_keyOrder (key value : String) (fields : List (String × String)) :
    tied keyOrder (key, value) fields = fields.filter (·.1 = key) := by
  refine List.filter_congr fun f _ => ?_
  rw [Bool.eq_iff_iff, beq_iff_eq, keyOrder_eq_iff, decide_eq_true_iff, eq_comm]

theorem isStableSort_orderFields (fields : List (String × String)) :
    IsStableSort keyOrder fields (orderFields fields) := by
  have hle : (fun f g : String × String => decide (f.1 ≤ g.1)) = fun f g => (keyOrder f g).isLE := by
    funext f g
    rw [Bool.eq_iff_iff, decide_eq_true_iff]
    exact Text.isLE_compare_iff.symm
  rw [orderFields, hle]
  exact isStableSort_mergeSort fields

theorem perm_of_filter_eq (h : ∀ key, fields.filter (·.1 = key) = fields'.filter (·.1 = key)) : fields.Perm fields' := by
  refine List.perm_iff_count.2 fun f => ?_
  have hcount : ∀ gs : List (String × String), (gs.filter (·.1 = f.1)).count f = gs.count f := fun gs =>
    List.count_filter (decide_eq_true rfl)
  rw [← hcount fields, h f.1, hcount fields']

/-- **Ordered fields tell which fields each key has**, one behind the other, and nothing else. -/
theorem orderFields_eq_iff :
    orderFields fields = orderFields fields' ↔ ∀ key, fields.filter (·.1 = key) = fields'.filter (·.1 = key) := by
  have hs := isStableSort_orderFields fields
  have hs' := isStableSort_orderFields fields'
  constructor
  · intro h key
    rw [← tied_keyOrder key "", ← tied_keyOrder key "", ← hs.stable, ← hs'.stable, h]
  · intro h
    have hperm := hs.perm.trans ((perm_of_filter_eq h).trans hs'.perm.symm)
    refine eq_of_sorted_of_tied hperm hs.sorted hs'.sorted fun f => ?_
    rw [hs.stable, hs'.stable]
    exact (tied_keyOrder f.1 f.2 fields).trans ((h f.1).trans (tied_keyOrder f.1 f.2 fields').symm)

/-- **Fields with distinct keys have one order.** -/
theorem orderFields_eq_of_perm (hkeys : (fields.map Prod.fst).Nodup) (hperm : fields'.Perm fields) :
    orderFields fields' = orderFields fields := by
  have hs := isStableSort_orderFields fields
  have hs' := isStableSort_orderFields fields'
  refine List.Perm.eq_of_pairwise (fun f g hf hg hfg hgf => ?_) hs'.sorted hs.sorted
    (hs'.perm.trans (hperm.trans hs.perm.symm))
  have hkey : f.1 = g.1 := by
    refine keyOrder_eq_iff.1 (Std.OrientedCmp.isLE_antisymm ?_ ?_)
    · exact Ordering.isLE_iff_ne_gt.2 hfg
    · exact Ordering.isLE_iff_ne_gt.2 hgf
  exact List.inj_on_of_nodup_map hkeys (hperm.subset (hs'.perm.subset hf)) (hs.perm.subset hg) hkey

/-! ## The line -/

def lineFields (severity : Severity) (event : String) (fields : List (String × String)) : List (String × String) :=
  ("event", event) :: ("severity", severity.name) :: fields

theorem flatMap_fieldChars : ∀ fields : List (String × String),
    fields.flatMap (fun f => fieldChars f.1 f.2) = Json.memberChars (Json.stringMembers fields)
  | [] => rfl
  | f :: fields => by
    rw [List.flatMap_cons, flatMap_fieldChars fields, Json.memberChars_stringMembers_cons, fieldChars]
    simp only [List.cons_append, List.append_assoc]

/-- **The pieces of a line make up the text of an object.** -/
theorem line_eq_text (severity : Severity) (event : String) (fields : List (String × String)) :
    line severity event fields =
      (Json.object (Json.stringMembers (lineFields severity event (orderFields fields)))).text := by
  have hevent : "\x7b\"event\":".toList = '\x7b' :: (Json.quoted "event" ++ [':']) := by rfl
  have hseverity : ",\"severity\":".toList = ',' :: (Json.quoted "severity" ++ [':']) := by rfl
  unfold line Json.text lineFields
  rw [flatMap_fieldChars, Json.chars_stringMembers_cons, Json.memberChars_stringMembers_cons]
  simp only [hevent, hseverity, List.cons_append, List.append_assoc, List.nil_append]

theorem fieldChars_printed (key value : String) : ∀ d ∈ fieldChars key value, 0x20 ≤ d.toNat := by
  unfold fieldChars
  rw [List.forall_mem_cons, List.forall_mem_append, List.forall_mem_cons]
  exact ⟨by decide, fun _ => Json.quoted_printed, by decide, fun _ => Json.quoted_printed⟩

/-- **A line has no control character.** -/
theorem line_printed (severity : Severity) (event : String) (fields : List (String × String)) :
    ∀ d ∈ (line severity event fields).toList, 0x20 ≤ d.toNat := by
  have hfields : ∀ d ∈ (orderFields fields).flatMap (fun f => fieldChars f.1 f.2), 0x20 ≤ d.toNat := by
    intro d hd
    obtain ⟨f, -, hd⟩ := List.mem_flatMap.1 hd
    exact fieldChars_printed f.1 f.2 d hd
  have hquoted : ∀ s : String, ∀ d ∈ Json.quoted s, 0x20 ≤ d.toNat := fun _ _ => Json.quoted_printed
  have hopening : ∀ d ∈ "\x7b\"event\":".toList, 0x20 ≤ d.toNat := by simp
  have hseverity : ∀ d ∈ ",\"severity\":".toList, 0x20 ≤ d.toNat := by simp
  have hclosing : ∀ d ∈ ['\x7d'], 0x20 ≤ d.toNat := List.forall_mem_singleton.2 (by decide)
  unfold line
  simp only [String.toList_ofList, List.forall_mem_append]
  exact ⟨⟨⟨⟨⟨hopening, hquoted event⟩, hseverity⟩, hquoted severity.name⟩, hfields⟩, hclosing⟩

/-! ## What is logged -/

theorem toList_render (severity : Severity) (event : String) (fields : List (String × String)) :
    ∃ line, '\n' ∉ line ∧ (render severity event fields).toList = line ++ ['\n'] := by
  refine ⟨(line severity event fields).toList, fun h => ?_, String.toList_append⟩
  have hprinted : 0x20 ≤ ('\n').toNat := line_printed severity event fields '\n' h
  exact absurd hprinted (by decide)

theorem readDocument_render (severity : Severity) (event : String) (fields : List (String × String)) :
    Json.Document.read (Symbol.ofText (render severity event fields)) =
      ⟨.object (Json.stringNodes (lineFields severity event (orderFields fields))) none none, false⟩ := by
  rw [render, line_eq_text, Symbol.ofText, String.toList_append, List.map_append, Json.text, String.toList_ofList]
  exact Json.Document.read_chars _ _ rfl

theorem render_congr (h : orderFields fields = orderFields fields') :
    render severity event fields = render severity event fields' := by
  rw [render, render, line_eq_text, line_eq_text, h]

/-- **Two logged texts are the same** if they are of the same event, of one severity, and if each key has the same fields
in both, in one order. -/
theorem render_eq_iff : render severity event fields = render severity' event' fields' ↔
    severity = severity' ∧ event = event' ∧ ∀ key, fields.filter (·.1 = key) = fields'.filter (·.1 = key) := by
  rw [← orderFields_eq_iff]
  constructor
  · intro h
    have hread := readDocument_render severity event fields
    rw [h, readDocument_render, Json.Document.mk.injEq, Json.Node.object.injEq] at hread
    have hfields := Json.stringNodes_injective hread.1.1
    simp only [lineFields, List.cons.injEq, Prod.mk.injEq, true_and] at hfields
    exact ⟨(Severity.name_inj.1 hfields.2.1).symm, hfields.1.symm, hfields.2.2.symm⟩
  · rintro ⟨rfl, rfl, h⟩
    exact render_congr h

/-- **A logged text is one line, which is read as what was logged**: the event, its severity, and every field once, in
the order of the keys, fields of one key as they stood.  So different fields are never logged alike, and fields with
distinct keys are logged alike in whatever order they come. -/
theorem render_reads (severity : Severity) (event : String) (fields : List (String × String)) :
    (∃ line, '\n' ∉ line ∧ (render severity event fields).toList = line ++ ['\n']) ∧
    (∃ sorted, IsStableSort keyOrder fields sorted ∧
      Json.Document.read (Symbol.ofText (render severity event fields)) =
        ⟨.object (Json.stringNodes (("event", event) :: ("severity", severity.name) :: sorted)) none none, false⟩ ∧
      Json.read (Symbol.ofText (render severity event fields)) = .ok (.object (Json.orderMembers
        (Json.stringMembers (("event", event) :: ("severity", severity.name) :: sorted))))) ∧
    (∀ severity' event' fields', render severity event fields = render severity' event' fields' ↔
      severity = severity' ∧ event = event' ∧ ∀ key, fields.filter (·.1 = key) = fields'.filter (·.1 = key)) ∧
    ((fields.map Prod.fst).Nodup → ∀ fields', fields'.Perm fields →
      render severity event fields' = render severity event fields) := by
  refine ⟨toList_render severity event fields, ?reads, fun _ _ _ => render_eq_iff, ?ordered⟩
  case reads =>
    have hread := readDocument_render severity event fields
    exact ⟨orderFields fields, isStableSort_orderFields fields, hread, Json.read_of_document hread⟩
  case ordered =>
    intro hkeys fields' hperm
    exact render_congr (orderFields_eq_of_perm hkeys hperm)

/-- A line break, quotes and brackets in the fields are kept apart from those of the line, and the order in which the
fields come makes no difference. -/
theorem render_reads_broken :
    (∃ line, '\n' ∉ line ∧ (render .warn "E" [("reason", "\"\x7d\n\x7b\""), ("event", "\\")]).toList = line ++ ['\n']) ∧
    render .warn "E" [("event", "\\"), ("reason", "\"\x7d\n\x7b\"")] =
      render .warn "E" [("reason", "\"\x7d\n\x7b\""), ("event", "\\")] := by
  obtain ⟨hline, -, -, hordered⟩ := render_reads .warn "E" [("reason", "\"\x7d\n\x7b\""), ("event", "\\")]
  exact ⟨hline, hordered (by decide) _ (List.Perm.swap _ _ [])⟩

end Log
end ProductQuery
