import ProductQuery.Command.Config
import ProductQuery.Proofs.Steps
/-!
# Proofs.AcceptedSettings — which settings are accepted

Settings are accepted if they are read and every check of them passes (`ofSymbols_eq_ok_iff`, `check_eq_ok_iff`).
-/
namespace ProductQuery
namespace Config

variable {text : List Symbol} {c : Config}

theorem ofSymbols_eq_ok_iff : ofSymbols text = .ok c ↔ Json.Decode.text decode text = .ok c ∧ c.check = .ok () := by
  have hmap : (Json.Decode.text decode text).mapError ConfigFault.invalid = .ok c ↔
      Json.Decode.text decode text = .ok c := by
    cases Json.Decode.text decode text with
    | error e => exact iff_of_false (fun h => by cases h) (fun h => by cases h)
    | ok c' => exact ⟨fun h => by cases h; rfl, fun h => by cases h; rfl⟩
  constructor
  · intro h
    obtain ⟨c', hread, h⟩ := bind_eq_ok_iff.1 h
    obtain ⟨⟨⟩, hcheck, h⟩ := bind_eq_ok_iff.1 h
    obtain rfl := Except.ok.inj h
    exact ⟨hmap.1 hread, hcheck⟩
  · rintro ⟨hread, hcheck⟩
    exact bind_eq_ok_iff.2 ⟨c, hmap.2 hread, bind_eq_ok_iff.2 ⟨(), hcheck, rfl⟩⟩

theorem check_eq_ok_iff : c.check = .ok () ↔ checkPath "products_path" c.productsPath = .ok () ∧
    checkPath "attributes_path" c.attributesPath = .ok () ∧ c.service.check = .ok () ∧ checkLatency c.latency = .ok () := by
  have hservice : c.service.check.mapError ConfigFault.service = .ok () ↔ c.service.check = .ok () := by
    cases c.service.check with
    | error e => exact iff_of_false (fun h => by cases h) (fun h => by cases h)
    | ok _ => exact iff_of_true rfl rfl
  rw [← hservice]
  constructor
  · intro h
    obtain ⟨⟨⟩, hproducts, h⟩ := bind_eq_ok_iff.1 h
    obtain ⟨⟨⟩, hattributes, h⟩ := bind_eq_ok_iff.1 h
    obtain ⟨⟨⟩, hservice, hlatency⟩ := bind_eq_ok_iff.1 h
    exact ⟨hproducts, hattributes, hservice, hlatency⟩
  · rintro ⟨hproducts, hattributes, hservice, hlatency⟩
    simp only [check, hproducts, hattributes, hservice, hlatency]
    rfl

/-- The characters of white space, as ranges. -/
def blankRanges : List (Nat × Nat) := [(0x9, 0xD), (0x20, 0x20), (0x85, 0x85), (0xA0, 0xA0), (0x1680, 0x1680),
  (0x2000, 0x200A), (0x2028, 0x2029), (0x202F, 0x202F), (0x205F, 0x205F), (0x3000, 0x3000)]

theorem blanks_eq : blanks = ⟨blankRanges⟩ := by
  have hruns : (CharSet.alternate 0 ((Partition.words Property.whiteSpaceRuns.toList).map Partition.number)).filter
      (fun r => r.1 ≤ r.2) = blankRanges := by decide +kernel
  have hordered : blankRanges.Pairwise (fun r s => r.1 ≤ s.1) := by decide
  rw [blanks, CharSet.decode, CharSet.ofRanges, hruns, List.mergeSort_of_pairwise (by simpa using hordered)]
  simp [CharSet.join, blankRanges]

theorem checkPath_of_head {member path : String} {first : Char} (hfirst : path.toList.head? = some first)
    (hblank : blanks.contains first = false) : checkPath member path = .ok () := by
  obtain ⟨rest, hrest⟩ := List.head?_eq_some_iff.1 hfirst
  rw [checkPath, hrest, List.all_cons, hblank]
  rfl

end Config
end ProductQuery
