import Mathlib.Tactic.SplitIfs
import ProductQuery.Json.Reader
import ProductQuery.Json.Writer
/-!
# Proofs.WrittenText — objects of strings, written and read back

A string is quoted so that reading it gives it back and stops behind its closing quote, whatever its characters are
(`readString_quoted`), and so that no control character is left in it (`quoted_printed`).  An object whose members are
strings is read back from its text, every member in its place (`Document.read_text`), so two such objects with one text
are the same.
-/
namespace ProductQuery
namespace Json

variable {done : List Char} {rest : List Symbol}

/-! ## Strings -/

theorem hexQuad?_control : ∀ n < 0x20,
    hexQuad? (some '0') (some '0') (some (hexChar (n / 16))) (some (hexChar (n % 16))) = some n := by
  decide

theorem readString_char {c : Char} (hquote : c ≠ '"') (hbackslash : c ≠ '\\') (hprinted : ¬c.toNat < 0x20) :
    readString none false done (some c :: rest) = readString none false (c :: done) rest := by
  rw [readString, if_neg hprinted]
  all_goals simp [hquote, hbackslash]

/-- A control character that is written by its code point. -/
theorem readString_control {c : Char} (h : c.toNat < 0x20) :
    readString none false done (some '\\' :: some 'u' :: some '0' :: some '0' :: some (hexChar (c.toNat / 16)) ::
      some (hexChar (c.toNat % 16)) :: rest) = readString none false (c :: done) rest := by
  have hlow : isLowSurrogate c.toNat = false := by simp [isLowSurrogate]; omega
  have hhigh : isHighSurrogate c.toNat = false := by simp [isHighSurrogate]; omega
  simp [readString, hexQuad?_control _ h, hlow, hhigh]

/-- A character that is written by a letter. -/
theorem readString_simpleEscape {letter : Symbol} {c : Char} (h : simpleEscape? letter = some c) :
    readString none false done (some '\\' :: letter :: rest) = readString none false (c :: done) rest := by
  have hquad : letter ≠ some 'u' := by
    rintro rfl
    cases h
  simp [readString, h, hquad]

/-- **An escaped character is read as itself.** -/
theorem readString_escape (c : Char) :
    readString none false done ((escape c).map some ++ rest) = readString none false (c :: done) rest := by
  unfold escape
  by_cases hquote : c = '"'
  · subst hquote
    exact readString_simpleEscape rfl
  by_cases hbackslash : c = '\\'
  · subst hbackslash
    exact readString_simpleEscape rfl
  rw [if_neg hquote, if_neg hbackslash]
  by_cases hprinted : c.toNat < 0x20
  · rw [if_pos hprinted]
    by_cases hb : c = '\x08'
    · subst hb
      exact readString_simpleEscape rfl
    by_cases ht : c = '\t'
    · subst ht
      exact readString_simpleEscape rfl
    by_cases hn : c = '\n'
    · subst hn
      exact readString_simpleEscape rfl
    by_cases hf : c = '\x0c'
    · subst hf
      exact readString_simpleEscape rfl
    by_cases hr : c = '\r'
    · subst hr
      exact readString_simpleEscape rfl
    rw [if_neg hb, if_neg ht, if_neg hn, if_neg hf, if_neg hr]
    exact readString_control hprinted
  · rw [if_neg hprinted]
    exact readString_char hquote hbackslash hprinted

theorem readString_flatMap_escape : ∀ (cs done : List Char),
    readString none false done ((cs.flatMap escape ++ ['"']).map some ++ rest) =
      .ok (String.ofList (done.reverse ++ cs), rest)
  | [], done => by
    rw [List.flatMap_nil, List.nil_append, List.append_nil]
    simp [readString]
  | c :: cs, done => by
    rw [List.flatMap_cons, List.append_assoc, List.map_append, List.append_assoc, readString_escape,
      readString_flatMap_escape cs, List.reverse_cons, List.append_assoc, List.singleton_append]

/-- **A quoted string is read back.** -/
theorem readString_quoted (s : String) (rest : List Symbol) :
    readString none false [] ((s.toList.flatMap escape ++ ['"']).map some ++ rest) = .ok (s, rest) := by
  rw [readString_flatMap_escape, List.reverse_nil, List.nil_append, String.ofList_toList]

theorem hexChar_printed : ∀ n < 16, 0x20 ≤ (hexChar n).toNat := by decide

theorem escape_printed (c : Char) : ∀ d ∈ escape c, 0x20 ≤ d.toNat := by
  unfold escape
  split_ifs with hquote hbackslash hcontrol
  case neg =>
    have hhigh := hexChar_printed (c.toNat / 16) (by omega)
    have hlow := hexChar_printed (c.toNat % 16) (by omega)
    simp [hhigh, hlow]
  case neg => exact List.forall_mem_singleton.2 (Nat.not_lt.1 hcontrol)
  all_goals simp

/-- **A quoted string has no control character**, whatever the string is. -/
theorem quoted_printed {s : String} {d : Char} (h : d ∈ quoted s) : 0x20 ≤ d.toNat := by
  have hquote : 0x20 ≤ ('"').toNat := by decide
  rcases List.mem_cons.1 h with rfl | h
  · exact hquote
  rcases List.mem_append.1 h with h | h
  · obtain ⟨c, -, hd⟩ := List.mem_flatMap.1 h
    exact escape_printed c d hd
  · rwa [List.mem_singleton.1 h]

/-! ## Objects -/

def stringMembers (fields : List (String × String)) : List (String × Json) := fields.map (fun f => (f.1, .string f.2))

def stringNodes (fields : List (String × String)) : List (String × Node) := fields.map (fun f => (f.1, .string f.2))

theorem memberChars_stringMembers_cons (f : String × String) (fields : List (String × String)) :
    memberChars (stringMembers (f :: fields)) =
      ',' :: (quoted f.1 ++ ':' :: (quoted f.2 ++ memberChars (stringMembers fields))) := by
  rw [stringMembers, List.map_cons, ← stringMembers, memberChars, chars]

theorem chars_stringMembers_cons (f : String × String) (fields : List (String × String)) :
    chars (.object (stringMembers (f :: fields))) =
      '\x7b' :: (quoted f.1 ++ ':' :: (quoted f.2 ++ (memberChars (stringMembers fields) ++ ['\x7d']))) := by
  rw [stringMembers, List.map_cons, ← stringMembers, chars, chars]

@[simp]
theorem memberValues_stringNodes : ∀ fields : List (String × String),
    Node.memberValues (stringNodes fields) = stringMembers fields
  | [] => rfl
  | _ :: rest => congrArg (_ :: ·) (memberValues_stringNodes rest)

theorem skipBlanks_of_not_isBlank {s : Symbol} (h : isBlank s = false) : skipBlanks (s :: rest) = s :: rest := by
  rw [skipBlanks, List.dropWhile_cons_of_neg (by rw [h]; decide)]

theorem readValue_quoted (fuel depth : Nat) (s : String) (rest : List Symbol) :
    readValue (fuel + 1) depth ((quoted s).map some ++ rest) = (.string s, rest) := by
  have hread := readString_quoted s rest
  rw [quoted, List.map_cons, List.cons_append, readValue, skipBlanks_of_not_isBlank rfl]
  simp only [hread]

/-- A member is read, and then those behind it. -/
theorem member_quoted (fuel depth : Nat) (key value : String) (rest : List Symbol) :
    member (fuel + 2) depth ((quoted key).map some ++ some ':' :: ((quoted value).map some ++ rest)) =
      ((key, .string value) :: (readMembers (fuel + 1) depth false rest).1,
        (readMembers (fuel + 1) depth false rest).2) := by
  have hread := readString_quoted key (some ':' :: ((quoted value).map some ++ rest))
  rw [quoted, List.map_cons, List.cons_append, member]
  simp only [hread]
  rw [skipBlanks_of_not_isBlank rfl]
  simp only [readValue_quoted]
  rfl

theorem readMembers_first (fuel depth : Nat) (key : String) (text : List Symbol) :
    readMembers (fuel + 1) depth true ((quoted key).map some ++ text) =
      member fuel depth ((quoted key).map some ++ text) := by
  rw [quoted, List.map_cons, List.cons_append, readMembers, skipBlanks_of_not_isBlank rfl]
  rfl

theorem readMembers_next (fuel depth : Nat) (key : String) (text : List Symbol) :
    readMembers (fuel + 1) depth false (some ',' :: ((quoted key).map some ++ text)) =
      member fuel depth ((quoted key).map some ++ text) := by
  rw [quoted, List.map_cons, List.cons_append, readMembers, skipBlanks_of_not_isBlank rfl]
  rfl

/-- **Members that are strings are read back**, if there is fuel for two steps each. -/
theorem readMembers_memberChars (depth : Nat) (rest : List Symbol) : ∀ (fields : List (String × String)) (fuel : Nat),
    2 * fields.length < fuel →
      readMembers fuel depth false ((memberChars (stringMembers fields)).map some ++ some '\x7d' :: rest) =
        (stringNodes fields, none, none, rest)
  | [], fuel + 1, _ => by
    rw [stringMembers, List.map_nil, memberChars, List.map_nil, List.nil_append, readMembers,
      skipBlanks_of_not_isBlank rfl]
    rfl
  | f :: fields, fuel + 3, h => by
    have hrest := readMembers_memberChars depth rest fields (fuel + 1) (by simp only [List.length_cons] at h; omega)
    have hmember := member_quoted fuel depth f.1 f.2
      ((memberChars (stringMembers fields)).map some ++ some '\x7d' :: rest)
    rw [hrest] at hmember
    rw [memberChars_stringMembers_cons]
    simp only [List.map_cons, List.map_append, List.cons_append, List.append_assoc]
    rw [readMembers_next, hmember]
    rfl
  | _ :: _, 0, h => by cases h
  | _ :: _, 1, h => by simp only [List.length_cons] at h; omega
  | _ :: _, 2, h => by simp only [List.length_cons] at h; omega

theorem readValue_object (depth : Nat) (rest : List Symbol) : ∀ (fields : List (String × String)) (fuel : Nat),
    2 * fields.length + 2 ≤ fuel →
      readValue fuel (depth + 1) ((chars (.object (stringMembers fields))).map some ++ rest) =
        (.object (stringNodes fields) none none, rest)
  | [], fuel + 2, _ => by
    have hclosed : readMembers (fuel + 1) depth true (some '\x7d' :: rest) = ([], none, none, rest) := by
      rw [readMembers, skipBlanks_of_not_isBlank rfl]
      rfl
    rw [stringMembers, List.map_nil, chars, List.map_cons, List.cons_append, readValue, skipBlanks_of_not_isBlank rfl]
    simp only [List.map_cons, List.map_nil, List.cons_append, List.nil_append, hclosed]
    rfl
  | f :: fields, fuel + 4, h => by
    have hrest := readMembers_memberChars depth rest fields (fuel + 1) (by simp only [List.length_cons] at h; omega)
    have hmember := member_quoted fuel depth f.1 f.2
      ((memberChars (stringMembers fields)).map some ++ some '\x7d' :: rest)
    rw [hrest] at hmember
    rw [chars_stringMembers_cons]
    simp only [List.map_cons, List.map_append, List.cons_append, List.append_assoc, List.map_nil, List.nil_append]
    rw [readValue, skipBlanks_of_not_isBlank rfl]
    simp only [readMembers_first, hmember]
    rfl
  | [], 0, h => by omega
  | [], 1, h => by omega
  | _ :: _, 0, h => by omega
  | _ :: _, 1, h => by simp only [List.length_cons] at h; omega
  | _ :: _, 2, h => by simp only [List.length_cons] at h; omega
  | _ :: _, 3, h => by simp only [List.length_cons] at h; omega

theorem length_le_memberChars : ∀ fields : List (String × String),
    fields.length ≤ (memberChars (stringMembers fields)).length
  | [] => Nat.le_refl _
  | f :: fields => by
    have hrest := length_le_memberChars fields
    rw [memberChars_stringMembers_cons]
    simp only [List.length_cons, List.length_append]
    omega

theorem length_le_chars : ∀ fields : List (String × String),
    fields.length ≤ (chars (.object (stringMembers fields))).length
  | [] => Nat.zero_le _
  | f :: fields => by
    have hrest := length_le_memberChars fields
    rw [chars_stringMembers_cons]
    simp only [List.length_cons, List.length_append]
    omega

theorem Document.read_chars (fields : List (String × String)) (rest : List Symbol) (hrest : skipBlanks rest = []) :
    Document.read ((chars (.object (stringMembers fields))).map some ++ rest) =
      ⟨.object (stringNodes fields) none none, false⟩ := by
  have hlength := length_le_chars fields
  have hlong : fields.length ≤ ((chars (.object (stringMembers fields))).map some ++ rest).length := by
    rw [List.length_append, List.length_map]
    omega
  have hroot := readValue_object 126 rest fields
    (3 * ((chars (.object (stringMembers fields))).map some ++ rest).length + 3) (by omega)
  rw [Document.read, maxDepth, hroot]
  simp only [hrest]
  rfl

/-- **An object of strings is read back from its text**, every member in its place. -/
theorem Document.read_text (fields : List (String × String)) :
    Document.read (Symbol.ofText (Json.object (stringMembers fields)).text) =
      ⟨.object (stringNodes fields) none none, false⟩ := by
  have hread := Document.read_chars fields [] rfl
  rwa [List.append_nil, ← String.toList_ofList (l := chars (.object (stringMembers fields)))] at hread

theorem read_of_document {text : List Symbol} {fields : List (String × String)}
    (h : Document.read text = ⟨.object (stringNodes fields) none none, false⟩) :
    Json.read text = .ok (.object (orderMembers (stringMembers fields))) := by
  unfold Json.read
  rw [h]
  simp only [Node.readError?, Node.fault?, Option.map_none, Bool.false_eq_true, if_false, Node.value,
    memberValues_stringNodes]

theorem stringNodes_injective {fields fields' : List (String × String)} (h : stringNodes fields = stringNodes fields') :
    fields = fields' := by
  refine (List.map_inj_right fun f f' hf => ?_).1 h
  obtain ⟨hkey, hnode⟩ := Prod.mk.inj hf
  exact Prod.ext hkey (Node.string.inj hnode)

/-- **Objects of strings with one text have the same members.** -/
theorem text_stringMembers_injective {fields fields' : List (String × String)}
    (h : (Json.object (stringMembers fields)).text = (Json.object (stringMembers fields')).text) : fields = fields' := by
  have hread := Document.read_text fields
  rw [h, Document.read_text, Document.mk.injEq, Node.object.injEq] at hread
  exact stringNodes_injective hread.1.1.symm

end Json
end ProductQuery
