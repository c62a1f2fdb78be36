import ApiCatalog.Document.Schema
import ApiCatalog.Identity.SearchFilter
import ApiCatalog.Text.Utf8

/-! # Written values

What a written value of a filter stands for. Escaping a text gives a value that stands for it and
in which no character has a meaning of its own, and the pattern of a query falls apart, at its
asterisks, into values that stand for the words.
-/

namespace ApiCatalog.Text

theorem toList_loop (bytes : ByteArray) (i : Nat) (before : List UInt8) :
    ByteArray.toList.loop bytes i before = before.reverse ++ bytes.data.toList.drop i := by
  rw [ByteArray.toList.loop]
  split
  · rename_i h
    have hlt : i < bytes.data.toList.length := h
    have hget : bytes.get! i = bytes.data.toList[i] := getElem!_pos bytes.data i h
    rw [toList_loop, List.drop_eq_getElem_cons hlt, List.reverse_cons, hget, List.append_assoc,
      List.singleton_append]
  · rename_i h
    have hle : bytes.data.toList.length ≤ i := Nat.le_of_not_lt h
    rw [List.drop_eq_nil_of_le hle, List.append_nil]
termination_by bytes.size - i

theorem encodeUtf8_ofList (cs : List Char) :
    encodeUtf8 (String.ofList cs) = cs.flatMap String.utf8EncodeChar := by
  rw [encodeUtf8, ByteArray.toList, toList_loop, String.toByteArray_ofList, List.utf8Encode,
    List.toList_data_toByteArray]
  rfl

theorem encodeUtf8_eq (s : String) : encodeUtf8 s = s.toList.flatMap String.utf8EncodeChar := by
  rw [← encodeUtf8_ofList, String.ofList_toList]

end ApiCatalog.Text

namespace ApiCatalog.SearchFilter

/-- The bytes that a value stands for: a character stands for its own bytes, and a backslash with
two hexadecimal digits for one byte. -/
def unescape? : List Char → Option (List UInt8)
  | [] => some []
  | '\\' :: a :: b :: cs => do
    let n ← digitsValue? 16 [a, b]
    let bytes ← unescape? cs
    return UInt8.ofNat n :: bytes
  | '\\' :: _ => none
  | c :: cs => (unescape? cs).map (String.utf8EncodeChar c ++ ·)

/-- A value in which the characters with a meaning of their own are escaped, but for asterisks. -/
def IsPattern (value : List Char) : Prop :=
  (∀ c ∈ value, c ≠ '(' ∧ c ≠ ')' ∧ c ≠ '\x00') ∧ escapesAreWhole value = true

/-- A value that is compared as it is. Behind an attribute only parentheses, asterisks, backslashes
and NUL have a meaning of their own. -/
def IsLiteral (value : List Char) : Prop := IsPattern value ∧ '*' ∉ value

/-- A character is escaped by a backslash and the digits of its only byte, or is written as it
is. -/
theorem escapeChar_cases (c : Char) :
    (∃ a b n, escapeChar c = ['\\', a, b] ∧ isHexDigit a = true ∧ isHexDigit b = true ∧
      digitsValue? 16 [a, b] = some n ∧ String.utf8EncodeChar c = [UInt8.ofNat n] ∧
      ∀ d ∈ ['\\', a, b], d ≠ '(' ∧ d ≠ ')' ∧ d ≠ '\x00' ∧ d ≠ '*') ∨
    escapeChar c = [c] ∧ c ≠ '\\' ∧ c ≠ '(' ∧ c ≠ ')' ∧ c ≠ '\x00' ∧ c ≠ '*' := by
  by_cases hescaped : c ∈ ['\\', '*', '(', ')', '\x00']
  · simp only [List.mem_cons, List.not_mem_nil, or_false] at hescaped
    rcases hescaped with rfl | rfl | rfl | rfl | rfl <;>
      exact .inl ⟨_, _, _, rfl, rfl, rfl, rfl, rfl, by simp⟩
  · simp only [List.mem_cons, List.not_mem_nil, or_false, not_or] at hescaped
    obtain ⟨hslash, hstar, hopen, hclose, hnul⟩ := hescaped
    exact .inr ⟨by simp [escapeChar, *], hslash, hopen, hclose, hnul, hstar⟩

theorem escapesAreWhole_cons_ne {c : Char} (h : c ≠ '\\') (cs : List Char) :
    escapesAreWhole (c :: cs) = escapesAreWhole cs := by
  rw [escapesAreWhole, bne_iff_ne.mpr h, Bool.true_and]
  exact fun _ _ _ hslash _ => h hslash

theorem unescape?_cons_ne {c : Char} (h : c ≠ '\\') (cs : List Char) :
    unescape? (c :: cs) = (unescape? cs).map (String.utf8EncodeChar c ++ ·) := by
  rw [unescape?]
  · exact fun _ _ _ hslash _ => h hslash
  · exact h

theorem mem_of_mem_escape {cs : List Char} {c : Char} (h : c ∈ escape cs) :
    c ≠ '(' ∧ c ≠ ')' ∧ c ≠ '\x00' ∧ c ≠ '*' := by
  obtain ⟨d, -, hc⟩ := List.mem_flatMap.mp h
  rcases escapeChar_cases d with ⟨a, b, _, he, -, -, -, -, hdigits⟩ | ⟨he, -, hplain⟩
  · exact hdigits c (he ▸ hc)
  · rw [he, List.mem_singleton] at hc
    exact hc ▸ hplain

theorem escapesAreWhole_escape_append (cs rest : List Char) :
    escapesAreWhole (escape cs ++ rest) = escapesAreWhole rest := by
  induction cs with
  | nil => rfl
  | cons c cs ih =>
    rw [escape, List.flatMap_cons, List.append_assoc, ← escape]
    rcases escapeChar_cases c with ⟨a, b, _, he, ha, hb, -⟩ | ⟨he, hslash, -⟩
    · rw [he, ← ih]
      simp only [List.cons_append, List.nil_append, escapesAreWhole, ha, hb, Bool.true_and]
    · rw [he, ← ih, List.singleton_append, escapesAreWhole_cons_ne hslash]

theorem unescape?_escape (cs : List Char) :
    unescape? (escape cs) = some (cs.flatMap String.utf8EncodeChar) := by
  induction cs with
  | nil => rfl
  | cons c cs ih =>
    rw [escape, List.flatMap_cons, ← escape, List.flatMap_cons]
    rcases escapeChar_cases c with ⟨a, b, n, he, -, -, hn, hbytes, -⟩ | ⟨he, hslash, -⟩
    · rw [he, hbytes]
      simp only [List.cons_append, List.nil_append, unescape?, hn, ih]
      rfl
    · rw [he, List.singleton_append, unescape?_cons_ne hslash, ih]
      rfl

theorem isLiteral_escape (cs : List Char) : IsLiteral (escape cs) := by
  refine ⟨⟨fun c hc => ?_, ?_⟩, fun hstar => ?_⟩
  · obtain ⟨hopen, hclose, hnul, -⟩ := mem_of_mem_escape hc
    exact ⟨hopen, hclose, hnul⟩
  · rw [← List.append_nil (escape cs), escapesAreWhole_escape_append]
    rfl
  · exact (mem_of_mem_escape hstar).2.2.2 rfl

section Pattern

variable (words : List (List Char))

theorem isPattern_words : IsPattern (words.flatMap fun word => escape word ++ ['*']) := by
  constructor
  · intro c hc
    obtain ⟨word, -, hc⟩ := List.mem_flatMap.mp hc
    rcases List.mem_append.mp hc with hc | hc
    · obtain ⟨hopen, hclose, hnul, -⟩ := mem_of_mem_escape hc
      exact ⟨hopen, hclose, hnul⟩
    · rw [List.mem_singleton.mp hc]
      decide
  · induction words with
    | nil => rfl
    | cons word words ih =>
      rw [List.flatMap_cons, List.append_assoc, escapesAreWhole_escape_append,
        List.singleton_append, escapesAreWhole_cons_ne (by decide), ih]

theorem count_words :
    (words.flatMap fun word => escape word ++ ['*']).count '*' = words.length := by
  induction words with
  | nil => rfl
  | cons word words ih =>
    rw [List.flatMap_cons, List.count_append, List.count_append, ih,
      List.count_eq_zero.mpr (isLiteral_escape word).2, List.count_singleton_self,
      List.length_cons, Nat.zero_add, Nat.add_comm]

theorem splitOn_words :
    (words.flatMap fun word => escape word ++ ['*']).splitOn '*' = words.map escape ++ [[]] := by
  induction words with
  | nil => rfl
  | cons word words ih =>
    rw [List.flatMap_cons, List.append_assoc, List.singleton_append,
      List.splitOn_append_cons_self_of_not_mem (isLiteral_escape word).2, ih]
    rfl

end Pattern

theorem isPattern_wordPattern (query : List Char) : IsPattern (wordPattern query) := by
  obtain ⟨hchars, hwhole⟩ := isPattern_words (Text.wordsOf query)
  refine ⟨fun c hc => ?_, by rwa [wordPattern, escapesAreWhole_cons_ne (by decide)]⟩
  rcases List.mem_cons.mp hc with rfl | hc
  · decide
  · exact hchars c hc

theorem wordPattern_eq (query : String) : wordPattern query.toList =
    '*' :: (Text.words query).flatMap fun word => escape word.toList ++ ['*'] := by
  simp [wordPattern, Text.words, List.flatMap_map]

theorem count_wordPattern (query : String) :
    (wordPattern query.toList).count '*' = (Text.words query).length + 1 := by
  rw [wordPattern, List.count_cons_self, count_words, Text.words, List.length_map]

theorem splitOn_wordPattern (query : String) :
    ((wordPattern query.toList).splitOn '*').map unescape? =
      some [] :: (Text.words query).map (fun word => some (Text.encodeUtf8 word)) ++ [some []] := by
  have hsplit : (wordPattern query.toList).splitOn '*' =
      [] :: ((Text.wordsOf query.toList).map escape ++ [[]]) := by
    rw [← splitOn_words]
    exact List.splitOn_append_cons_self_of_not_mem List.not_mem_nil _
  rw [hsplit]
  simp [Text.words, unescape?_escape, Text.encodeUtf8_ofList, unescape?]

end ApiCatalog.SearchFilter
