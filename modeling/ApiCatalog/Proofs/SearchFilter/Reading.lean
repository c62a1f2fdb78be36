import ApiCatalog.Proofs.SearchFilter.Value
import ApiCatalog.Proofs.Text.Span

/-! # How a filter is read

Which filters are well formed, and that no text is that of two of them. The name of an attribute is
taken to be any text in which no character has a meaning in a filter.
-/

namespace ApiCatalog.SearchFilter

/-- The characters with a meaning of their own somewhere in a filter. -/
def isMeta (c : Char) : Bool := ['(', ')', '*', '\\', '&', '|', '!', '\x00'].contains c

/-- A text in which no character has a meaning, and that ends where an equals sign stands. -/
def IsPlain (cs : List Char) : Prop := '=' ∉ cs ∧ ∀ c ∈ cs, isMeta c = false

def IsName (name : List Char) : Prop := name ≠ [] ∧ IsPlain name

inductive WellFormed : SearchFilter → Prop
  | all {parts : List SearchFilter} : parts ≠ [] → (∀ part ∈ parts, WellFormed part) →
      WellFormed (.all parts)
  | any {parts : List SearchFilter} : parts ≠ [] → (∀ part ∈ parts, WellFormed part) →
      WellFormed (.any parts)
  | not {part : SearchFilter} : WellFormed part → WellFormed (.not part)
  | test {name value : List Char} : IsName name → IsPattern value →
      WellFormed (.test name ['='] value)

/-- A text that is a well-formed filter. -/
def Reads (cs : List Char) (filter : SearchFilter) : Prop := filter.WellFormed ∧ filter.text = cs

theorem IsName.exists_cons {name : List Char} (h : IsName name) :
    ∃ c cs, name = c :: cs ∧ c ≠ '&' ∧ c ≠ '|' ∧ c ≠ '!' ∧ c ≠ '(' ∧ c ≠ ')' := by
  obtain ⟨hne, -, hmeta⟩ := h
  obtain ⟨c, cs, rfl⟩ := List.exists_cons_of_ne_nil hne
  have hc := hmeta c List.mem_cons_self
  refine ⟨c, cs, rfl, ?_, ?_, ?_, ?_, ?_⟩ <;> rintro rfl <;> revert hc <;> decide

theorem IsPattern.notMem_close {value : List Char} (h : IsPattern value) : ')' ∉ value :=
  fun hmem => (h.1 _ hmem).2.1 rfl

theorem exists_text_cons (filter : SearchFilter) : ∃ cs, filter.text = '(' :: cs := by
  cases filter <;> exact ⟨_, rfl⟩

variable {f g : SearchFilter} {parts parts' : List SearchFilter} {rest rest' : List Char}

/-- The parts of a list are told apart from each other, and from the end of the list, by the
parentheses around them. -/
theorem texts_append_inj
    (ih : ∀ part ∈ parts, ∀ {g : SearchFilter} {rest rest' : List Char}, g.WellFormed →
      part.text ++ rest = g.text ++ rest' → part = g ∧ rest = rest')
    (hparts : ∀ part ∈ parts', part.WellFormed)
    (h : texts parts ++ ')' :: rest = texts parts' ++ ')' :: rest') :
    parts = parts' ∧ rest = rest' := by
  induction parts generalizing parts' with
  | nil =>
    cases parts' with
    | nil => exact ⟨rfl, (List.cons.inj h).2⟩
    | cons part parts' =>
      obtain ⟨cs, htext⟩ := exists_text_cons part
      simp [texts, htext] at h
  | cons part parts ihparts =>
    cases parts' with
    | nil =>
      obtain ⟨cs, htext⟩ := exists_text_cons part
      simp [texts, htext] at h
    | cons part' parts' =>
      rw [texts, texts, List.append_assoc, List.append_assoc] at h
      obtain ⟨rfl, htail⟩ := ih part List.mem_cons_self (hparts part' List.mem_cons_self) h
      obtain ⟨rfl, rfl⟩ := ihparts (fun part hmem => ih part (List.mem_cons_of_mem _ hmem))
        (fun part hmem => hparts part (List.mem_cons_of_mem _ hmem)) htail
      exact ⟨rfl, rfl⟩

/-- Neither does a well-formed filter go on where another one ends, nor are two of them written
alike. -/
theorem WellFormed.text_append_inj (hf : f.WellFormed) (hg : g.WellFormed)
    (h : f.text ++ rest = g.text ++ rest') : f = g ∧ rest = rest' := by
  induction hf generalizing g rest rest' with
  | all _ _ ih =>
    cases hg with
    | all _ hparts =>
      simp only [text, List.cons_append, List.append_assoc, List.cons.injEq, true_and,
        List.nil_append] at h
      obtain ⟨rfl, rfl⟩ := texts_append_inj (fun part hmem _ _ _ => ih part hmem) hparts h
      exact ⟨rfl, rfl⟩
    | any | not => simp [text] at h
    | test hname =>
      obtain ⟨c, cs, rfl, hand, -⟩ := hname.exists_cons
      simp [text, hand.symm] at h
  | any _ _ ih =>
    cases hg with
    | any _ hparts =>
      simp only [text, List.cons_append, List.append_assoc, List.cons.injEq, true_and,
        List.nil_append] at h
      obtain ⟨rfl, rfl⟩ := texts_append_inj (fun part hmem _ _ _ => ih part hmem) hparts h
      exact ⟨rfl, rfl⟩
    | all | not => simp [text] at h
    | test hname =>
      obtain ⟨c, cs, rfl, -, hor, -⟩ := hname.exists_cons
      simp [text, hor.symm] at h
  | not _ ih =>
    cases hg with
    | not hpart =>
      simp only [text, List.cons_append, List.append_assoc, List.cons.injEq, true_and,
        List.nil_append] at h
      obtain ⟨rfl, hclose⟩ := ih hpart h
      exact ⟨rfl, (List.cons.inj hclose).2⟩
    | all | any => simp [text] at h
    | test hname =>
      obtain ⟨c, cs, rfl, -, -, hnot, -⟩ := hname.exists_cons
      simp [text, hnot.symm] at h
  | test hname hvalue =>
    cases hg with
    | test hname' hvalue' =>
      simp only [text, List.cons_append, List.append_assoc, List.cons.injEq, true_and,
        List.nil_append] at h
      obtain ⟨rfl, hvalues⟩ := Text.eq_of_append_cons_eq hname.2.1 hname'.2.1 h
      obtain ⟨rfl, rfl⟩ :=
        Text.eq_of_append_cons_eq hvalue.notMem_close hvalue'.notMem_close hvalues
      exact ⟨rfl, rfl⟩
    | all =>
      obtain ⟨c, cs, rfl, hand, -⟩ := hname.exists_cons
      simp [text, hand] at h
    | any =>
      obtain ⟨c, cs, rfl, -, hor, -⟩ := hname.exists_cons
      simp [text, hor] at h
    | not =>
      obtain ⟨c, cs, rfl, -, -, hnot, -⟩ := hname.exists_cons
      simp [text, hnot] at h

theorem WellFormed.reads_text_iff (hf : f.WellFormed) : Reads f.text g ↔ g = f := by
  constructor
  · rintro ⟨hg, h⟩
    have happend : g.text ++ [] = f.text ++ [] := by rw [h]
    exact (hg.text_append_inj hf happend).1
  · rintro rfl
    exact ⟨hf, rfl⟩

theorem count_texts (h : ∀ part ∈ parts, part.text.count '(' = part.text.count ')') :
    (texts parts).count '(' = (texts parts).count ')' := by
  induction parts with
  | nil => rfl
  | cons part parts ih =>
    rw [texts, List.count_append, List.count_append, h part List.mem_cons_self,
      ih fun part hmem => h part (List.mem_cons_of_mem _ hmem)]

theorem IsPlain.count_eq_zero {cs : List Char} (h : IsPlain cs) {c : Char} (hc : isMeta c = true) :
    cs.count c = 0 :=
  List.count_eq_zero.mpr fun hmem => by
    rw [h.2 c hmem] at hc
    cases hc

theorem IsPattern.count_eq_zero {value : List Char} (h : IsPattern value) :
    value.count '(' = 0 ∧ value.count ')' = 0 :=
  ⟨List.count_eq_zero.mpr fun hmem => (h.1 _ hmem).1 rfl, List.count_eq_zero.mpr h.notMem_close⟩

theorem WellFormed.count_open (h : f.WellFormed) : f.text.count '(' = f.text.count ')' := by
  induction h with
  | all _ _ ih | any _ _ ih => simp [text, List.count_append, count_texts ih]
  | not _ ih => simp [text, List.count_append, ih]
  | test hname hvalue =>
    obtain ⟨hopen, hclose⟩ := hvalue.count_eq_zero
    simp [text, List.count_append, hname.2.count_eq_zero, isMeta, hopen, hclose]

/-- A test stands in front of the first parenthesis that closes, and of the first equals sign. -/
def StartsTest (cs : List Char) : Prop :=
  ∃ before name after, cs = before ++ '(' :: (name ++ '=' :: after) ∧ IsName name ∧
    '=' ∉ before ∧ ')' ∉ before

theorem StartsTest.append {cs : List Char} (h : StartsTest cs) (rest : List Char) :
    StartsTest (cs ++ rest) := by
  obtain ⟨before, name, after, rfl, hname⟩ := h
  exact ⟨before, name, after ++ rest, by simp, hname⟩

theorem StartsTest.cons {c : Char} {cs : List Char} (h : StartsTest cs) (hequals : '=' ≠ c)
    (hclose : ')' ≠ c) : StartsTest (c :: cs) := by
  obtain ⟨before, name, after, rfl, hname, hequals', hclose'⟩ := h
  exact ⟨c :: before, name, after, rfl, hname, by simp [hequals, hequals'],
    by simp [hclose, hclose']⟩

theorem startsTest_texts (hne : parts ≠ []) (h : ∀ part ∈ parts, StartsTest part.text) :
    StartsTest (texts parts) := by
  obtain ⟨part, parts, rfl⟩ := List.exists_cons_of_ne_nil hne
  exact (h part List.mem_cons_self).append (texts parts)

theorem WellFormed.startsTest (h : f.WellFormed) : StartsTest f.text := by
  induction h with
  | all hne _ ih | any hne _ ih =>
    have hparts := (startsTest_texts hne ih).append [')']
    exact (hparts.cons (by decide) (by decide)).cons (by decide) (by decide)
  | not _ ih => exact ((ih.append [')']).cons (by decide) (by decide)).cons (by decide) (by decide)
  | @test name value hname _ =>
    exact ⟨[], name, value ++ [')'], by simp [text], hname, List.not_mem_nil, List.not_mem_nil⟩

section Parts

variable {name cs more : List Char}

theorem WellFormed.exists_parts {c : Char} (hf : f.WellFormed) (hc : c = '&' ∨ c = '|')
    (h : f.text ++ rest = '(' :: c :: more) :
    ∃ parts, (∀ part ∈ parts, part.WellFormed) ∧ texts parts ++ ')' :: rest = more := by
  cases hf with
  | all _ hparts | any _ hparts =>
    simp only [text, List.cons_append, List.append_assoc, List.cons.injEq, true_and,
      List.nil_append] at h
    exact ⟨_, hparts, h.2⟩
  | not =>
    rcases hc with rfl | rfl <;> simp [text] at h
  | test hname =>
    obtain ⟨d, ds, rfl, hand, hor, -⟩ := hname.exists_cons
    rcases hc with rfl | rfl <;> simp [text, hand, hor] at h

theorem exists_part (hparts : ∀ part ∈ parts, part.WellFormed)
    (h : texts parts ++ ')' :: rest = '(' :: cs) :
    ∃ part : SearchFilter, ∃ parts', part.WellFormed ∧ (∀ part ∈ parts', part.WellFormed) ∧
      part.text ++ (texts parts' ++ ')' :: rest) = '(' :: cs := by
  cases parts with
  | nil => cases h
  | cons part parts =>
    exact ⟨part, parts, hparts part List.mem_cons_self,
      fun part hmem => hparts part (List.mem_cons_of_mem _ hmem), by simpa [texts] using h⟩

/-- Where a list of filters is written, the text of a filter is one of them. -/
theorem WellFormed.exists_rest (hg : g.WellFormed) (hparts : ∀ part ∈ parts, part.WellFormed)
    (h : texts parts ++ ')' :: rest = g.text ++ rest') :
    ∃ parts', (∀ part ∈ parts', part.WellFormed) ∧ texts parts' ++ ')' :: rest = rest' := by
  obtain ⟨cs, hcs⟩ := exists_text_cons g
  rw [hcs, List.cons_append] at h
  obtain ⟨part, parts', hpart, hparts', htext⟩ := exists_part hparts h
  rw [← List.cons_append, ← hcs] at htext
  exact ⟨parts', hparts', (hpart.text_append_inj hg htext).2⟩

/-- What stands in front of the first equals sign is a name, if its parentheses are balanced. -/
theorem WellFormed.isName_of_text_eq (hf : f.WellFormed) (hequals : '=' ∉ name)
    (hbalanced : name.count '(' = name.count ')')
    (h : f.text ++ rest = '(' :: (name ++ '=' :: more)) : IsName name := by
  obtain ⟨before, name', after, htext, hname', hbefore, hclose⟩ := hf.startsTest
  have hfront : '=' ∉ before ++ '(' :: name' := by simp [hbefore, hname'.2.1]
  have hsplit : (before ++ '(' :: name') ++ '=' :: (after ++ rest) =
      '(' :: name ++ '=' :: more := by
    rw [htext] at h
    simpa using h
  obtain ⟨hhead, -⟩ := Text.eq_of_append_cons_eq hfront (by simp [hequals]) hsplit
  cases before with
  | nil =>
    cases hhead
    exact hname'
  | cons c before =>
    -- a parenthesis opens within the name that never closes
    have hname : name = before ++ '(' :: name' := (List.cons.inj hhead).2.symm
    rw [hname] at hbalanced
    have hnone : (before ++ '(' :: name').count ')' = 0 := by
      rw [List.count_append, List.count_cons_of_ne (by decide),
        hname'.2.count_eq_zero (by decide), List.count_eq_zero.mpr fun hmem =>
          hclose (List.mem_cons_of_mem _ hmem)]
    rw [hnone, List.count_append, List.count_cons_self] at hbalanced
    omega

end Parts

end ApiCatalog.SearchFilter
