import ApiCatalog.Proofs.Text.Blank
import ApiCatalog.Text.Case
import Mathlib

/-! # Upper case once more

Taking the upper case of an upper case changes nothing. The tables of the case mapping show it: no
image of theirs is a code point from which they start, or a blank one. Lower case leaves something
of every text.
-/

namespace ApiCatalog.Text

namespace Case

namespace Run

/-- The distance between the code points of a run, which is zero where there is one only. -/
def stride (run : Run) : Nat := if run.first = run.last then 0 else run.step

def image (run : Run) : Run :=
  ⟨(run.first + run.shift).toNat, (run.last + run.shift).toNat, run.step, 0⟩

def single (code : Nat) : Run := ⟨code, code, 1, 0⟩

/-- Whether the ends or the strides of two runs show that they have no code point in common. -/
def isApart (run run' : Run) : Bool :=
  Nat.blt run.last run'.first || Nat.blt run'.last run.first ||
    !Nat.beq (run.first % run.stride.gcd run'.stride) (run'.first % run.stride.gcd run'.stride)

variable {run run' : Run} {code : Nat}

theorem covers_iff : run.covers code = true ↔
    (run.first ≤ code ∧ code ≤ run.last) ∧ (code - run.first) % run.step = 0 := by
  simp [covers]

theorem covers_single (code : Nat) : (single code).covers code = true := by
  simp [covers, single]

theorem modEq_of_covers (h : run.covers code = true) : code ≡ run.first [MOD run.stride] := by
  obtain ⟨⟨hfirst, hlast⟩, hstep⟩ := covers_iff.mp h
  rw [stride]
  split
  · rename_i he
    rw [show code = run.first by omega]
  · exact ((Nat.modEq_iff_dvd' hfirst).mpr (Nat.dvd_of_mod_eq_zero hstep)).symm

theorem covers_eq_false_of_isApart (happart : run.isApart run' = true)
    (h : run.covers code = true) : run'.covers code = false := by
  rw [Bool.eq_false_iff]
  intro h'
  obtain ⟨⟨hfirst, hlast⟩, -⟩ := covers_iff.mp h
  obtain ⟨⟨hfirst', hlast'⟩, -⟩ := covers_iff.mp h'
  have hmod : run.first ≡ run'.first [MOD run.stride.gcd run'.stride] :=
    ((modEq_of_covers h).of_dvd (Nat.gcd_dvd_left _ _)).symm.trans
      ((modEq_of_covers h').of_dvd (Nat.gcd_dvd_right _ _))
  simp only [isApart, Bool.or_eq_true, Bool.not_eq_true', Nat.blt_eq] at happart
  rcases happart with (hlt | hlt) | hne
  · omega
  · omega
  · exact absurd hmod (Nat.ne_of_beq_eq_false hne)

theorem covers_image (hshift : 0 ≤ run.first + run.shift) (h : run.covers code = true) :
    run.image.covers (code + run.shift).toNat = true := by
  obtain ⟨⟨hfirst, hlast⟩, hstep⟩ := covers_iff.mp h
  refine covers_iff.mpr ⟨⟨?_, ?_⟩, ?_⟩
  · simp only [image]
    omega
  · simp only [image]
    omega
  · have hsame : (code + run.shift).toNat - run.image.first = code - run.first := by
      simp only [image]
      omega
    rw [hsame]
    exact hstep

end Run

/-- A character that is not blank and its own upper case. -/
def Settled (c : Char) : Prop := upper c = [c] ∧ isBlank c = false

def blankRuns : List Run :=
  [⟨9, 13, 1, 0⟩, .single 0x20, .single 0x85, .single 0xa0, .single 0x1680, ⟨0x2000, 0x200a, 1, 0⟩,
    ⟨0x2028, 0x2029, 1, 0⟩, .single 0x202f, .single 0x205f, .single 0x3000]

/-- The code points that upper case changes, and the blank ones. -/
def unsettledRuns : List Run :=
  upperRuns ++ (upperExpansions.map fun entry => Run.single entry.1) ++ blankRuns

def upperImages : List Run :=
  upperRuns.map Run.image ++ (upperExpansions.flatMap (·.2)).eraseDups.map Run.single

theorem isApart_upperImages :
    upperImages.all (fun run => unsettledRuns.all run.isApart) = true := by
  decide +kernel

theorem shifts_upperRuns : upperRuns.all (fun run => 0 ≤ run.first + run.shift) = true := by
  decide +kernel

theorem isEmpty_upperExpansions : upperExpansions.all (fun entry => !entry.2.isEmpty) = true := by
  decide +kernel

theorem lookup_eq_none_of_single {entries : List (Nat × List Nat)} {code : Nat}
    (h : ∀ entry ∈ entries, (Run.single entry.1).covers code = false) :
    entries.lookup code = none := by
  rw [List.lookup_eq_none_iff]
  rintro ⟨key, images⟩ hentry
  rw [bne_iff_ne]
  rintro rfl
  exact absurd (Run.covers_single code) (by simp [h _ hentry])

theorem mem_of_lookup {entries : List (Nat × List Nat)} {code : Nat} {codes : List Nat}
    (h : entries.lookup code = some codes) : (code, codes) ∈ entries := by
  obtain ⟨before, after, hentries, -⟩ := List.lookup_eq_some_iff.mp h
  rw [hentries]
  exact List.mem_append_right _ List.mem_cons_self

def smallLetters : Run := ⟨0x61, 0x7a, 1, -32⟩

theorem smallLetters_mem : smallLetters ∈ upperRuns := List.Mem.head _

theorem isLower_iff {c : Char} : c.isLower = true ↔ smallLetters.covers c.toNat = true := by
  rw [Run.covers_iff]
  simp [Char.isLower, smallLetters, UInt32.le_iff_toNat_le, Nat.mod_one]

theorem exists_blankRun {code : Nat} (h : isBlankCode code = true) :
    ∃ run ∈ blankRuns, run.covers code = true := by
  simp only [isBlankCode, Bool.or_eq_true, Bool.and_eq_true, decide_eq_true_eq, beq_iff_eq] at h
  simp [blankRuns, Run.single, Run.covers]
  omega

theorem settled_of_covers_eq_false {c : Char}
    (h : ∀ run ∈ unsettledRuns, run.covers c.toNat = false) : Settled c := by
  simp only [unsettledRuns, List.mem_append] at h
  have hruns : ∀ run ∈ upperRuns, run.covers c.toNat = false := fun run hrun =>
    h run (Or.inl (Or.inl hrun))
  have hexpansions : upperExpansions.lookup c.toNat = none :=
    lookup_eq_none_of_single fun entry hentry =>
      h _ (Or.inl (Or.inr (List.mem_map_of_mem hentry)))
  constructor
  · rw [upper]
    split
    · have hsmall : ¬c.isLower = true := by
        rw [isLower_iff, hruns _ smallLetters_mem]
        exact Bool.false_ne_true
      rw [Char.toUpper_eq_of_not_isLower hsmall]
    · have hnone : upperRuns.find? (·.covers c.toNat) = none :=
        List.find?_eq_none.mpr fun run hrun => by simp [hruns run hrun]
      rw [mapped?, hexpansions, hnone]
      rfl
  · rw [isBlank, Bool.eq_false_iff]
    intro hblank
    obtain ⟨run, hrun, hcovers⟩ := exists_blankRun hblank
    exact absurd hcovers (by simp [h run (Or.inr hrun)])

/-- What stands for a code point of an image is settled, also where there is no such character. -/
theorem settled_ofNat {run : Run} (hrun : run ∈ upperImages) {code : Nat}
    (h : run.covers code = true) : Settled (Char.ofNat code) := by
  have happart := List.all_eq_true.mp (List.all_eq_true.mp isApart_upperImages run hrun)
  by_cases hvalid : code.isValidChar
  · refine settled_of_covers_eq_false fun run' hrun' => ?_
    rw [Char.toNat_ofNat, if_pos hvalid]
    exact Run.covers_eq_false_of_isApart (happart run' hrun') h
  · have hzero : Char.ofNat code = Char.ofNat 0 := by
      rw [Char.ofNat, dif_neg hvalid]
      rfl
    rw [hzero]
    exact ⟨rfl, rfl⟩

/-- A character is its own upper case, or what stands for it is settled. -/
theorem upper_cases (c : Char) : upper c = [c] ∨ upper c ≠ [] ∧ ∀ d ∈ upper c, Settled d := by
  have himage : ∀ run ∈ upperRuns, run.covers c.toNat = true →
      Settled (Char.ofNat (c.toNat + run.shift).toNat) := by
    intro run hrun hcovers
    have hshift : 0 ≤ run.first + run.shift := by
      simpa using List.all_eq_true.mp shifts_upperRuns run hrun
    exact settled_ofNat (List.mem_append_left _ (List.mem_map_of_mem hrun))
      (Run.covers_image hshift hcovers)
  rw [upper]
  split
  · by_cases hsmall : c.isLower = true
    · have hsettled := himage _ smallLetters_mem (isLower_iff.mp hsmall)
      have hcode : (c.toNat + smallLetters.shift).toNat = c.toNat - 32 := by
        simp only [smallLetters]
        omega
      refine Or.inr ⟨List.cons_ne_nil _ _, fun d hd => ?_⟩
      rwa [List.mem_singleton.mp hd, Char.toUpper_eq_of_isLower hsmall, ← hcode]
    · rw [Char.toUpper_eq_of_not_isLower hsmall]
      exact Or.inl rfl
  · rw [mapped?]
    cases hlookup : upperExpansions.lookup c.toNat with
    | some codes =>
      have hmem := mem_of_lookup hlookup
      have hsome := List.all_eq_true.mp isEmpty_upperExpansions _ hmem
      refine Or.inr ⟨by simpa using hsome, fun d hd => ?_⟩
      obtain ⟨code, hcode, rfl⟩ := List.mem_map.mp hd
      refine settled_ofNat (List.mem_append_right _ (List.mem_map_of_mem ?_)) (Run.covers_single code)
      exact List.mem_eraseDups.mpr (List.mem_flatMap.mpr ⟨_, hmem, hcode⟩)
    | none =>
      cases hfind : upperRuns.find? (·.covers c.toNat) with
      | none => exact Or.inl rfl
      | some run =>
        refine Or.inr ⟨List.cons_ne_nil _ _, fun d hd => ?_⟩
        rw [List.mem_singleton.mp hd]
        have hcovers := List.find?_some hfind
        exact himage run (List.mem_of_find?_eq_some hfind) hcovers

theorem upper_ne_nil (c : Char) : upper c ≠ [] := by
  rcases upper_cases c with h | ⟨h, -⟩
  · rw [h]
    exact List.cons_ne_nil _ _
  · exact h

theorem upper_of_mem_upper {c d : Char} (h : d ∈ upper c) : upper d = [d] := by
  rcases upper_cases c with hc | ⟨-, hc⟩
  · rw [hc, List.mem_singleton] at h
    rw [h, hc]
  · exact (hc d h).1

theorem isBlank_of_mem_upper {c d : Char} (hc : isBlank c = false) (h : d ∈ upper c) :
    isBlank d = false := by
  rcases upper_cases c with hself | ⟨-, hall⟩
  · rw [hself, List.mem_singleton] at h
    rw [h, hc]
  · exact (hall d h).2

theorem flatMap_upper_upper (cs : List Char) :
    (cs.flatMap upper).flatMap upper = cs.flatMap upper := by
  rw [List.flatMap_assoc]
  refine List.flatMap_congr fun c _ => ?_
  rw [List.flatMap_congr fun d hd => upper_of_mem_upper hd, List.flatMap_singleton']

theorem trimmed_flatMap_upper {cs : List Char} (h : Trimmed cs) : Trimmed (cs.flatMap upper) := by
  constructor
  · intro d hd
    cases cs with
    | nil => cases hd
    | cons c cs =>
      obtain ⟨e, rest, he⟩ := List.exists_cons_of_ne_nil (upper_ne_nil c)
      rw [List.flatMap_cons, he] at hd
      obtain rfl := Option.some.inj hd
      exact isBlank_of_mem_upper (h.head c rfl) (he ▸ List.mem_cons_self)
  · intro d hd
    rcases List.eq_nil_or_concat cs with rfl | ⟨init, c, rfl⟩
    · cases hd
    · rw [List.concat_eq_append, List.flatMap_append, List.flatMap_singleton,
        List.getLast?_append_of_ne_nil _ (upper_ne_nil c)] at hd
      exact isBlank_of_mem_upper (h.last c (by simp)) (List.mem_of_getLast? hd)

theorem isEmpty_lowerExpansions : lowerExpansions.all (fun entry => !entry.2.isEmpty) = true := by
  decide +kernel

theorem lower_ne_nil (c : Char) : lower c ≠ [] := by
  rw [lower]
  split
  · exact List.cons_ne_nil _ _
  · rw [mapped?]
    cases hlookup : lowerExpansions.lookup c.toNat with
    | some codes =>
      simpa using List.all_eq_true.mp isEmpty_lowerExpansions _ (mem_of_lookup hlookup)
    | none => cases lowerRuns.find? (·.covers c.toNat) <;> exact List.cons_ne_nil _ _

theorem lowerFrom_eq_nil_iff {before cs : List Char} : lowerFrom before cs = [] ↔ cs = [] := by
  cases cs with
  | nil => exact iff_of_true rfl rfl
  | cons c rest =>
    refine iff_of_false (fun h => ?_) (List.cons_ne_nil _ _)
    rw [lowerFrom] at h
    have himage := (List.append_eq_nil_iff.mp h).1
    split_ifs at himage
    exact lower_ne_nil c himage

end Case

theorem toUpper_trim_toUpper_trim (s : String) :
    toUpper (trim (toUpper (trim s))) = toUpper (trim s) := by
  have htrimmed : Trimmed ((trimChars s.toList).flatMap Case.upper) :=
    Case.trimmed_flatMap_upper (trimmed_trimChars s.toList)
  simp only [toUpper, trim, String.toList_ofList, htrimmed.trimChars_eq, Case.flatMap_upper_upper]

theorem isBlankText_toUpper_trim {s : String} (h : isBlankText s = false) :
    isBlankText (toUpper (trim s)) = false := by
  obtain ⟨c, cs, hcs⟩ : ∃ c cs, trimChars s.toList = c :: cs :=
    List.exists_cons_of_ne_nil fun hnil => by
      rw [isBlankText, trimChars_eq_nil_iff.mp hnil] at h
      cases h
  obtain ⟨d, ds, hds⟩ := List.exists_cons_of_ne_nil (Case.upper_ne_nil c)
  have hblank : isBlank d = false :=
    Case.isBlank_of_mem_upper ((trimmed_trimChars s.toList).head c (by rw [hcs]; rfl))
      (hds ▸ List.mem_cons_self)
  simp [isBlankText, toUpper, trim, hcs, hds, hblank]

end ApiCatalog.Text
