import ApiCatalog.Proofs.Condition.Parse

/-! # Readers go forward

Every reader leaves less of a text than it was given, breaks off inside of the text, and tries other
formulas only behind something that it has read. So the bounds on depth and on repetitions are never
reached, the equations of the readers have no other solution, and the fault of a text shows one of
its ends.
-/

namespace ApiCatalog.Condition.Grammar

open Condition.Parser

/-- A reader that leaves less than it was given and breaks off inside of that. -/
structure Advances {α : Type} (reader : List Char → Outcome α) : Prop where
  behind {cs rest : List Char} {value : α} : reader cs = .done value rest → Behind cs rest
  inside {cs place : List Char} : reader cs = .broken place → place <:+ cs

theorem Sound.advances {level : Level} {reader : List Char → Outcome Formula}
    (h : Sound level reader)
    (hinside : ∀ {cs place : List Char}, reader cs = .broken place → place <:+ cs) :
    Advances reader where
  behind hread := by
    obtain ⟨mid, hreads, hspaced⟩ := h _ _ _ hread
    exact hreads.behind.trans_suffix hspaced.suffix
  inside := hinside

theorem Behind.dropSpace {cs rest : List Char} (h : Behind (Parser.dropSpace cs) rest) :
    Behind cs (Parser.dropSpace rest) :=
  (h.trans_suffix (spaced_dropSpace rest).suffix).of_suffix (spaced_dropSpace cs).suffix

theorem behind_of_dropSpace_eq {c : Char} {cs rest : List Char} (h : dropSpace cs = c :: rest) :
    Behind cs (dropSpace rest) :=
  Behind.dropSpace (h ▸ Behind.cons List.suffix_rfl)

theorem place_of_decimal {cs place : List Char} (h : decimal cs = .broken place) : place = cs := by
  unfold decimal at h
  dsimp only at h
  split at h
  · cases h
  · split at h
    · cases h
    · split at h
      · split at h
        · cases h
          rfl
        · cases h
      · cases h

theorem place_of_operand {cs place : List Char} (h : operand cs = .broken place) : place = cs := by
  rcases Outcome.orElse_eq_broken_iff.mp h with h | ⟨-, h⟩
  · exact absurd h (Outcome.ofOption_ne_broken _)
  rcases Outcome.orElse_eq_broken_iff.mp (Outcome.map_eq_broken_iff.mp h) with h | ⟨-, h⟩
  · exact place_of_decimal h
  · exact absurd h (Outcome.ofOption_ne_broken _)

theorem advances_operand : Advances operand where
  behind h := (readsOperand_of_operand h).behind
  inside h := place_of_operand h ▸ List.suffix_rfl

theorem inside_afterOperand {left : Operand} {cs place : List Char}
    (h : afterOperand left cs = .broken place) : place <:+ cs := by
  unfold afterOperand at h
  split at h
  · cases h
  · rename_i relation rest hrelation
    have hbehind := (relation?_eq_some_iff.mp hrelation).opens.behind.dropSpace
    rcases Outcome.orElse_eq_broken_iff.mp h with h | ⟨-, h⟩
    · rcases Outcome.andThen_eq_broken_iff.mp h with h | ⟨right, mid, -, h⟩
      · exact (advances_operand.inside h).trans hbehind.suffix
      · cases h
    · cases h

theorem advances_comparison : Advances comparison :=
  sound_comparison.advances fun {cs place} h => by
    have hspace := (spaced_dropSpace cs).suffix
    rcases Outcome.andThen_eq_broken_iff.mp h with h | ⟨left, mid, hleft, h⟩
    · exact (advances_operand.inside h).trans hspace
    · have hmid := (advances_operand.behind hleft).suffix.trans hspace
      exact (inside_afterOperand h).trans ((spaced_dropSpace mid).suffix.trans hmid)

section Chains

variable {connective? : List Char → Option (List Char)}
  {reader reader' : List Char → Outcome Formula} {join : Formula → Formula → Formula}
  {f : Formula} {cs place : List Char} {n m : Nat}

/-- Two readers that read alike behind a text. -/
def Agree (cs : List Char) (reader reader' : List Char → Outcome Formula) : Prop :=
  ∀ text, Behind cs text → reader text = reader' text

theorem Agree.of_suffix {cs' : List Char} (h : Agree cs reader reader') (hsuffix : cs' <:+ cs) :
    Agree cs' reader reader' :=
  fun text hbehind => h text (hbehind.of_suffix hsuffix)

variable (hsign : ∀ {cs rest : List Char}, connective? cs = some rest → Behind cs rest)
  (hreader : Advances reader)

include hsign hreader

theorem inside_chain (h : chain connective? reader join n f cs = .broken place) : place <:+ cs := by
  induction n generalizing f cs with
  | zero => cases h
  | succ n ih =>
    rw [chain] at h
    split at h
    · cases h
    · rename_i rest hrest
      have hbehind := (hsign hrest).dropSpace
      split at h
      · rename_i g rest' hread
        exact (ih h).trans ((hreader.behind hread).suffix.trans hbehind.suffix)
      · cases h
      · rename_i hbroken
        cases h
        exact (hreader.inside hbroken).trans hbehind.suffix

omit hreader in
theorem chain_nil : chain connective? reader join n f [] = .done f [] := by
  have hnone : connective? (dropSpace []) = none :=
    Option.eq_none_iff_forall_ne_some.mpr fun rest h => Nat.not_lt_zero _ (hsign h).length_lt
  cases n with
  | zero => rfl
  | succ n => simp only [chain, hnone]

/-- A chain reads its items behind connectives only, and it ends before its bound is reached. -/
theorem chain_eq (hagree : Agree cs reader reader') (hn : cs.length ≤ n) (hm : cs.length ≤ m) :
    chain connective? reader join n f cs = chain connective? reader' join m f cs := by
  induction n generalizing f cs m with
  | zero =>
    obtain rfl := List.eq_nil_of_length_eq_zero (Nat.le_zero.mp hn)
    rw [chain_nil hsign, chain_nil hsign]
  | succ n ih =>
    cases m with
    | zero =>
      obtain rfl := List.eq_nil_of_length_eq_zero (Nat.le_zero.mp hm)
      rw [chain_nil hsign, chain_nil hsign]
    | succ m =>
      cases hrest : connective? (dropSpace cs) with
      | none => simp only [chain, hrest]
      | some rest =>
        have hbehind := (hsign hrest).dropSpace
        have hread' := (hagree _ hbehind).symm
        cases hread : reader (dropSpace rest) with
        | done g rest' =>
          have hmore := hbehind.trans_suffix (hreader.behind hread).suffix
          have hlt := hmore.length_lt
          simp only [chain, hrest, hread', hread]
          exact ih (hagree.of_suffix hmore.suffix) (by omega) (by omega)
        | refused => simp only [chain, hrest, hread', hread]
        | broken place => simp only [chain, hrest, hread', hread]

end Chains

theorem behind_of_conjunction? {cs rest : List Char} (h : conjunction? cs = some rest) :
    Behind cs rest :=
  (conjunction?_eq_some_iff.mp h).opens.behind

theorem behind_of_disjunction? {cs rest : List Char} (h : disjunction? cs = some rest) :
    Behind cs rest :=
  (disjunction?_eq_some_iff.mp h).opens.behind

section Levels

variable {unary unary' expr expr' : List Char → Outcome Formula} {cs : List Char}

theorem advances_andWith (hsound : Sound .unary unary) (h : Advances unary) :
    Advances (andWith unary) :=
  (sound_andWith hsound).advances fun hbroken => by
    rcases Outcome.andThen_eq_broken_iff.mp hbroken with hfirst | ⟨f, rest, hfirst, hchain⟩
    · exact h.inside hfirst
    · exact (inside_chain behind_of_conjunction? h hchain).trans (h.behind hfirst).suffix

theorem advances_orWith (hsound : Sound .unary unary) (h : Advances unary) :
    Advances (orWith unary) :=
  (sound_orWith hsound).advances fun hbroken => by
    have hitem := advances_andWith hsound h
    rcases Outcome.andThen_eq_broken_iff.mp hbroken with hfirst | ⟨f, rest, hfirst, hchain⟩
    · exact hitem.inside hfirst
    · exact (inside_chain behind_of_disjunction? hitem hchain).trans
        (hitem.behind hfirst).suffix

theorem inside_unaryWith {place : List Char} (hunary : Advances unary) (hexpr : Advances expr)
    (h : unaryWith unary expr cs = .broken place) : place <:+ cs := by
  rcases unaryWith_cases unary expr cs with
    ⟨rest, hsign, he⟩ | ⟨rest, close, hopen, he, hclose⟩ | he
  · have hbroken := Outcome.map_eq_broken_iff.mp (he ▸ h)
    exact (hunary.inside hbroken).trans hsign.opens.behind.dropSpace.suffix
  · rcases Outcome.andThen_eq_broken_iff.mp (he ▸ h) with hbroken | ⟨f, mid, -, hend⟩
    · exact (hexpr.inside hbroken).trans (behind_of_dropSpace_eq hopen).suffix
    · rcases hclose f mid with hrefused | ⟨rest', -, hdone⟩
      · cases hrefused.symm.trans hend
      · cases hdone.symm.trans hend
  · exact advances_comparison.inside (he ▸ h)

/-- A formula without a connective at its top holds others only behind its sign or parenthesis. -/
theorem unaryWith_congr (hunary : Agree cs unary unary') (hexpr : Agree cs expr expr') :
    unaryWith unary expr cs = unaryWith unary' expr' cs := by
  have hnot : ∀ {rest}, NotSign (dropSpace cs) rest →
      unary (dropSpace rest) = unary' (dropSpace rest) := fun hsign =>
    hunary _ hsign.opens.behind.dropSpace
  refine congrArg₂ Outcome.orElse ?_ (congrArg₂ Outcome.orElse ?_
    (congrArg₂ Outcome.orElse ?_ rfl))
  · cases hsign : negation? (dropSpace cs) with
    | none => rfl
    | some rest =>
      exact congrArg (Outcome.map Formula.not) (hnot (.inl (negation?_eq_some_iff.mp hsign)))
  · cases hsign : keyword? ['n', 'o', 't'] (dropSpace cs) with
    | none => rfl
    | some rest =>
      exact congrArg (Outcome.map Formula.not) (hnot (.inr (keyword?_eq_some_iff.mp hsign)))
  · split
    · rename_i rest hopen
      rw [hexpr _ (behind_of_dropSpace_eq hopen)]
    · rfl

theorem andWith_congr (hunary : Advances unary) (h : unary cs = unary' cs)
    (hagree : Agree cs unary unary') : andWith unary cs = andWith unary' cs := by
  rw [andWith, andWith, ← h]
  cases hfirst : unary cs with
  | done f rest =>
    exact chain_eq behind_of_conjunction? hunary
      (hagree.of_suffix (hunary.behind hfirst).suffix) (Nat.le_refl _) (Nat.le_refl _)
  | refused => rfl
  | broken place => rfl

theorem Agree.andWith (hunary : Advances unary) (hagree : Agree cs unary unary') :
    Agree cs (andWith unary) (andWith unary') :=
  fun text hbehind => andWith_congr hunary (hagree text hbehind) (hagree.of_suffix hbehind.suffix)

theorem orWith_congr (hsound : Sound .unary unary) (hunary : Advances unary)
    (h : unary cs = unary' cs) (hagree : Agree cs unary unary') :
    orWith unary cs = orWith unary' cs := by
  have hitem := advances_andWith hsound hunary
  rw [orWith, orWith, ← andWith_congr hunary h hagree]
  cases hfirst : andWith unary cs with
  | done f rest =>
    exact chain_eq behind_of_disjunction? hitem
      ((hagree.andWith hunary).of_suffix (hitem.behind hfirst).suffix) (Nat.le_refl _)
      (Nat.le_refl _)
  | refused => rfl
  | broken place => rfl

theorem Agree.orWith (hsound : Sound .unary unary) (hunary : Advances unary)
    (hagree : Agree cs unary unary') : Agree cs (orWith unary) (orWith unary') :=
  fun text hbehind =>
    orWith_congr hsound hunary (hagree text hbehind) (hagree.of_suffix hbehind.suffix)

end Levels

theorem advances_unaryAt (fuel : Nat) : Advances (unaryAt fuel) := by
  induction fuel with
  | zero => exact ⟨nofun, nofun⟩
  | succ fuel ih =>
    have hexpr := advances_orWith (sound_unaryAt fuel) ih
    exact (sound_unaryAt (fuel + 1)).advances (inside_unaryWith ih hexpr)

theorem unaryAt_eq_of_lt {n m : Nat} {cs : List Char} (hn : cs.length < n) (hm : cs.length < m) :
    unaryAt n cs = unaryAt m cs := by
  induction n generalizing m cs with
  | zero => omega
  | succ n ih =>
    cases m with
    | zero => omega
    | succ m =>
      have hagree : Agree cs (unaryAt n) (unaryAt m) := fun text hbehind => by
        have hlt := hbehind.length_lt
        exact ih (by omega) (by omega)
      exact unaryWith_congr hagree (hagree.orWith (sound_unaryAt n) (advances_unaryAt n))

theorem agree_unaryAt {n : Nat} {cs : List Char} (hn : cs.length ≤ n) :
    Agree cs (unaryAt n) unary := fun _ hbehind =>
  unaryAt_eq_of_lt (Nat.lt_of_lt_of_le hbehind.length_lt hn) (Nat.lt_succ_self _)

theorem sound_unary : Sound .unary unary := fun _ => sound_unaryAt _ _

theorem advances_unary : Advances unary where
  behind := (advances_unaryAt _).behind
  inside := (advances_unaryAt _).inside

theorem andExpr_eq : andExpr = andWith unary := funext fun _ =>
  andWith_congr (advances_unaryAt _) rfl (agree_unaryAt (Nat.le_succ _))

theorem orExpr_eq : orExpr = orWith unary := funext fun _ =>
  orWith_congr (sound_unaryAt _) (advances_unaryAt _) rfl (agree_unaryAt (Nat.le_succ _))

theorem unary_eq : unary = unaryWith unary orExpr := funext fun cs => by
  have hagree := agree_unaryAt (Nat.le_refl cs.length)
  rw [orExpr_eq]
  exact unaryWith_congr hagree (hagree.orWith (sound_unaryAt _) (advances_unaryAt _))

theorem eq_unary {reader : List Char → Outcome Formula}
    (h : reader = unaryWith reader (orWith reader)) : reader = unary := by
  have hall : ∀ n, ∀ cs : List Char, cs.length < n → unary cs = reader cs := by
    intro n
    induction n with
    | zero => nofun
    | succ n ih =>
      intro cs hn
      have hagree : Agree cs unary reader := fun text hbehind => by
        have hlt := hbehind.length_lt
        exact ih text (by omega)
      rw [h, unary_eq, orExpr_eq]
      exact unaryWith_congr hagree (hagree.orWith sound_unary advances_unary)
  exact funext fun cs => (hall _ cs (Nat.lt_succ_self _)).symm

theorem advances_andExpr : Advances andExpr :=
  andExpr_eq ▸ advances_andWith sound_unary advances_unary

theorem advances_orExpr : Advances orExpr :=
  orExpr_eq ▸ advances_orWith sound_unary advances_unary

/-- A repeated form is not there any more before the bound is reached. -/
theorem many_eq_of_le {form : List Char → Option (String × List Char)}
    {Step : String → List Char → List Char → Prop}
    (hform : ∀ {name cs rest}, form cs = some (name, rest) ↔ Step name cs rest)
    (hbehind : ∀ {name cs rest}, Step name cs rest → Behind cs rest) {n m : Nat} {cs : List Char}
    (hn : cs.length ≤ n) (hm : cs.length ≤ m) : many form n cs = many form m cs := by
  cases hmany : many form m cs with
  | mk names rest =>
    have hsteps := (many_eq_iff hform hbehind hm).mp hmany
    exact (many_eq_iff hform hbehind hn).mpr hsteps

theorem exists_suffix_of_formula {cs : List Char} {fault : ConditionFault}
    (h : Parser.formula cs = .error fault) : ∃ rest, rest <:+ cs ∧ fault = .ofRest rest := by
  have hspace := (spaced_dropSpace cs).suffix
  simp only [Parser.formula] at h
  split at h
  · rename_i f rest hread
    split at h
    · cases h
    · rename_i hend
      cases h
      refine ⟨dropSpace rest, (spaced_dropSpace rest).suffix.trans
        ((advances_orExpr.behind hread).suffix.trans hspace), ?_⟩
      rw [ConditionFault.ofRest]
      exact hend
  · cases h
    exact ⟨_, hspace, rfl⟩
  · rename_i hread
    cases h
    exact ⟨_, (advances_orExpr.inside hread).trans hspace, rfl⟩

theorem exists_suffix_of_parse {source : String} {fault : ConditionFault}
    (h : Condition.parse source = .error fault) :
    ∃ rest, rest <:+ body source ∧ fault = .ofRest rest := by
  cases hformula : Parser.formula (body source) with
  | ok f =>
    rw [Condition.parse, hformula] at h
    cases h
  | error fault' =>
    rw [Condition.parse, hformula] at h
    cases h
    exact exists_suffix_of_formula hformula

end ApiCatalog.Condition.Grammar

namespace ApiCatalog.Condition

open Condition.Parser Condition.Grammar

/-- How the readers of the three levels of formulas go forward. -/
structure Forward (unary andExpr orExpr : List Char → Outcome Formula) : Prop where
  /-- The equation of the reader of unary formulas has one solution. -/
  unary_iff : ∀ reader, reader = unaryWith reader (orWith reader) ↔ reader = unary
  andExpr_eq : andExpr = andWith unary
  orExpr_eq : orExpr = orWith unary
  /-- The bounds on the depth of formulas and on repetitions are never reached. -/
  depth : ∀ cs n, cs.length < n → unaryAt n cs = unary cs
  repetitions : ∀ cs n, cs.length ≤ n →
    many pathStep? n cs = many pathStep? cs.length cs ∧
      many profileStep? n cs = many profileStep? cs.length cs
  advances_orExpr : Advances orExpr
  advances_andExpr : Advances andExpr
  advances_unary : Advances unary
  advances_comparison : Advances comparison
  advances_operand : Advances operand
  references : ∀ cs path rest, pathReference? cs = some (path, rest) ∨
    profileReference? cs = some (path, rest) → Behind cs rest
  /-- Other formulas are read only behind what has been read. -/
  unaryWith_congr : ∀ cs reader reader' expr expr', Agree cs reader reader' → Agree cs expr expr' →
    unaryWith reader expr cs = unaryWith reader' expr' cs
  conjunctions : ∀ cs f rest reader n, unary cs = .done f rest → Agree cs unary reader →
    rest.length ≤ n →
      chain conjunction? reader .and n f rest = chain conjunction? unary .and rest.length f rest
  disjunctions : ∀ cs f rest reader n, andExpr cs = .done f rest → Agree cs andExpr reader →
    rest.length ≤ n →
      chain disjunction? reader .or n f rest = chain disjunction? andExpr .or rest.length f rest
  /-- A text is refused for its end or with a part at its end. -/
  faults : ∀ source fault, Condition.parse source = .error fault →
    fault.message = "unexpected end of expression" ∨
      ∃ rest, rest ≠ [] ∧ rest <:+ body source ∧
        fault.message = s!"unexpected input at '{String.ofList rest}'"

/-- Reading a condition goes forward: every reader leaves less than it was given, no bound is ever
reached, and nothing else solves the equations of the readers. -/
theorem reading_advances : Forward unary andExpr orExpr where
  unary_iff reader := by
    refine ⟨eq_unary, ?_⟩
    rintro rfl
    exact orExpr_eq ▸ unary_eq
  andExpr_eq := andExpr_eq
  orExpr_eq := orExpr_eq
  depth cs n hn := unaryAt_eq_of_lt hn (Nat.lt_succ_self _)
  repetitions cs n hn :=
    ⟨many_eq_of_le pathStep?_eq_some_iff PathStep.behind hn (Nat.le_refl _),
      many_eq_of_le profileStep?_eq_some_iff ProfileStep.behind hn (Nat.le_refl _)⟩
  advances_orExpr := advances_orExpr
  advances_andExpr := advances_andExpr
  advances_unary := advances_unary
  advances_comparison := advances_comparison
  advances_operand := advances_operand
  references cs path rest h := by
    rcases h with h | h
    · exact (reference_of_pathReference? h).behind
    · exact (reference_of_profileReference? h).behind
  unaryWith_congr cs reader reader' expr expr' := unaryWith_congr
  conjunctions cs f rest reader n hfirst hagree hn := by
    have hbehind := hagree.of_suffix (advances_unary.behind hfirst).suffix
    exact (chain_eq behind_of_conjunction? advances_unary hbehind (Nat.le_refl _) hn).symm
  disjunctions cs f rest reader n hfirst hagree hn := by
    have hbehind := hagree.of_suffix (advances_andExpr.behind hfirst).suffix
    exact (chain_eq behind_of_disjunction? advances_andExpr hbehind (Nat.le_refl _) hn).symm
  faults source fault hparse := by
    obtain ⟨rest, hsuffix, rfl⟩ := exists_suffix_of_parse hparse
    cases rest with
    | nil => exact .inl rfl
    | cons c rest => exact .inr ⟨c :: rest, List.cons_ne_nil c rest, hsuffix, rfl⟩

end ApiCatalog.Condition
