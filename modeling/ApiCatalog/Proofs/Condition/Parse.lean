import ApiCatalog.Proofs.Condition.Formulas

/-! # Parsing conditions

Every formula of the grammar is read, with the value of its derivation, so that the parser accepts
exactly the grammar. Behind a part of a formula stands a character that cannot go on with the part;
this is why a reader that never takes back what it has read misses no derivation.
-/

namespace ApiCatalog.Condition.Grammar

open Condition.Parser

theorem Steps.suffix {Step : String → List Char → List Char → Prop}
    (hstep : ∀ {name cs rest}, Step name cs rest → Behind cs rest) {names : List String}
    {cs rest : List Char} (h : Steps Step names cs rest) : rest <:+ cs := by
  induction h with
  | nil => exact List.suffix_rfl
  | cons h _ ih => exact ((hstep h).trans_suffix ih).suffix

theorem Reference.behind {path : List String} {cs rest : List Char}
    (h : Reference path cs rest) : Behind cs rest := by
  cases h with
  | jsonPath h₀ h₁ h₂ h₃ h₄ h₅ _ =>
    have hargument := h₅.behind.suffix.trans (h₄.behind.suffix.trans h₃.suffix)
    have hword := h₂.behind.suffix.trans ((List.suffix_append _ _).trans h₁.suffix)
    exact (h₀.behind.trans_suffix (hargument.trans hword)).of_suffix (List.suffix_append _ _)
  | profile _ hword hsteps =>
    exact (hword.1.behind.trans_suffix (hsteps.suffix ProfileStep.behind)).of_suffix
      (List.suffix_append _ _)

theorem Literal.behind {value : Json} {cs rest : List Char} (h : Literal value cs rest) :
    Behind cs rest := by
  cases h with
  | text h => exact h.behind
  | true h | false h | null h => exact h.1.behind
  | number h =>
    cases h with
    | decimal h _ =>
      obtain ⟨c, tail, rfl, -⟩ := h.exists_cons
      exact .append rest (List.cons_ne_nil c tail)
    | nan h | inf h => exact h.behind

theorem ReadsOperand.behind {o : Operand} {cs rest : List Char} (h : ReadsOperand o cs rest) :
    Behind cs rest := by
  cases h with
  | profile h => exact h.behind
  | literal h => exact h.behind

def Opens (heads cs rest : List Char) : Prop :=
  ∃ c tail, cs = c :: tail ∧ c ∈ heads ∧ isSpace c = false ∧ rest <:+ tail

section Opens

variable {heads heads' cs cs₁ rest : List Char} (h : Opens heads cs₁ rest)

include h

theorem Opens.behind : Behind cs₁ rest := by
  obtain ⟨c, tail, rfl, -, -, hsuffix⟩ := h
  exact .cons hsuffix

theorem Opens.dropSpace_eq (hspaced : Spaced cs cs₁) : dropSpace cs = cs₁ := by
  obtain ⟨c, tail, rfl, -, hspace, -⟩ := h
  exact hspaced.dropSpace_cons hspace

theorem Opens.followedBy (hspaced : Spaced cs cs₁) (hsub : heads ⊆ heads') :
    FollowedBy heads' cs := by
  obtain ⟨c, tail, rfl, hmem, hspace, -⟩ := h
  exact hspaced.followedBy hspace (hsub hmem)

end Opens

theorem Opens.not_followedBy {heads heads' cs rest : List Char}
    (h : Opens heads (dropSpace cs) rest) (hne : heads.all (· ∉ heads') = true) :
    ¬ FollowedBy heads' cs := by
  obtain ⟨c, tail, hcs, hmem, -, -⟩ := h
  intro hrest
  exact of_decide_eq_true (List.all_eq_true.mp hne c hmem) (hrest c (by rw [hcs]; rfl))

theorem Keyword.opens {heads : List Char} {w : Char} {word cs rest : List Char}
    (h : Keyword (w :: word) cs rest) (hw : w ∈ heads ∧ isSpace w = false)
    (hw' : w.toUpper ∈ heads ∧ isSpace w.toUpper = false) : Opens heads cs rest := by
  obtain ⟨c, tail, rfl | rfl, rfl, hrest⟩ := h.1.exists_cons
  · exact ⟨_, tail, rfl, hw.1, hw.2, hrest.suffix⟩
  · exact ⟨_, tail, rfl, hw'.1, hw'.2, hrest.suffix⟩

theorem AndSign.opens {cs rest : List Char} (h : AndSign cs rest) :
    Opens ['&', 'a', 'A'] cs rest := by
  rcases h with rfl | h
  · exact ⟨_, _, rfl, by decide, rfl, List.suffix_cons _ _⟩
  · exact h.opens (by decide) (by decide)

theorem OrSign.opens {cs rest : List Char} (h : OrSign cs rest) :
    Opens ['|', 'o', 'O'] cs rest := by
  rcases h with rfl | h
  · exact ⟨_, _, rfl, by decide, rfl, List.suffix_cons _ _⟩
  · exact h.opens (by decide) (by decide)

theorem NotSign.opens {cs rest : List Char} (h : NotSign cs rest) :
    Opens ['!', 'n', 'N'] cs rest := by
  rcases h with ⟨rfl, -⟩ | h
  · exact ⟨_, _, rfl, by decide, rfl, List.suffix_rfl⟩
  · exact h.opens (by decide) (by decide)

theorem RelationSign.opens {relation : Relation} {cs rest : List Char}
    (h : RelationSign relation cs rest) : Opens ['=', '!'] cs rest := by
  cases h <;> exact ⟨_, _, rfl, by decide, rfl, List.suffix_cons _ _⟩

theorem Reads.behind {level : Level} {value : Json → Bool} {cs rest : List Char}
    (h : Reads level value cs rest) : Behind cs rest := by
  induction h with
  | or _ h₁ h₂ _ ih ih' =>
    exact ih.trans_suffix (ih'.suffix.trans (h₂.opens.behind.suffix.trans h₁.suffix))
  | expr _ ih => exact ih
  | and _ h₁ h₂ _ ih ih' =>
    exact ih.trans_suffix (ih'.suffix.trans (h₂.opens.behind.suffix.trans h₁.suffix))
  | unary _ ih => exact ih
  | not h₁ h₂ _ ih => exact (h₂.opens.behind.trans_suffix ih.suffix).of_suffix h₁.suffix
  | group h₁ _ h₃ ih =>
    exact (h₁.behind.trans_suffix ih.suffix).trans_suffix h₃.behind.suffix
  | compare h₁ h₂ h₃ h₄ h₅ h₆ =>
    have hright := h₆.behind.suffix.trans (h₅.suffix.trans (h₄.opens.behind.suffix.trans h₃.suffix))
    exact (h₂.behind.trans_suffix hright).of_suffix h₁.suffix
  | holds h₁ h₂ => exact h₂.behind.of_suffix h₁.suffix

theorem unaryAt_dropSpace (fuel : Nat) (cs : List Char) :
    unaryAt fuel (dropSpace cs) = unaryAt fuel cs := by
  cases fuel with
  | zero => rfl
  | succ fuel => simp only [unaryAt, unaryWith, comparison, dropSpace_dropSpace]

theorem andWith_dropSpace (fuel : Nat) (cs : List Char) :
    andWith (unaryAt fuel) (dropSpace cs) = andWith (unaryAt fuel) cs := by
  rw [andWith, unaryAt_dropSpace, ← andWith]

theorem orWith_dropSpace (fuel : Nat) (cs : List Char) :
    orWith (unaryAt fuel) (dropSpace cs) = orWith (unaryAt fuel) cs := by
  rw [orWith, andWith_dropSpace, ← orWith]

section Chains

variable {connective? : List Char → Option (List Char)} {reader : List Char → Outcome Formula}
  {join : Formula → Formula → Formula} {f g : Formula} {heads cs cs₁ cs₂ cs₃ rest : List Char}
  {o : Outcome Formula}

/-- What comes of a chain is that of its part behind the given formula. -/
def Pending (connective? : List Char → Option (List Char)) (reader : List Char → Outcome Formula)
    (join : Formula → Formula → Formula) (f : Formula) (rest : List Char) (o : Outcome Formula) :
    Prop :=
  ∃ n, (dropSpace rest).length ≤ n ∧ o = chain connective? reader join n f (dropSpace rest)

theorem Pending.stop (h : Pending connective? reader join f rest o)
    (hnone : connective? (dropSpace rest) = none) : o = .done f (dropSpace rest) := by
  obtain ⟨n, -, rfl⟩ := h
  cases n with
  | zero => rfl
  | succ n => simp only [chain, dropSpace_dropSpace, hnone]

theorem Pending.step (h : Pending connective? reader join f cs₁ o) (hspaced : Spaced cs₁ cs₂)
    (hopens : Opens heads cs₂ cs₃) (hsign : connective? cs₂ = some cs₃)
    (hitem : reader (dropSpace cs₃) = .done g (dropSpace rest)) (hle : rest.length ≤ cs₃.length) :
    Pending connective? reader join (join f g) rest o := by
  obtain ⟨n, hn, rfl⟩ := h
  rw [hopens.dropSpace_eq hspaced] at hn ⊢
  have hlt := hopens.behind.length_lt
  have hrest := (spaced_dropSpace rest).suffix.length_le
  cases n with
  | zero => omega
  | succ n =>
    refine ⟨n, by omega, ?_⟩
    simp only [chain, hopens.dropSpace_eq (.refl _), hsign, hitem]

end Chains

/-- The readers find a formula that the text goes on behind, with its value. On the levels of the
chains further items may follow. -/
def Found : Level → (Json → Bool) → List Char → List Char → Prop
  | .unary, value, cs, rest => ∀ fuel, cs.length < fuel → FollowedBy afterUnary rest →
      ∃ f : Formula, (fun profile => f.eval profile) = value ∧
        unaryAt fuel cs = .done f (dropSpace rest)
  | .and, value, cs, rest => ∀ fuel, cs.length < fuel → FollowedBy afterUnary rest →
      ∃ f : Formula, (fun profile => f.eval profile) = value ∧
        Pending conjunction? (unaryAt fuel) .and f rest (andWith (unaryAt fuel) cs)
  | .expr, value, cs, rest => ∀ fuel, cs.length < fuel → FollowedBy afterAnd rest →
      ∃ f : Formula, (fun profile => f.eval profile) = value ∧
        Pending disjunction? (andWith (unaryAt fuel)) .or f rest (orWith (unaryAt fuel) cs)

section Found

variable {value v w : Json → Bool} {cs cs₁ cs₂ cs₃ rest : List Char}

theorem Found.andWith_eq (h : Found .and value cs rest) (fuel : Nat) (hfuel : cs.length < fuel)
    (hrest : FollowedBy afterAnd rest) :
    ∃ f : Formula, (fun profile => f.eval profile) = value ∧
      andWith (unaryAt fuel) cs = .done f (dropSpace rest) := by
  obtain ⟨f, hvalue, hpending⟩ := h fuel hfuel (hrest.mono (by decide))
  refine ⟨f, hvalue, hpending.stop (Option.eq_none_iff_forall_ne_some.mpr fun mid hsign => ?_)⟩
  exact (conjunction?_eq_some_iff.mp hsign).opens.not_followedBy (by decide) hrest

theorem Found.orWith_eq (h : Found .expr value cs rest) (fuel : Nat) (hfuel : cs.length < fuel)
    (hrest : FollowedBy afterExpr rest) :
    ∃ f : Formula, (fun profile => f.eval profile) = value ∧
      orWith (unaryAt fuel) cs = .done f (dropSpace rest) := by
  obtain ⟨f, hvalue, hpending⟩ := h fuel hfuel (hrest.mono (by decide))
  refine ⟨f, hvalue, hpending.stop (Option.eq_none_iff_forall_ne_some.mpr fun mid hsign => ?_)⟩
  exact (disjunction?_eq_some_iff.mp hsign).opens.not_followedBy (by decide) hrest

theorem found_unary (h : Found .unary value cs rest) : Found .and value cs rest := by
  intro fuel hfuel hrest
  obtain ⟨f, hvalue, hread⟩ := h fuel hfuel hrest
  refine ⟨f, hvalue, (dropSpace rest).length, Nat.le_refl _, ?_⟩
  rw [andWith, hread]
  rfl

theorem found_expr (h : Found .and value cs rest) : Found .expr value cs rest := by
  intro fuel hfuel hrest
  obtain ⟨f, hvalue, hread⟩ := h.andWith_eq fuel hfuel hrest
  refine ⟨f, hvalue, (dropSpace rest).length, Nat.le_refl _, ?_⟩
  rw [orWith, hread]
  rfl

/-- The chain has come to the connective, reads its right-hand side and goes on. -/
theorem found_and (hv : Found .and v cs cs₁) (hspaced : Spaced cs₁ cs₂) (hsign : AndSign cs₂ cs₃)
    (hw : Found .unary w cs₃ rest) (hle₁ : cs₁.length ≤ cs.length)
    (hle : rest.length ≤ cs₃.length) :
    Found .and (fun profile => v profile && w profile) cs rest := by
  intro fuel hfuel hrest
  have hlt := hsign.opens.behind.length_lt
  have hle₂ := hspaced.suffix.length_le
  obtain ⟨f, rfl, hpending⟩ := hv fuel hfuel (hsign.opens.followedBy hspaced (by decide))
  obtain ⟨g, rfl, hread⟩ := hw fuel (by omega) hrest
  rw [← unaryAt_dropSpace] at hread
  exact ⟨.and f g, rfl, hpending.step hspaced hsign.opens (conjunction?_eq_some_iff.mpr hsign) hread
    hle⟩

theorem found_or (hv : Found .expr v cs cs₁) (hspaced : Spaced cs₁ cs₂) (hsign : OrSign cs₂ cs₃)
    (hw : Found .and w cs₃ rest) (hle₁ : cs₁.length ≤ cs.length)
    (hle : rest.length ≤ cs₃.length) :
    Found .expr (fun profile => v profile || w profile) cs rest := by
  intro fuel hfuel hrest
  have hlt := hsign.opens.behind.length_lt
  have hle₂ := hspaced.suffix.length_le
  obtain ⟨f, rfl, hpending⟩ := hv fuel hfuel (hsign.opens.followedBy hspaced (by decide))
  obtain ⟨g, rfl, hread⟩ := hw.andWith_eq fuel (by omega) hrest
  rw [← andWith_dropSpace] at hread
  exact ⟨.or f g, rfl, hpending.step hspaced hsign.opens (disjunction?_eq_some_iff.mpr hsign) hread
    hle⟩

theorem found_not (hspaced : Spaced cs cs₁) (hsign : NotSign cs₁ cs₂)
    (hv : Found .unary v cs₂ rest) : Found .unary (fun profile => !v profile) cs rest := by
  intro fuel hfuel hrest
  have hlt := hsign.opens.behind.length_lt
  have hle₁ := hspaced.suffix.length_le
  cases fuel with
  | zero => omega
  | succ fuel =>
    obtain ⟨f, rfl, hread⟩ := hv fuel (by omega) hrest
    refine ⟨.not f, rfl, ?_⟩
    rw [unaryAt, unaryWith, hsign.opens.dropSpace_eq hspaced]
    -- the word is tried after the sign, which is not there then
    rcases hsign with hsign | hsign
    · simp only [negation?_eq_some_iff.mpr hsign, unaryAt_dropSpace, hread]
      rfl
    · have hnone : negation? cs₁ = none := by
        obtain ⟨tail, rfl | rfl⟩ := hsign.exists_cons <;> rfl
      simp only [hnone, keyword?_eq_some_iff.mpr hsign, unaryAt_dropSpace, hread]
      rfl

theorem found_group (hspaced : Spaced cs ('(' :: cs₁)) (hv : Found .expr v cs₁ cs₂)
    (hclose : Spaced cs₂ (')' :: rest)) : Found .unary v cs rest := by
  intro fuel hfuel hrest
  have hle := hspaced.suffix.length_le
  rw [List.length_cons] at hle
  cases fuel with
  | zero => omega
  | succ fuel =>
    obtain ⟨f, hvalue, hread⟩ := hv.orWith_eq fuel (by omega) (hclose.followedBy rfl (by decide))
    refine ⟨f, hvalue, ?_⟩
    have hnone : negation? ('(' :: cs₁) = none ∧ keyword? ['n', 'o', 't'] ('(' :: cs₁) = none :=
      ⟨rfl, rfl⟩
    rw [unaryAt, unaryWith, hspaced.dropSpace_cons rfl]
    simp only [hnone, orWith_dropSpace, hread, Outcome.andThen, hclose.dropSpace_cons rfl]
    rfl

theorem OperandStart.dropSpace_eq (h : OperandStart cs₁) (hspaced : Spaced cs cs₁) :
    dropSpace cs = cs₁ := by
  obtain ⟨c, tail, rfl, hspace, -⟩ := h
  exact hspaced.dropSpace_cons hspace

theorem OperandStart.unaryAt_eq (h : OperandStart cs₁) (hspaced : Spaced cs cs₁) (fuel : Nat) :
    unaryAt (fuel + 1) cs = comparison cs := by
  rw [unaryAt, unaryWith, h.dropSpace_eq hspaced]
  obtain ⟨c, tail, rfl, -, hnot, hopen, hword⟩ := h
  have hnone : negation? (c :: tail) = none := by
    rw [Option.eq_none_iff_forall_ne_some]
    intro rest hsign
    exact hnot (List.cons.inj (negation?_eq_some_iff.mp hsign).1).1
  simp only [hnone, hword]
  split
  · rename_i he
    exact absurd (List.cons.inj he).1 hopen
  · rfl

theorem ReadsOperand.operand_dropSpace {o : Operand} (h : ReadsOperand o cs₁ rest)
    (hspaced : Spaced cs cs₁) (hrest : FollowedBy afterReadOperand rest) :
    operand (dropSpace cs) = .done o rest := by
  rw [h.operandStart.dropSpace_eq hspaced, h.operand_eq hrest]

theorem found_holds {o : Operand} (hspaced : Spaced cs cs₁) (ho : ReadsOperand o cs₁ rest) :
    Found .unary (fun profile => (o.resolve profile).same (.bool true)) cs rest := by
  intro fuel hfuel hrest
  cases fuel with
  | zero => omega
  | succ fuel =>
    refine ⟨.holds o, rfl, ?_⟩
    have hnone : relation? (dropSpace rest) = none := by
      rw [Option.eq_none_iff_forall_ne_some]
      intro found hsign
      exact (relation?_eq_some_iff.mp hsign).opens.not_followedBy (by decide) hrest
    rw [ho.operandStart.unaryAt_eq hspaced, comparison,
      ho.operand_dropSpace hspaced (hrest.mono (by decide))]
    simp only [Outcome.andThen, afterOperand, dropSpace_dropSpace, hnone]

theorem found_compare {left right : Operand} {relation : Relation} {cs₄ cs₅ : List Char}
    (hspaced : Spaced cs cs₁) (hleft : ReadsOperand left cs₁ cs₂) (hspaced₂ : Spaced cs₂ cs₃)
    (hsign : RelationSign relation cs₃ cs₄) (hspaced₄ : Spaced cs₄ cs₅)
    (hright : ReadsOperand right cs₅ rest) :
    Found .unary (fun profile => relationValue relation
      ((left.resolve profile).looselyEqual (right.resolve profile))) cs rest := by
  intro fuel hfuel hrest
  cases fuel with
  | zero => omega
  | succ fuel =>
    refine ⟨.compare left relation right, by cases relation <;> rfl, ?_⟩
    rw [hleft.operandStart.unaryAt_eq hspaced, comparison,
      hleft.operand_dropSpace hspaced (hsign.opens.followedBy hspaced₂ (by decide))]
    have hcs₃ : dropSpace (dropSpace cs₂) = cs₃ := by
      rw [dropSpace_dropSpace, hsign.opens.dropSpace_eq hspaced₂]
    simp only [Outcome.andThen, afterOperand, hcs₃, relation?_eq_some_iff.mpr hsign,
      hright.operand_dropSpace hspaced₄ (hrest.mono (by decide))]
    rfl

/-- Completeness of the readers, by induction on the derivation. -/
theorem Reads.found {level : Level} (h : Reads level value cs rest) :
    Found level value cs rest := by
  induction h with
  | or hv hspaced hsign hw ihv ihw =>
    exact found_or ihv hspaced hsign ihw hv.behind.suffix.length_le hw.behind.suffix.length_le
  | expr _ ih => exact found_expr ih
  | and hv hspaced hsign hw ihv ihw =>
    exact found_and ihv hspaced hsign ihw hv.behind.suffix.length_le hw.behind.suffix.length_le
  | unary _ ih => exact found_unary ih
  | not hspaced hsign _ ih => exact found_not hspaced hsign ih
  | group hopen _ hclose ih => exact found_group hopen ih hclose
  | compare hspaced hleft hspaced₂ hsign hspaced₄ hright =>
    exact found_compare hspaced hleft hspaced₂ hsign hspaced₄ hright
  | holds hspaced ho => exact found_holds hspaced ho

end Found

theorem Reads.dropSpace {level : Level} {value : Json → Bool} {cs rest : List Char}
    (h : Reads level value cs rest) : Reads level value (Parser.dropSpace cs) rest := by
  induction h with
  | or _ h₁ h₂ h₃ ih _ => exact .or ih h₁ h₂ h₃
  | expr _ ih => exact .expr ih
  | and _ h₁ h₂ h₃ ih _ => exact .and ih h₁ h₂ h₃
  | unary _ ih => exact .unary ih
  | not h₁ h₂ h₃ _ =>
    rw [h₂.opens.dropSpace_eq h₁]
    exact .not (.refl _) h₂ h₃
  | group h₁ h₂ h₃ _ =>
    rw [h₁.dropSpace_cons rfl]
    exact .group (.refl _) h₂ h₃
  | compare h₁ h₂ h₃ h₄ h₅ h₆ =>
    rw [h₂.operandStart.dropSpace_eq h₁]
    exact .compare (.refl _) h₂ h₃ h₄ h₅ h₆
  | holds h₁ h₂ =>
    rw [h₂.operandStart.dropSpace_eq h₁]
    exact .holds (.refl _) h₂

theorem formula_eq_ok_iff {cs : List Char} {value : Json → Bool} :
    (∃ f, Parser.formula cs = .ok f ∧ (fun profile => f.eval profile) = value) ↔
      Derives cs value := by
  constructor
  · rintro ⟨f, hf, rfl⟩
    simp only [Parser.formula] at hf
    split at hf
    · rename_i rest hread
      split at hf
      · rename_i hend
        cases hf
        obtain ⟨mid, hreads, hspaced⟩ := sound_orWith (sound_unaryAt _) _ _ _ hread
        refine ⟨mid, (spaced_dropSpace cs).reads hreads, hspaced.trans ?_⟩
        rw [← hend]
        exact spaced_dropSpace rest
      · cases hf
    · cases hf
    · cases hf
  · rintro ⟨rest, hreads, hspaced⟩
    have hend : Parser.dropSpace rest = [] := hspaced.dropSpace_eq nofun
    have hfollow : FollowedBy afterExpr rest := by
      rw [FollowedBy, hend]
      nofun
    obtain ⟨f, hvalue, hread⟩ := hreads.dropSpace.found.orWith_eq _ (Nat.lt_succ_self _) hfollow
    refine ⟨f, ?_, hvalue⟩
    rw [Parser.formula, orExpr, hread, hend]
    rfl

theorem unwrap_eq_iff {cs text : List Char} :
    unwrap cs = text ↔ cs = '\x7b' :: (text ++ ['\x7d']) ∨
      cs = text ∧ ∀ inner, text ≠ '\x7b' :: (inner ++ ['\x7d']) := by
  -- Without both braces only the second form is left, and it says that nothing is taken away.
  have hbare : (∀ inner, cs ≠ '\x7b' :: (inner ++ ['\x7d'])) → (cs = text ↔
      cs = '\x7b' :: (text ++ ['\x7d']) ∨
        cs = text ∧ ∀ inner, text ≠ '\x7b' :: (inner ++ ['\x7d'])) := by
    intro hnone
    constructor
    · rintro rfl
      exact .inr ⟨rfl, hnone⟩
    · rintro (h | ⟨h, -⟩)
      · exact absurd h (hnone text)
      · exact h
  unfold unwrap
  split
  · rename_i rest
    split
    · rename_i hlast
      obtain ⟨inner, rfl⟩ := List.getLast?_eq_some_iff.mp hlast
      rw [List.dropLast_concat]
      constructor
      · rintro rfl
        exact .inl rfl
      · rintro (h | ⟨rfl, hnone⟩)
        · exact List.append_cancel_right (List.cons.inj h).2
        · exact absurd rfl (hnone inner)
    · rename_i hlast
      refine hbare fun inner h => hlast ?_
      rw [(List.cons.inj h).2, List.getLast?_concat]
  · rename_i hopen
    exact hbare fun inner h => hopen _ h

theorem isBody_iff {source : String} {text : List Char} :
    IsBody source text ↔ Parser.body source = text := by
  rw [Parser.body, unwrap_eq_iff]
  constructor
  · rintro ⟨before, core, after, hbefore, hafter, hsource, htrimmed, hcore⟩
    rwa [hsource, Text.trimChars_append hbefore hafter htrimmed]
  · intro hcore
    obtain ⟨before, after, hbefore, hafter, hsource, htrimmed⟩ :=
      Text.exists_trimChars source.toList
    exact ⟨before, _, after, hbefore, hafter, hsource, htrimmed, hcore⟩

end ApiCatalog.Condition.Grammar

namespace ApiCatalog.Condition

/-- The parser accepts the texts of the grammar and no others, and a condition evaluates to the
value of its derivation. -/
theorem parse_iff (source : String) (value : Json → Bool) :
    (∃ condition, Condition.parse source = .ok condition ∧ condition.source = source ∧
        ∀ profile, condition.evaluate profile = value profile) ↔
      ∃ text, Grammar.IsBody source text ∧ Grammar.Derives text value := by
  have hformula := @Grammar.formula_eq_ok_iff (Parser.body source) value
  constructor
  · rintro ⟨condition, hparse, -, hvalue⟩
    cases hf : Parser.formula (Parser.body source) with
    | error fault =>
      rw [Condition.parse, hf] at hparse
      cases hparse
    | ok f =>
      rw [Condition.parse, hf] at hparse
      cases hparse
      exact ⟨_, Grammar.isBody_iff.mpr rfl, hformula.mp ⟨f, hf, funext hvalue⟩⟩
  · rintro ⟨text, hbody, hderives⟩
    rw [← Grammar.isBody_iff.mp hbody] at hderives
    obtain ⟨f, hf, rfl⟩ := hformula.mpr hderives
    exact ⟨⟨source, f⟩, by rw [Condition.parse, hf]; rfl, rfl, fun _ => rfl⟩

end ApiCatalog.Condition
