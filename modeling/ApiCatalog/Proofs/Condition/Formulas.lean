import ApiCatalog.Proofs.Condition.Operands

/-! # Reading formulas

Whatever the reader of formulas finds is a formula of the grammar, and the value it computes is that
of the derivation.
-/

namespace ApiCatalog.Condition.Grammar

open Condition.Parser

theorem sign_eq_some_iff {s w : Char} {word cs rest : List Char} (hw : w ≠ s) (hw' : w.toUpper ≠ s) :
    (after? [s, s] cs <|> keyword? (w :: word) cs) = some rest ↔
      cs = s :: s :: rest ∨ Keyword (w :: word) cs rest := by
  rw [Option.orElse_eq_some, after?_eq_some_iff, keyword?_eq_some_iff]
  refine or_congr_right (and_iff_right_of_imp fun h => ?_)
  obtain ⟨tail, rfl | rfl⟩ := h.exists_cons
  · rw [after?, if_neg hw]
  · rw [after?, if_neg hw']

theorem conjunction?_eq_some_iff {cs rest : List Char} :
    conjunction? cs = some rest ↔ AndSign cs rest :=
  sign_eq_some_iff (by decide) (by decide)

theorem disjunction?_eq_some_iff {cs rest : List Char} :
    disjunction? cs = some rest ↔ OrSign cs rest :=
  sign_eq_some_iff (by decide) (by decide)

theorem negation?_eq_some_iff {cs rest : List Char} :
    negation? cs = some rest ↔ cs = '!' :: rest ∧ rest.head? ≠ some '=' := by
  unfold negation?
  split
  · constructor
    · nofun
    · rintro ⟨⟨⟩, hne⟩
      exact absurd rfl hne
  · rename_i behind hequal
    have hne : behind.head? ≠ some '=' := fun hhead => by
      obtain ⟨tail, rfl⟩ := List.head?_eq_some_iff.mp hhead
      exact hequal tail rfl
    constructor
    · rintro ⟨⟩
      exact ⟨rfl, hne⟩
    · rintro ⟨⟨⟩, -⟩
      rfl
  · rename_i hsign
    constructor
    · nofun
    · rintro ⟨rfl, -⟩
      exact absurd rfl (hsign _)

theorem relation?_eq_some_iff {relation : Relation} {cs rest : List Char} :
    relation? cs = some (relation, rest) ↔ RelationSign relation cs rest := by
  unfold relation?
  split
  · constructor
    · rintro ⟨⟩
      exact .equal _
    · rintro ⟨⟩
      rfl
  · constructor
    · rintro ⟨⟩
      exact .unequal _
    · rintro ⟨⟩
      rfl
  · rename_i hequal hunequal
    constructor
    · nofun
    · rintro ⟨⟩
      · exact absurd rfl (hequal _)
      · exact absurd rfl (hunequal _)

/-- What comes of a formula without a connective at its top is what comes of a negation, of a group
or of a comparison. -/
theorem unaryWith_cases (unary expr : List Char → Outcome Formula) (cs : List Char) :
    (∃ rest, NotSign (dropSpace cs) rest ∧
      unaryWith unary expr cs = (unary (dropSpace rest)).map .not) ∨
    (∃ rest close, dropSpace cs = '(' :: rest ∧
      unaryWith unary expr cs = (expr (dropSpace rest)).andThen close ∧
      ∀ f mid, close f mid = .refused ∨
        ∃ rest', dropSpace mid = ')' :: rest' ∧ close f mid = .done f (dropSpace rest')) ∨
    unaryWith unary expr cs = comparison cs := by
  -- a negation, or what is tried after it
  have hnegated : ∀ {rest? : Option (List Char)} {o other},
      (∀ rest, rest? = some rest → NotSign (dropSpace cs) rest) →
      o = rest?.elim .refused (fun rest => (unary (dropSpace rest)).map .not) →
      unaryWith unary expr cs = o.orElse other →
      (∃ rest, NotSign (dropSpace cs) rest ∧
        unaryWith unary expr cs = (unary (dropSpace rest)).map .not) ∨
      unaryWith unary expr cs = other := by
    rintro rest? o other hsign rfl h
    cases rest? with
    | none => exact .inr h
    | some rest =>
      rcases Outcome.orElse_cases ((unary (dropSpace rest)).map .not) other with he | he
      · exact .inl ⟨rest, hsign rest rfl, h.trans he⟩
      · exact .inr (h.trans he)
  rcases hnegated (fun rest hsign => .inl (negation?_eq_some_iff.mp hsign))
    (by cases negation? (dropSpace cs) <;> rfl) rfl with h | h
  · exact .inl h
  rcases hnegated (fun rest hsign => .inr (keyword?_eq_some_iff.mp hsign))
    (by cases keyword? ['n', 'o', 't'] (dropSpace cs) <;> rfl) h with h | h
  · exact .inl h
  split at h
  · rename_i rest hopen
    rcases Outcome.orElse_cases _ _ with he | he
    · refine .inr (.inl ⟨rest, _, hopen, h.trans he, fun f mid => ?_⟩)
      split
      · rename_i rest' hclose
        exact .inr ⟨rest', hclose, rfl⟩
      · exact .inl rfl
    · exact .inr (.inr (h.trans he))
  · exact .inr (.inr h)

theorem Spaced.reads {level : Level} {value : Json → Bool} {cs cs' rest : List Char}
    (hspaced : Spaced cs cs') (h : Reads level value cs' rest) : Reads level value cs rest := by
  induction h generalizing cs with
  | or _ h₁ h₂ h₃ ih _ => exact .or (ih hspaced) h₁ h₂ h₃
  | expr _ ih => exact .expr (ih hspaced)
  | and _ h₁ h₂ h₃ ih _ => exact .and (ih hspaced) h₁ h₂ h₃
  | unary _ ih => exact .unary (ih hspaced)
  | not h₁ h₂ h₃ _ => exact .not (hspaced.trans h₁) h₂ h₃
  | group h₁ h₂ h₃ _ => exact .group (hspaced.trans h₁) h₂ h₃
  | compare h₁ h₂ h₃ h₄ h₅ h₆ => exact .compare (hspaced.trans h₁) h₂ h₃ h₄ h₅ h₆
  | holds h₁ h₂ => exact .holds (hspaced.trans h₁) h₂

/-- A reader that finds formulas of one strength, behind which it drops white space. -/
def Sound (level : Level) (reader : List Char → Outcome Formula) : Prop :=
  ∀ cs f rest, reader cs = .done f rest →
    ∃ mid, Reads level (fun profile => f.eval profile) cs mid ∧ Spaced mid rest

theorem sound_comparison : Sound .unary comparison := by
  intro cs f rest h
  obtain ⟨left, mid, hleft, h⟩ := Outcome.andThen_eq_done_iff.mp h
  have hleft := readsOperand_of_operand hleft
  have hholds : ∃ mid', Reads .unary (fun profile => (Formula.holds left).eval profile) cs mid' ∧
      Spaced mid' (dropSpace mid) :=
    ⟨mid, .holds (spaced_dropSpace cs) hleft, spaced_dropSpace mid⟩
  unfold afterOperand at h
  split at h
  · cases h
    exact hholds
  · rename_i relation mid' hrelation
    rcases Outcome.orElse_eq_done_iff.mp h with h | ⟨-, h⟩
    · obtain ⟨right, mid'', hright, h⟩ := Outcome.andThen_eq_done_iff.mp h
      cases h
      rw [dropSpace_dropSpace] at hrelation
      refine ⟨mid'', ?_, spaced_dropSpace mid''⟩
      have hreads := Reads.compare (spaced_dropSpace cs) hleft (spaced_dropSpace mid)
        (relation?_eq_some_iff.mp hrelation) (spaced_dropSpace mid')
        (readsOperand_of_operand hright)
      cases relation <;> exact hreads
    · cases h
      exact hholds

section Chains

variable {connective? : List Char → Option (List Char)} {reader : List Char → Outcome Formula}
  {join : Formula → Formula → Formula}

theorem sound_chain {level item : Level} (hreader : Sound item reader)
    (hjoin : ∀ {f g : Formula} {cs cs₁ cs₂ cs₃ rest : List Char},
      Reads level (fun profile => f.eval profile) cs cs₁ → Spaced cs₁ cs₂ →
      connective? cs₂ = some cs₃ → Reads item (fun profile => g.eval profile) cs₃ rest →
      Reads level (fun profile => (join f g).eval profile) cs rest)
    {n : Nat} {f g : Formula} {cs mid cs' rest : List Char}
    (hf : Reads level (fun profile => f.eval profile) cs mid) (hspaced : Spaced mid cs')
    (h : chain connective? reader join n f cs' = .done g rest) :
    ∃ mid, Reads level (fun profile => g.eval profile) cs mid ∧ Spaced mid rest := by
  induction n generalizing f mid cs' with
  | zero =>
    cases h
    exact ⟨mid, hf, hspaced⟩
  | succ n ih =>
    rw [chain] at h
    split at h
    · cases h
      exact ⟨mid, hf, hspaced⟩
    · rename_i behind hconnective
      split at h
      · rename_i right behind' hright
        obtain ⟨mid', hreads, hspaced'⟩ := hreader _ _ _ hright
        exact ih (hjoin hf (hspaced.trans (spaced_dropSpace cs')) hconnective
          ((spaced_dropSpace behind).reads hreads)) hspaced' h
      · cases h
        exact ⟨mid, hf, hspaced⟩
      · cases h

end Chains

section Levels

variable {reader : List Char → Outcome Formula}

theorem sound_andWith (hreader : Sound .unary reader) : Sound .and (andWith reader) := by
  intro cs f rest h
  obtain ⟨first, mid, hfirst, h⟩ := Outcome.andThen_eq_done_iff.mp h
  obtain ⟨mid', hreads, hspaced⟩ := hreader _ _ _ hfirst
  refine sound_chain hreader (fun hf hspaced hsign hg => ?_) (.unary hreads) hspaced h
  exact .and hf hspaced (conjunction?_eq_some_iff.mp hsign) hg

theorem sound_orWith (hreader : Sound .unary reader) : Sound .expr (orWith reader) := by
  intro cs f rest h
  obtain ⟨first, mid, hfirst, h⟩ := Outcome.andThen_eq_done_iff.mp h
  obtain ⟨mid', hreads, hspaced⟩ := sound_andWith hreader _ _ _ hfirst
  refine sound_chain (sound_andWith hreader) (fun hf hspaced hsign hg => ?_) (.expr hreads)
    hspaced h
  exact .or hf hspaced (disjunction?_eq_some_iff.mp hsign) hg

theorem sound_unaryWith {expr : List Char → Outcome Formula} (hreader : Sound .unary reader)
    (hexpr : Sound .expr expr) : Sound .unary (unaryWith reader expr) := by
  intro cs f rest h
  have hspace := spaced_dropSpace cs
  rcases unaryWith_cases reader expr cs with
    ⟨behind, hsign, he⟩ | ⟨behind, close, hopen, he, hclose⟩ | he
  · obtain ⟨inner, hinner, rfl⟩ := Outcome.map_eq_done_iff.mp (he ▸ h)
    obtain ⟨mid, hreads, hspaced⟩ := hreader _ _ _ hinner
    exact ⟨mid, .not hspace hsign ((spaced_dropSpace behind).reads hreads), hspaced⟩
  · rw [hopen] at hspace
    obtain ⟨inner, mid, hinner, hend⟩ := Outcome.andThen_eq_done_iff.mp (he ▸ h)
    obtain ⟨mid', hreads, hspaced⟩ := hexpr _ _ _ hinner
    rcases hclose inner mid with hrefused | ⟨behind', hmid, hdone⟩
    · cases hrefused.symm.trans hend
    · cases hdone.symm.trans hend
      have hclosed := hspaced.trans (spaced_dropSpace mid)
      rw [hmid] at hclosed
      exact ⟨behind', .group hspace ((spaced_dropSpace behind).reads hreads) hclosed,
        spaced_dropSpace behind'⟩
  · exact sound_comparison _ _ _ (he ▸ h)

/-- Soundness of the reader, by induction on the depth to which it goes. -/
theorem sound_unaryAt (fuel : Nat) : Sound .unary (unaryAt fuel) := by
  induction fuel with
  | zero => nofun
  | succ fuel ih => exact sound_unaryWith ih (sound_orWith ih)

end Levels

end ApiCatalog.Condition.Grammar
