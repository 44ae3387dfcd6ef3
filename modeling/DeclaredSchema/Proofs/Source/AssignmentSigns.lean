import DeclaredSchema.Proofs.Source.Enclosures

/-! # Where `=` stands in an expression

Outside of all brackets an expression has a `=` only if it has a `lambda` there. Every other rule
that reads one begins behind an opening bracket. What can be assigned to alone is a name that is no
keyword, or it has more tokens than one.
-/

namespace DeclaredSchema.Source

open Cursor Rule Crossing Source.Tree

/-! ## Tokens that no `=` divides -/

/-- Tokens with matching brackets. Outside of them there is no `=`, or there is a `lambda`. -/
structure Undivided (ts : List Token) : Prop where
  matched : depthBehind? 0 ts = some 0
  signless : anyTopLevel (·.isName "lambda") ts = false →
    anyTopLevel (·.isSymbol .assign) ts = false

namespace Undivided

variable {ts us : List Token} {t : Token}

theorem nil : Undivided [] := ⟨rfl, fun _ => rfl⟩

theorem append (h : Undivided ts) (g : Undivided us) : Undivided (ts ++ us) where
  matched := by
    rw [depthBehind?_append, h.matched]
    exact g.matched
  signless hlambda := by
    rw [anyTopLevel, anyFrom_append h.matched, Bool.or_eq_false_iff] at hlambda ⊢
    exact ⟨h.signless hlambda.1, g.signless hlambda.2⟩

theorem single (hopens : t.opens = false) (hcloses : t.closes = false)
    (hsign : t.isSymbol .assign = false) : Undivided [t] where
  matched := by
    rw [depthBehind?_cons, Token.depthBehind?_of_not (by simp [hopens]) (by simp [hcloses])]
    rfl
  signless _ := by
    rw [anyTopLevel, anyFrom, hopens, hcloses, hsign]
    rfl

theorem bracketed {last : Token} (hopens : t.opens = true) (hcloses : last.closes = true)
    (h : depthBehind? 0 ts = some 0) : Undivided (t :: (ts ++ [last])) := by
  constructor
  · rw [depthBehind?_group hopens hcloses h]
    rfl
  · intro _
    rw [anyTopLevel, anyFrom_group hopens hcloses h]
    rfl

theorem lambda (ht : t.kind = .name "lambda") (h : depthBehind? 0 ts = some 0) :
    Undivided (t :: ts) where
  matched := by
    rw [depthBehind?_cons, depthBehind?_of_name ht]
    exact h
  signless hnone := by
    have hopens : t.opens = false := by simp [Token.opens, Token.opens?, ht]
    have hcloses : t.closes = false := by simp [Token.closes, Token.closes?, ht]
    rw [anyTopLevel, anyFrom, hopens, hcloses] at hnone
    simp [Token.isName, ht] at hnone

end Undivided

/-- From one place to a later one over such tokens. -/
def Over (c d : Cursor) : Prop := ∃ ts, c.rest = ts ++ d.rest ∧ Undivided ts

namespace Over

variable {c d e : Cursor}

theorem refl (c : Cursor) : Over c c := ⟨[], rfl, .nil⟩

theorem trans (h : Over c d) (g : Over d e) : Over c e := by
  obtain ⟨ts, hts, h⟩ := h
  obtain ⟨us, hus, g⟩ := g
  exact ⟨ts ++ us, by rw [hts, hus, List.append_assoc], h.append g⟩

theorem name {t : Token} {n : String} (hc : c.rest = t :: d.rest) (ht : t.kind = .name n) :
    Over c d := by
  refine ⟨[t], hc, .single ?_ ?_ ?_⟩
  · simp [Token.opens, Token.opens?, ht]
  · simp [Token.closes, Token.closes?, ht]
  · simp [Token.isSymbol, ht]

theorem symbol {t : Token} {s : Symbol} (hc : c.rest = t :: d.rest) (ht : t.kind = .symbol s)
    (hs : s.opens? = none ∧ s.closes? = none ∧ s ≠ .assign) : Over c d := by
  refine ⟨[t], hc, .single ?_ ?_ ?_⟩
  · rw [Token.opens_of_symbol ht, hs.1]
    rfl
  · rw [Token.closes_of_symbol ht, hs.2.1]
    rfl
  · simpa [Token.isSymbol, ht] using hs.2.2

theorem brackets {t : Token} (hc : c.rest = t :: d.rest) (hopens : t.opens = true)
    (h : Encloses d e) : Over c e := by
  obtain ⟨i, last, ⟨inside, hinside, hwithin⟩, hrest, hcloses⟩ := h
  refine ⟨t :: (inside ++ [last]), ?_, .bracketed hopens hcloses (depthBehind?_of_within hwithin)⟩
  rw [hc, hinside, hrest]
  simp

theorem length_le (h : Over c d) : d.rest.length ≤ c.rest.length := by
  obtain ⟨ts, hts, -⟩ := h
  rw [hts, List.length_append]
  omega

/-- A pair of brackets has two tokens. -/
theorem length_brackets {t : Token} (hc : c.rest = t :: d.rest) (h : Encloses d e) :
    e.rest.length + 2 ≤ c.rest.length := by
  obtain ⟨i, last, hinside, hrest, -⟩ := h
  have hle := hinside.length_le
  rw [hrest, List.length_cons] at hle
  rw [hc, List.length_cons]
  omega

end Over

/-! ## Single steps -/

section Steps

variable {c d e : Cursor}

theorem exists_of_eatAny? {symbols : List Symbol} (h : c.eatAny? symbols = some d) :
    ∃ t, ∃ s ∈ symbols, c.rest = t :: d.rest ∧ t.kind = .symbol s := by
  obtain ⟨hat, hd⟩ := Option.ite_none_right_eq_some.mp h
  obtain ⟨s, hs, hat⟩ := List.any_eq_true.mp hat
  obtain ⟨t, hc, ht, -⟩ := exists_of_eat? (show c.eat? s = some d by rw [eat?, if_pos hat, hd])
  exact ⟨t, s, hs, hc, ht⟩

theorem exists_of_eatName? {word : String} (h : c.eatName? word = some d) :
    ∃ t, c.rest = t :: d.rest ∧ t.kind = .name word := by
  obtain ⟨hat, hd⟩ := Option.ite_none_right_eq_some.mp h
  obtain ⟨t, ts, hc, ht⟩ := exists_of_name? (name?_of_atName hat)
  obtain rfl := Option.some.inj hd
  exact ⟨t, by rw [advance, hc], ht⟩

theorem over_eat? {s : Symbol} (h : c.eat? s = some d)
    (hs : s.opens? = none ∧ s.closes? = none ∧ s ≠ .assign) : Over c d := by
  obtain ⟨t, hc, ht, -⟩ := exists_of_eat? h
  exact .symbol hc ht hs

theorem over_eatAny? {symbols : List Symbol} (h : c.eatAny? symbols = some d)
    (hs : ∀ s ∈ symbols, s.opens? = none ∧ s.closes? = none ∧ s ≠ .assign) : Over c d := by
  obtain ⟨t, s, hmem, hc, ht⟩ := exists_of_eatAny? h
  exact .symbol hc ht (hs s hmem)

theorem over_eatName? {word : String} (h : c.eatName? word = some d) : Over c d := by
  obtain ⟨t, hc, ht⟩ := exists_of_eatName? h
  exact .name hc ht

theorem over_expectName {word : String} (h : c.expectName word = .ok d) : Over c d := by
  rw [expectName] at h
  split at h
  · next e heat =>
    cases h
    exact over_eatName? heat
  · cases h

theorem over_eatOperator? {level : Level} (h : level.eatOperator? c = some d) : Over c d := by
  cases level with
  | disjunction | conjunction => exact over_eatName? h
  | bitOr | bitXor | bitAnd | shift | sum | term => exact over_eatAny? h (by decide)
  | comparison =>
      rw [Level.eatOperator?, eatWordComparison?_eq, Option.or_eq_some_iff] at h
      rcases h with h | ⟨-, h⟩
      · exact over_eatAny? h (by decide)
      rcases Option.or_eq_some_iff.mp h with h | ⟨-, h⟩
      · exact over_eatName? h
      rcases Option.or_eq_some_iff.mp h with h | ⟨-, h⟩
      · obtain ⟨e, his, rfl⟩ := Option.map_eq_some_iff.mp h
        refine (over_eatName? his).trans ?_
        cases hnot : e.eatName? "not" with
        | none => exact .refl e
        | some i => exact over_eatName? hnot
      · obtain ⟨hwords, hd⟩ := Option.ite_none_right_eq_some.mp h
        obtain ⟨hnot, hin⟩ := Bool.and_eq_true_iff.mp hwords
        obtain rfl := Option.some.inj hd
        obtain ⟨t, u, ts, hc, hu⟩ := exists_of_second? hin
        have hfirst : c.eatName? "not" = some c.advance := if_pos hnot
        have hadvance : c.advance.rest = u :: ts := by rw [advance, hc]
        have hsecond : c.advance.eatName? "in" = some c.advance.advance := by
          rw [eatName?, atName, hadvance, List.head?_cons, Option.any_some, if_pos hu]
        exact (over_eatName? hfirst).trans (over_eatName? hsecond)

end Steps

/-! ## Readings -/

/-- One token, a name that is no keyword. -/
def OneName (c d : Cursor) : Prop :=
  ∃ n line, c.rest = ⟨.name n, line⟩ :: d.rest ∧ isKeyword n = false

/-- From one place to a later one over an expression of the shape. -/
structure Covers (c : Cursor) (s : Shape) (d : Cursor) : Prop where
  passed : Over c d
  target : s.single = true → OneName c d ∨ d.rest.length + 2 ≤ c.rest.length

theorem Covers.value {c d : Cursor} (h : Over c d) : Covers c .value d where
  passed := h
  target hs := by cases hs

/-- What holds of the outcome of a round. -/
def Cursor.Round.Holds {α : Type} (P : α → Cursor → Prop) : Round α → Prop
  | .stop v c => P v c
  | .again v c => P v c

/-- What one round keeps, all rounds keep. -/
theorem holds_of_rounds {α : Type} {round : α → Cursor → Except SyntaxError (Round α)}
    {P : α → Cursor → Prop} (hround : ∀ v c, P v c → ∀ r, round v c = .ok r → r.Holds P)
    {v w : α} {c d : Cursor} (hc : P v c) (h : rounds round v c = .ok (w, d)) : P w d := by
  have hfuel (n : Nat) : ∀ {v : α} {c : Cursor}, P v c →
      roundsFuel round n v c = .ok (w, d) → P w d := by
    induction n with
    | zero =>
        intro v c hc h
        cases h
        exact hc
    | succ n ih =>
        intro v c hc h
        rw [roundsFuel] at h
        cases hr : round v c with
        | error err =>
            rw [hr] at h
            cases h
        | ok r =>
            have hholds := hround v c hc r hr
            rw [hr] at h
            cases r with
            | stop w' e =>
                cases h
                exact hholds
            | again w' e => exact ih hholds h
  exact hfuel _ hc h

/-- The rules of an expression outside of brackets. -/
def Rule.outer : Rule → Bool
  | .expression | .chain _ | .inversion | .factor | .primary | .atom => true
  | _ => false

theorem Level.operand_outer (level : Level) : level.operand.outer = true := by cases level <;> rfl

section Rules

variable {fuel : Nat} (ih : ∀ {rule : Rule} {c d : Cursor} {s : Shape}, rule.outer = true →
  read fuel rule c = .ok (s, d) → Covers c s d) {c d : Cursor} {s : Shape}
include ih

theorem covers_expression (h : read (fuel + 1) .expression c = .ok (s, d)) : Covers c s d := by
  rw [Rule.read] at h
  split at h
  · next e hlambda =>
    obtain ⟨⟨_, i⟩, hparameters, h⟩ := bind_eq_ok.mp h
    obtain ⟨m, hcolon, h⟩ := bind_eq_ok.mp h
    obtain ⟨⟨_, o⟩, hbody, h⟩ := bind_eq_ok.mp h
    cases h
    obtain ⟨t, hc, ht⟩ := exists_of_eatName? hlambda
    have hi : Passes 0 0 e i := passes_read (ready_of_ne (by decide)) hparameters 0
    have hm : refl.Carries 0 0 0 i _ _ := carries_expect .colon rfl
    have ho : Passes 0 0 m d := passes_read (ready_of_ne (by decide)) hbody 0
    obtain ⟨ts, hts, hwithin⟩ := hi.trans ((hm.passes hcolon).trans ho)
    exact .value ⟨t :: ts, by rw [hc, hts]; rfl, .lambda ht (depthBehind?_of_within hwithin)⟩
  · obtain ⟨⟨shape, e⟩, hfirst, h⟩ := bind_eq_ok.mp h
    have he := ih rfl hfirst
    dsimp only at h
    split at h
    · cases h
      exact he
    · next i hif =>
      obtain ⟨⟨_, m⟩, hcondition, h⟩ := bind_eq_ok.mp h
      obtain ⟨o, helse, h⟩ := bind_eq_ok.mp h
      obtain ⟨⟨_, q⟩, hother, h⟩ := bind_eq_ok.mp h
      cases h
      exact .value (he.passed.trans ((over_eatName? hif).trans ((ih rfl hcondition).passed.trans
        ((over_expectName helse).trans (ih rfl hother).passed))))

theorem covers_chain {level : Level} (h : read (fuel + 1) (.chain level) c = .ok (s, d)) :
    Covers c s d := by
  rw [read_chain_eq] at h
  obtain ⟨⟨shape, e⟩, hfirst, h⟩ := bind_eq_ok.mp h
  refine holds_of_rounds (P := Covers c) (fun v i hi r hr => ?_) (ih level.operand_outer hfirst) h
  rw [chainRound] at hr
  split at hr
  · cases hr
    exact hi
  · next m hoperator =>
    obtain ⟨⟨_, o⟩, hoperand, hr⟩ := bind_eq_ok.mp hr
    cases hr
    exact .value (hi.passed.trans ((over_eatOperator? hoperator).trans
      (ih level.operand_outer hoperand).passed))

theorem covers_inversion (h : read (fuel + 1) .inversion c = .ok (s, d)) : Covers c s d := by
  rw [Rule.read] at h
  split at h
  · next e hnot =>
    obtain ⟨⟨_, i⟩, hread, h⟩ := bind_eq_ok.mp h
    cases h
    exact .value ((over_eatName? hnot).trans (ih rfl hread).passed)
  · exact ih rfl h

theorem covers_awaited (h : readAwaited fuel c = .ok (s, d)) : Covers c s d := by
  rw [readAwaited] at h
  split at h
  · next e hawait =>
    obtain ⟨⟨_, i⟩, hread, h⟩ := bind_eq_ok.mp h
    cases h
    exact .value ((over_eatName? hawait).trans (ih rfl hread).passed)
  · exact ih rfl h

theorem covers_factor (h : read (fuel + 1) .factor c = .ok (s, d)) : Covers c s d := by
  rw [read_factor_eq] at h
  split at h
  · next e hsign =>
    obtain ⟨⟨_, i⟩, hread, h⟩ := bind_eq_ok.mp h
    cases h
    exact .value ((over_eatAny? hsign (by decide)).trans (ih rfl hread).passed)
  · obtain ⟨⟨shape, e⟩, hfirst, h⟩ := bind_eq_ok.mp h
    have he := covers_awaited ih hfirst
    dsimp only at h
    split at h
    · cases h
      exact he
    · next i hpower =>
      obtain ⟨⟨_, m⟩, hread, h⟩ := bind_eq_ok.mp h
      cases h
      exact .value (he.passed.trans ((over_eat? hpower (by decide)).trans (ih rfl hread).passed))

theorem covers_primary (h : read (fuel + 1) .primary c = .ok (s, d)) : Covers c s d := by
  rw [read_primary_eq] at h
  obtain ⟨⟨shape, e⟩, hfirst, h⟩ := bind_eq_ok.mp h
  refine holds_of_rounds (P := Covers c) (fun v i hi r hr => ?_) (ih rfl hfirst) h
  rw [primaryRound] at hr
  split at hr
  · next m hdot =>
    obtain ⟨o, hname, hr⟩ := bind_eq_ok.mp hr
    cases hr
    obtain ⟨t, hrest, ht, -⟩ := exists_of_eat? hdot
    obtain ⟨u, word, hmore, hu⟩ := identifier_eq_ok hname
    refine ⟨hi.passed.trans ((over_eat? hdot (by decide)).trans (.name hmore hu)), fun _ => .inr ?_⟩
    have hlength := hi.passed.length_le
    rw [hrest, hmore] at hlength
    exact hlength
  split at hr
  · next m hopen =>
    obtain ⟨⟨_, o⟩, hread, hr⟩ := bind_eq_ok.mp hr
    cases hr
    obtain ⟨t, hrest, ht, -⟩ := exists_of_eat? hopen
    exact .value (hi.passed.trans (.brackets hrest (Token.opens_of_symbol ht)
      (encloses_read rfl hread)))
  split at hr
  · next m hopen =>
    obtain ⟨⟨_, o⟩, hread, hr⟩ := bind_eq_ok.mp hr
    cases hr
    obtain ⟨t, hrest, ht, -⟩ := exists_of_eat? hopen
    have hclosed : Encloses m o := encloses_read rfl hread
    refine ⟨hi.passed.trans (.brackets hrest (Token.opens_of_symbol ht) hclosed), fun _ => .inr ?_⟩
    exact Nat.le_trans (Over.length_brackets hrest hclosed) hi.passed.length_le
  · cases hr
    exact hi

omit ih in
theorem covers_atom (h : read (fuel + 1) .atom c = .ok (s, d)) : Covers c s d := by
  cases hc : c.rest with
  | nil =>
      rw [Rule.read, hc] at h
      cases h
  | cons t ts =>
      rw [read_atom_of_cons fuel hc] at h
      have hadvance : c.rest = t :: c.advance.rest := by rw [advance, hc]
      have hinside {rule : Rule} {s : Symbol} (ht : t.kind = .symbol s) (hrule : rule.opened = 1)
          (hs : s.opens?.isSome = true) {shape : Shape}
          (h : read fuel rule c.advance = .ok (shape, d)) : Covers c shape d := by
        have hclosed : Encloses c.advance d := encloses_read hrule h
        have hopens : t.opens = true := (Token.opens_of_symbol ht).trans hs
        exact ⟨.brackets hadvance hopens hclosed,
          fun _ => .inr (Over.length_brackets hadvance hclosed)⟩
      obtain ⟨kind, line⟩ := t
      cases kind with
      | name n =>
          have hover : Over c c.advance := .name hadvance rfl
          rw [atomOf] at h
          split at h
          · cases h
            exact .value hover
          split at h
          · cases h
          · next hkeyword =>
            cases h
            exact ⟨hover, fun _ => .inl ⟨n, line, hadvance, by simpa using hkeyword⟩⟩
      | number | str =>
          cases h
          exact .value ⟨_, hadvance, .single rfl rfl rfl⟩
      | newline | indent | dedent | endMarker => cases h
      | symbol s =>
          cases s with
          | ellipsis =>
              cases h
              exact .value (.symbol hadvance rfl (by decide))
          | openParen | openSquare | openBrace => exact hinside rfl rfl rfl h
          | _ => cases h

end Rules

/-- By induction on the number of rules that may be entered. -/
theorem covers_read {fuel : Nat} {rule : Rule} {c d : Cursor} {s : Shape}
    (hrule : rule.outer = true) (h : read fuel rule c = .ok (s, d)) : Covers c s d := by
  induction fuel generalizing rule c d s with
  | zero => cases h
  | succ fuel ih =>
      cases rule with
      | expression => exact covers_expression ih h
      | chain level => exact covers_chain ih h
      | inversion => exact covers_inversion ih h
      | factor => exact covers_factor ih h
      | primary => exact covers_primary ih h
      | atom => exact covers_atom h
      | _ => cases hrule

/-! ## Annotations and targets -/

section Targets

variable {c d : Cursor} {s : Shape} {fuel : Nat}

/-- The tokens of an annotation. -/
theorem over_pass_expression (h : Rule.expression.pass c = .ok d) : Over c d := by
  rw [pass_eq_run] at h
  obtain ⟨⟨s, e⟩, hread, h⟩ := bind_eq_ok.mp h
  cases h
  exact (covers_read rfl hread).passed

theorem target_item (h : read fuel (.item .star) c = .ok (s, d)) (hs : s.single = true) :
    OneName c d ∨ d.rest.length + 2 ≤ c.rest.length := by
  cases fuel with
  | zero => cases h
  | succ fuel =>
      rw [Rule.read] at h
      split at h
      · obtain ⟨⟨shape, i⟩, -, h⟩ := bind_eq_ok.mp h
        cases h
        exact absurd hs (by cases shape <;> decide)
      · exact (covers_read rfl h).target hs

theorem target_listOf (h : read fuel (.listOf .star) c = .ok (s, d)) (hs : s.single = true) :
    OneName c d ∨ d.rest.length + 2 ≤ c.rest.length := by
  cases fuel with
  | zero => cases h
  | succ fuel =>
      rw [Rule.read] at h
      obtain ⟨⟨first, e⟩, hfirst, h⟩ := bind_eq_ok.mp h
      dsimp only at h
      split at h
      · cases h
        exact target_item hfirst hs
      · obtain ⟨⟨fit, i⟩, -, h⟩ := bind_eq_ok.mp h
        cases h
        rw [Shape.ofItems] at hs
        split at hs <;> cases hs

theorem shape_yielded (h : yielded fuel c = .ok (s, d)) : s = .value := by
  rw [yielded] at h
  split at h
  · obtain ⟨_, -, h⟩ := bind_eq_ok.mp h
    cases h
    rfl
  split at h
  · obtain ⟨_, -, h⟩ := bind_eq_ok.mp h
    cases h
    rfl
  · cases h
    rfl

/-- What can be annotated is a name that is no keyword, or it has more tokens than one. -/
theorem target_run (h : Rule.yieldOrStars.run c = .ok (s, d)) (hs : s.single = true) :
    OneName c d ∨ d.rest.length + 2 ≤ c.rest.length := by
  obtain ⟨fuel, hfuel⟩ : ∃ fuel, 24 * (c.rest.length + 1) = fuel + 2 :=
    ⟨24 * c.rest.length + 22, rfl⟩
  rw [Rule.run, hfuel, Rule.read] at h
  split at h
  · have hyielded : yielded fuel c.advance = .ok (s, d) := h
    obtain rfl := shape_yielded hyielded
    cases hs
  · exact target_listOf h hs

end Targets

end DeclaredSchema.Source
