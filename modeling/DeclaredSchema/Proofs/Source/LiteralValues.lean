import DeclaredSchema.Proofs.Source.ExpressionLines
import DeclaredSchema.Proofs.Source.LiteralReadings

/-! # Literals as values

What an accepted statement assigns is read as a literal exactly if its tokens denote one: a single
literal, or several with commas between them, which are a tuple without parentheses.
-/

namespace DeclaredSchema.Source

open Cursor Rule Source.Tree Source.Tree.Strength
open Printed (commaJoined commaTail)

/-! ## Values -/

theorem starts_of_opensLiteral {k : Token.Kind} (h : k.opensLiteral = true) :
    starts k = true := by
  cases k with
  | name n =>
      simp only [Token.Kind.opensLiteral, Token.Kind.isOfLiteral, Bool.or_eq_true,
        decide_eq_true_eq] at h
      rcases h with (rfl | rfl) | rfl <;> decide
  | symbol s =>
      revert h
      cases s <;> decide
  | number _ | str _ _ => rfl
  | _ => cases h

/-- The parts of a tuple without parentheses, each of which is read. -/
theorem listOf_parts {Q : List Token.Kind → Prop} {first : List Token.Kind}
    {parts : List (List Token.Kind)} {fuel : Nat}
    (hparts : ∀ part ∈ first :: parts, part ≠ [] →
      PartReads (read fuel (.item .star)) (Q part) part)
    (hfirst : first ≠ []) (several : parts ≠ []) (hgapless : Gapless parts)
    {us : List Token.Kind} (closed : Closed us) {c d : Cursor} {s : Shape}
    (h : read (fuel + 1) (.listOf .star) c = .ok (s, d))
    (hc : c.kinds = commaJoined (first :: parts) ++ us) :
    ∀ part ∈ first :: parts, part ≠ [] → Q part := by
  obtain ⟨hread, hothers⟩ := List.forall_mem_cons.mp hparts
  rw [Printed.commaJoined_cons, List.append_assoc] at hc
  rw [read_listOf_eq] at h
  obtain ⟨⟨t, e⟩, hitem, hrest⟩ := bind_eq_ok.mp h
  obtain ⟨he, hQ⟩ := (hread hfirst).read hitem hc (stops_commaTail closed)
  have hcomma : e.atSymbol .comma = true := by
    obtain ⟨next, parts, rfl⟩ := List.exists_cons_of_ne_nil several
    rw [atSymbol_eq, he]
    rfl
  simp only [hcomma, Bool.not_true, Bool.false_eq_true, if_false] at hrest
  obtain ⟨⟨fit, i⟩, hrounds, -⟩ := bind_eq_ok.mp hrest
  have hrounds : roundsFuel (commaRound (!·.startsExpression) (read fuel (.item .star)))
      (e.rest.length + 1) t.fitsSequence e = .ok (fit, i) := hrounds
  have hgoes (c : Cursor) (hopens : c.kinds.head?.any Token.Kind.opensLiteral = true) :
      (!c.startsExpression) = false := by
    obtain ⟨k, hk, hopens⟩ := (Option.any_eq_true _ _).mp hopens
    rw [startsExpression_eq, hk, Option.any_some, starts_of_opensLiteral hopens, Bool.not_true]
  obtain ⟨-, -, hmore⟩ := rounds_parts hothers
    (fun _ _ hstarts hyield => read_refused hstarts hyield _ rfl) hgoes (.inl hgapless) closed
    (length_rest e ▸ Nat.lt_succ_self _) hrounds he
  exact List.forall_mem_cons.mpr ⟨fun _ => hQ, hmore⟩

theorem denotes_listOf {items : List LiteralItem} {trailing : Bool}
    (h : ∀ i ∈ items, FactorReads i.kinds i.value) (some : items ≠ [])
    (alone : items.length = 1 → trailing = true) {us : List Token.Kind} (closed : Closed us)
    {fuel : Nat} {c d : Cursor} {s : Shape}
    (hread : read (fuel + 1) (.listOf .star) c = .ok (s, d))
    (hc : c.kinds = series items trailing ++ us) : ∀ i ∈ items, Denotes i.kinds i.value := by
  have hparts := filter_series h trailing
  have hgapless := gapless_series h trailing
  refine denotes_items h hparts ?_
  rw [series_eq fun _ => some] at hc
  obtain ⟨i, others, rfl⟩ := List.exists_cons_of_ne_nil some
  refine listOf_parts
    (fun part hpart hne => partReads_items h (mem_items hparts hpart hne) rfl fuel)
    (nonempty_items h i List.mem_cons_self) ?_ hgapless.tail closed hread hc
  cases others with
  | nil =>
      rw [alone rfl]
      exact List.cons_ne_nil _ _
  | cons j others => exact List.cons_ne_nil _ _

/-! ## What is assigned -/

/-- Nothing is behind a statement, or the semicolon that ends it. -/
def Cursor.EndsStatement (d : Cursor) : Prop := d.rest = [] ∨ d.atSymbol .semicolon = true

/-- The grammar reads the tokens in full as the value of an assignment: from their first one on it
comes to the end of the statement. -/
def ReadAsValue (ts : List Token) : Prop :=
  ∃ c d s, Rule.yieldOrStars.run c = .ok (s, d) ∧ c.rest = ts ++ d.rest ∧ d.EndsStatement

/-- Behind a sign of an assignment, a value is read from there to the second place. -/
def EndsInValue (c d : Cursor) : Prop :=
  ∃ (e f : Cursor) (ts : List Token), e.rest <:+ c.rest ∧
    e.eatAny? (.assign :: Line.augmented) = some f ∧ f.rest = ts ++ d.rest ∧ ReadAsValue ts

section Assignments

variable {c d e f : Cursor} {s : Shape}

theorem suffix_run (h : Rule.yieldOrStars.run c = .ok (s, d)) : d.rest <:+ c.rest := by
  have hcarries : Crossing.refl.Carries 0 0 0 c _ _ := Crossing.carries_run .yieldOrStars nofun
  exact (hcarries.passes h).suffix

theorem suffix_pass_expression (h : Rule.expression.pass c = .ok d) : d.rest <:+ c.rest := by
  have hcarries : Crossing.refl.Carries 0 0 0 c _ _ := Crossing.carries_pass .expression nofun
  exact (hcarries.passes h).suffix

theorem suffix_eat? {sign : Symbol} (h : c.eat? sign = some d) : d.rest <:+ c.rest := by
  obtain ⟨-, hd⟩ := Option.ite_none_right_eq_some.mp h
  obtain rfl := Option.some.inj hd
  exact Crossing.suffix_advance c

theorem eatAny?_of_eat? {sign : Symbol} {signs : List Symbol} (hsign : sign ∈ signs)
    (h : c.eat? sign = some d) : c.eatAny? signs = some d := by
  obtain ⟨hat, hd⟩ := Option.ite_none_right_eq_some.mp h
  obtain rfl := Option.some.inj hd
  exact if_pos (List.any_eq_true.mpr ⟨sign, hsign, hat⟩)

theorem eatAny?_cons {sign : Symbol} {signs : List Symbol} (h : c.eatAny? signs = some d) :
    c.eatAny? (sign :: signs) = some d := by
  obtain ⟨hat, hd⟩ := Option.ite_none_right_eq_some.mp h
  obtain rfl := Option.some.inj hd
  exact if_pos (by rw [List.any_cons, hat, Bool.or_true])

theorem endsInValue_of_run (he : e.rest <:+ c.rest)
    (hsign : e.eatAny? (.assign :: Line.augmented) = some f)
    (hread : Rule.yieldOrStars.run f = .ok (s, d)) (hend : d.EndsStatement) : EndsInValue c d := by
  obtain ⟨ts, hts⟩ := suffix_run hread
  exact ⟨e, f, ts, he, hsign, hts.symm, f, d, s, hread, hts.symm, hend⟩

theorem endsInValue_of_pass (he : e.rest <:+ c.rest)
    (hsign : e.eatAny? (.assign :: Line.augmented) = some f)
    (hread : Rule.yieldOrStars.pass f = .ok d) (hend : d.EndsStatement) : EndsInValue c d := by
  rw [Crossing.pass_eq_run] at hread
  obtain ⟨⟨s, i⟩, hrun, hi⟩ := bind_eq_ok.mp hread
  cases hi
  exact endsInValue_of_run he hsign hrun hend

/-- By induction on the number of signs. -/
theorem endsInValue_of_rounds {n : Nat} {last : Shape} (he : e.rest <:+ c.rest)
    (h : roundsFuel assignRound n last e = .ok (s, d)) (hend : d.EndsStatement) :
    d = e ∨ EndsInValue c d := by
  induction n generalizing e last with
  | zero =>
      cases h
      exact .inl rfl
  | succ n ih =>
      rw [roundsFuel, assignRound] at h
      cases hsign : e.eat? .assign with
      | none =>
          rw [hsign] at h
          cases h
          exact .inl rfl
      | some f =>
          cases htarget : checkTarget last.assignable f with
          | error err =>
              simp only [hsign, htarget] at h
              cases h
          | ok =>
              cases hread : Rule.yieldOrStars.run f with
              | error err =>
                  simp only [hsign, htarget, Rule.ok_bind, hread] at h
                  cases h
              | ok r =>
                  simp only [hsign, htarget, Rule.ok_bind, hread] at h
                  have hr : r.2.rest <:+ c.rest :=
                    (suffix_run hread).trans ((suffix_eat? hsign).trans he)
                  rcases ih hr h with rfl | hvalue
                  · exact .inr (endsInValue_of_run he (eatAny?_of_eat? List.mem_cons_self hsign)
                      hread hend)
                  · exact .inr hvalue

/-- An accepted statement is an expression or an annotation alone, or it ends in a value. -/
theorem endsInValue_of_expressionStatement (h : Line.expressionStatement c = .ok d)
    (hend : d.EndsStatement) :
    (∃ s, Rule.yieldOrStars.run c = .ok (s, d)) ∨
      (∃ s e f, Rule.yieldOrStars.run c = .ok (s, e) ∧ e.eat? .colon = some f ∧
        Rule.expression.pass f = .ok d) ∨
      EndsInValue c d := by
  rw [expressionStatement_eq] at h
  obtain ⟨⟨target, e⟩, htarget, hrest⟩ := bind_eq_ok.mp h
  have he := suffix_run htarget
  dsimp only at hrest
  split at hrest
  · next f hcolon =>
    obtain ⟨-, -, hrest⟩ := bind_eq_ok.mp hrest
    obtain ⟨i, hannotation, hrest⟩ := bind_eq_ok.mp hrest
    have hi : i.rest <:+ c.rest :=
      (suffix_pass_expression hannotation).trans ((suffix_eat? hcolon).trans he)
    split at hrest
    · next g hsign =>
      have hany : i.eatAny? (.assign :: Line.augmented) = some g :=
        eatAny?_of_eat? List.mem_cons_self hsign
      exact .inr (.inr (endsInValue_of_pass hi hany hrest hend))
    · cases hrest
      exact .inr (.inl ⟨target, e, f, htarget, hcolon, hannotation⟩)
  · split at hrest
    · next f hsign =>
      obtain ⟨-, -, hrest⟩ := bind_eq_ok.mp hrest
      exact .inr (.inr (endsInValue_of_pass he (eatAny?_cons hsign) hrest hend))
    · obtain ⟨⟨s, i⟩, hrounds, hi⟩ := bind_eq_ok.mp hrest
      cases hi
      rcases endsInValue_of_rounds he hrounds hend with rfl | hvalue
      · exact .inl ⟨target, htarget⟩
      · exact .inr (.inr hvalue)

end Assignments

theorem opens_series {items : List LiteralItem} (h : ∀ i ∈ items, FactorReads i.kinds i.value)
    (some : items ≠ []) (trailing : Bool) :
    (series items trailing).head?.any Token.Kind.opensLiteral = true := by
  obtain ⟨i, others, rfl⟩ := List.exists_cons_of_ne_nil some
  rw [series, List.map_cons, Printed.commaJoined_cons, List.append_assoc]
  exact opens_append (h i List.mem_cons_self).opens _

theorem ReadAsValue.exists_listOf {ts : List Token} (h : ReadAsValue ts)
    (hopens : (kindsOf ts).head?.any Token.Kind.opensLiteral = true) :
    ∃ fuel c d s us, read (fuel + 1) (.listOf .star) c = .ok (s, d) ∧
      c.kinds = kindsOf ts ++ us ∧ Closed us := by
  obtain ⟨c, d, s, hread, hrest, hend⟩ := h
  have hc : c.kinds = kindsOf ts ++ d.kinds := by rw [kinds, hrest, ← kindsOf, kindsOf_append]; rfl
  have closed : Closed d.kinds := by
    rcases hend with hend | hend
    · rw [kinds, hend]
      exact .nil
    · rw [atSymbol_eq, decide_eq_true_eq] at hend
      rintro k hk
      obtain rfl := Option.some.inj (hend.symm.trans hk)
      decide
  have hyield : c.atName "yield" = false := by
    rw [atName_eq, decide_eq_false_iff_not]
    exact head?_ne_of_opensLiteral (hc ▸ opens_append hopens d.kinds) (by decide)
  rw [Rule.run, Nat.mul_succ, Rule.read, hyield] at hread
  exact ⟨_, c, d, s, d.kinds, hread, hc, closed⟩

/-- Of what is cut out as a literal, the grammar only reads the literals. -/
theorem denotesValue_of_taken {ts : List Token} (h : ReadAsValue ts) {l : Literal}
    (hl : Taken (kindsOf ts) l ∨ BareTuple Taken (kindsOf ts) l) : DenotesValue (kindsOf ts) l := by
  rcases hl with htaken | htuple
  · obtain ⟨fuel, c, d, s, us, hread, hc, closed⟩ := h.exists_listOf htaken.factorReads.opens
    rw [read_listOf_eq] at hread
    obtain ⟨⟨t, e⟩, hitem, -⟩ := bind_eq_ok.mp hread
    exact .inl ((htaken.factorReads.part rfl fuel).read hitem hc closed.ends.stops).2
  · have hreads := fun hopens => h.exists_listOf hopens
    generalize kindsOf ts = ks at htuple hreads
    obtain @⟨items, trailing, hitems, some, alone⟩ := htuple
    have hfactors : ∀ i ∈ items, FactorReads i.kinds i.value :=
      fun i hi => (hitems i hi).factorReads
    obtain ⟨fuel, c, d, s, us, hread, hc, closed⟩ := hreads (opens_series hfactors some trailing)
    exact .inr (.mk (denotes_listOf hfactors some alone closed hread hc) some alone)

/-! ## Denoted literals are cut out -/

theorem Denotes.taken {ks : List Token.Kind} {l : Literal} (h : Denotes ks l) : Taken ks l := by
  induction h with
  | token h => exact .token h
  | minus _ opposite ih => exact .minus ih opposite
  | plus _ ih => exact .plus ih
  | enclosed _ ih => exact .enclosed ih rfl
  | tuple _ alone behind ih => exact .tuple ih alone behind rfl
  | @list items trailing _ behind ih =>
      have hparts := filter_series (fun i hi => (ih i hi).factorReads) trailing
      rw [series_eq behind]
      exact .list ih hparts rfl

theorem DenotesValue.taken {ks : List Token.Kind} {l : Literal} (h : DenotesValue ks l) :
    Taken ks l ∨ BareTuple Taken ks l := by
  rcases h with h | ⟨h, some, alone⟩
  · exact .inl h.taken
  · exact .inr (.mk (fun i hi => (h i hi).taken) some alone)

/-- An accepted value is read as a literal exactly if its tokens denote one, and then nothing but
literals, signs, brackets and commas stands in it. -/
theorem literal_of_readAsValue {ts : List Token} (h : ReadAsValue ts) :
    (∀ l, (Expr.ofTokens ts).literal? = some l ↔ DenotesValue (kindsOf ts) l) ∧
      ((Expr.ofTokens ts).literal?.isSome → LiteralTokens (kindsOf ts)) := by
  have hiff (l : Literal) : (Expr.ofTokens ts).literal? = some l ↔ DenotesValue (kindsOf ts) l := by
    rw [literal?_ofTokens_iff]
    exact ⟨denotesValue_of_taken h, DenotesValue.taken⟩
  refine ⟨hiff, fun hsome => ?_⟩
  obtain ⟨l, hl⟩ := Option.isSome_iff_exists.mp hsome
  exact ((hiff l).mp hl).tokens

/-- `[-1, (2, "a"),]`. -/
theorem literal_of_readAsValue_nested :
    let ts : List Token := [⟨.symbol .openSquare, 1⟩, ⟨.symbol .minus, 1⟩, ⟨.number "1", 1⟩,
      ⟨.symbol .comma, 1⟩, ⟨.symbol .openParen, 1⟩, ⟨.number "2", 1⟩, ⟨.symbol .comma, 1⟩,
      ⟨.str "a" true, 1⟩, ⟨.symbol .closeParen, 1⟩, ⟨.symbol .comma, 1⟩, ⟨.symbol .closeSquare, 1⟩]
    ReadAsValue ts ∧
      (Expr.ofTokens ts).literal? = some (.list [.int (-1), .list [.int 2, .str "a"]]) ∧
      LiteralTokens (kindsOf ts) := by
  intro ts
  have hread : ReadAsValue ts := ⟨.start ts, ⟨1, []⟩, .value, by rfl, by simp [start], .inl rfl⟩
  have htwo : Denotes [.number "2"] (.int 2) := .token (by rfl)
  have ha : Denotes [.str "a" true] (.str "a") := .token rfl
  let pair : List LiteralItem := [⟨[.number "2"], .int 2⟩, ⟨[.str "a" true], .str "a"⟩]
  have hpair : Denotes (bracketed .paren (series pair false)) (listed pair) :=
    .tuple (List.forall_mem_cons.mpr ⟨htwo, List.forall_mem_singleton.mpr ha⟩)
      (fun halone => absurd halone (by simp [pair])) (fun h => absurd h Bool.false_ne_true)
  have hone : Denotes [.symbol .minus, .number "1"] (.int (-1)) :=
    .minus (.token (show _ = some (.int 1) by rfl)) (by rfl)
  let items : List LiteralItem := [⟨[.symbol .minus, .number "1"], .int (-1)⟩,
    ⟨bracketed .paren (series pair false), listed pair⟩]
  have hitems : Denotes (bracketed .square (series items true)) (listed items) :=
    .list (List.forall_mem_cons.mpr ⟨hone, List.forall_mem_singleton.mpr hpair⟩)
      fun _ => List.cons_ne_nil _ _
  obtain ⟨hiff, htokens⟩ := literal_of_readAsValue hread
  have hliteral := (hiff _).mpr (.inl hitems)
  exact ⟨hread, hliteral, htokens (Option.isSome_of_mem hliteral)⟩

end DeclaredSchema.Source
