import DeclaredSchema.Proofs.Source.LiteralCuts
import DeclaredSchema.Proofs.Source.StatementParts

/-! # Literals in the grammar

The grammar goes from rule to rule down to an operand, where an expression is cut at its commas and
brackets instead. Of what is cut out as a literal the grammar accepts exactly the literals: it asks
for the bracket that was opened, and for something between two commas.
-/

namespace DeclaredSchema.Source

open Cursor Rule Source.Tree Source.Tree.Strength
open Printed (commaJoined commaTail)

/-! ## Down to an operand -/

/-- A literal begins with the token. -/
def Token.Kind.opensLiteral : Token.Kind → Bool
  | .symbol s => [Symbol.plus, .minus, .openParen, .openSquare].contains s
  | k => k.isOfLiteral

/-- Rules that read a factor first, if no word or star stands in front of it. -/
def Rule.beginsWithFactor : Rule → Bool
  | .item _ | .named | .expression | .chain _ | .inversion | .factor => true
  | _ => false

theorem Level.operand_beginsWithFactor (level : Level) :
    level.operand.beginsWithFactor = true := by
  cases level <;> rfl

/-- A reading began with one of another rule, and ended with it if nothing there went on. -/
def Narrows (rule : Rule) (c d : Cursor) : Prop :=
  ∃ fuel s e, read fuel rule c = .ok (s, e) ∧ (Stops expression.rank e.kinds → d = e)

section Narrowing

variable {c d : Cursor} {s : Shape} {fuel : Nat}

theorem head?_ne_of_opensLiteral (hopens : c.kinds.head?.any Token.Kind.opensLiteral = true)
    {k : Token.Kind} (hk : k.opensLiteral = false) : c.kinds.head? ≠ some k := by
  intro hhead
  rw [hhead, Option.any_some, hk] at hopens
  cases hopens

theorem atIdentifier_of_opensLiteral
    (hopens : c.kinds.head?.any Token.Kind.opensLiteral = true) : c.atIdentifier = false := by
  rw [Bool.eq_false_iff]
  intro hat
  obtain ⟨word, hhead, hfree⟩ := head?_of_atIdentifier hat
  rw [hhead, Option.any_some] at hopens
  simp only [Token.Kind.opensLiteral, Token.Kind.isOfLiteral, Bool.or_eq_true,
    decide_eq_true_eq] at hopens
  rcases hopens with (rfl | rfl) | rfl <;> exact absurd hfree (by decide)

/-- By induction on the number of rules that may be entered: behind the operand nothing goes on. -/
theorem narrows_factor (hopens : c.kinds.head?.any Token.Kind.opensLiteral = true) {rule : Rule}
    (hrule : rule.beginsWithFactor = true) (h : read fuel rule c = .ok (s, d)) :
    Narrows .factor c d := by
  have hword {word : String} (hw : (Token.Kind.name word).opensLiteral = false) :
      c.eatName? word = none := eatName?_of_head (head?_ne_of_opensLiteral hopens hw)
  induction fuel generalizing rule s d with
  | zero => cases h
  | succ fuel ih =>
      cases rule with
      | item element =>
          have hstar : c.eat? .star = none := eat?_of_head (head?_ne_of_opensLiteral hopens rfl)
          cases element <;> rw [read_item_eq, hstar] at h <;> exact ih rfl h
      | named =>
          rw [Rule.read, atIdentifier_of_opensLiteral hopens] at h
          exact ih rfl h
      | expression =>
          rw [Rule.read, hword (by decide)] at h
          obtain ⟨⟨t, i⟩, hfirst, hrest⟩ := bind_eq_ok.mp h
          obtain ⟨f, u, e, hfactor, hends⟩ := ih rfl hfirst
          refine ⟨f, u, e, hfactor, fun stops => ?_⟩
          obtain rfl := hends stops
          have hif : i.eatName? "if" = none := eatName?_of_head (stops.head (by decide))
          simp only [hif] at hrest
          cases hrest
          rfl
      | chain level =>
          rw [read_chain_eq] at h
          obtain ⟨⟨t, i⟩, hfirst, hrest⟩ := bind_eq_ok.mp h
          obtain ⟨f, u, e, hfactor, hends⟩ := ih level.operand_beginsWithFactor hfirst
          refine ⟨f, u, e, hfactor, fun stops => ?_⟩
          obtain rfl := hends stops
          have hround : chainRound fuel level t i = .ok (.stop t i) := by
            rw [chainRound, eatOperator?_of_stops (stops.mono (by cases level <;> decide))]
          have hstop := hrest.symm.trans (rounds_stop hround)
          cases hstop
          rfl
      | inversion =>
          rw [Rule.read, hword (by decide)] at h
          exact ih rfl h
      | factor => exact ⟨fuel + 1, s, d, h, fun _ => rfl⟩
      | _ => cases hrule

/-- A factor without a sign is read down to its atom. -/
theorem narrows_atom (hopens : c.kinds.head?.any Token.Kind.opensLiteral = true)
    (hplus : c.kinds.head? ≠ some (.symbol .plus)) (hminus : c.kinds.head? ≠ some (.symbol .minus))
    (h : read fuel .factor c = .ok (s, d)) : Narrows .atom c d := by
  cases fuel with
  | zero => cases h
  | succ fuel =>
      have hsign : c.eatAny? [.plus, .minus, .tilde] = none := by
        refine eatAny?_of_head fun sign hmem => ?_
        simp only [List.mem_cons, List.not_mem_nil, or_false] at hmem
        rcases hmem with rfl | rfl | rfl
        · exact hplus
        · exact hminus
        · exact head?_ne_of_opensLiteral hopens rfl
      have hawait : c.eatName? "await" = none :=
        eatName?_of_head (head?_ne_of_opensLiteral hopens (by decide))
      rw [read_factor_eq, hsign, readAwaited, hawait] at h
      obtain ⟨⟨t, i⟩, hprimary, hrest⟩ := bind_eq_ok.mp h
      cases fuel with
      | zero => cases hprimary
      | succ fuel =>
          rw [read_primary_eq] at hprimary
          obtain ⟨⟨u, e⟩, hatom, hrounds⟩ := bind_eq_ok.mp hprimary
          refine ⟨fuel, u, e, hatom, fun stops => ?_⟩
          have hround : primaryRound fuel u e = .ok (.stop u e) := by
            rw [primaryRound, eat?_of_head (stops.head (by decide)),
              eat?_of_head (stops.head (by decide)), eat?_of_head (stops.head (by decide))]
          have hstop := hrounds.symm.trans (rounds_stop hround)
          cases hstop
          have hpower : i.eat? .power = none := eat?_of_head (stops.head (by decide))
          simp only [hpower] at hrest
          cases hrest
          rfl

end Narrowing

/-! ## Between commas -/

/-- One more item, if a comma is ahead and the list does not end behind it. -/
def commaRound (ends : Cursor → Bool) (item : Cursor → Reading) (fit : Bool) (c : Cursor) :
    Except SyntaxError (Round Bool) :=
  match c.eat? .comma with
  | none => .ok (.stop fit c)
  | some c =>
    if ends c then .ok (.stop fit c)
    else do
      let (shape, c) ← item c
      .ok (.again (fit && shape.fitsSequence) c)

/-- What may stand behind a value. -/
def closings : List Token.Kind :=
  [.symbol .closeParen, .symbol .closeSquare, .symbol .closeBrace, .symbol .semicolon]

/-- Nothing is ahead, or something that ends a group or a statement. -/
def Closed (us : List Token.Kind) : Prop := ∀ k, us.head? = some k → k ∈ closings

namespace Closed

variable {us : List Token.Kind} {c : Cursor}

theorem nil : Closed [] := by
  intro k hk
  cases hk

theorem cons {s : Symbol} (closes : s.closes?.isSome) (us : List Token.Kind) :
    Closed (.symbol s :: us) := by
  intro k hk
  obtain rfl := Option.some.inj hk
  revert closes
  cases s <;> decide

theorem ends (h : Closed us) : Ends expression.rank us := by
  have hall : ∀ k ∈ closings,
      joinRank k < expression.rank ∧ k ≠ .symbol .comma ∧ openRank k = 0 := by decide
  exact fun k hk => hall k (h k hk)

/-- No item can be read where a value ends. -/
theorem no_item (h : Closed us) (hc : c.kinds = us) :
    c.startsExpression = false ∧ c.atName "yield" = false := by
  refine ⟨h.ends.startsExpression hc, ?_⟩
  rw [atName_eq, hc, decide_eq_false_iff_not]
  exact fun hhead => absurd (h _ hhead) (by decide)

end Closed

/-- A part between commas begins a literal, and an item is read of it and nothing behind it. What
was read of a part says something about it. -/
structure PartReads (item : Cursor → Reading) (Q : Prop) (part : List Token.Kind) : Prop where
  opens : part.head?.any Token.Kind.opensLiteral = true
  read : ∀ {c us s d}, item c = .ok (s, d) → c.kinds = part ++ us → Stops expression.rank us →
    d.kinds = us ∧ Q

/-- Only behind the last comma nothing may stand. -/
def Gapless (parts : List (List Token.Kind)) : Prop := ∀ part ∈ parts.dropLast, part ≠ []

namespace Gapless

variable {part : List Token.Kind} {parts : List (List Token.Kind)}

theorem nil : Gapless [] := List.forall_mem_nil _

theorem single (part : List Token.Kind) : Gapless [part] := List.forall_mem_nil _

theorem cons (h : Gapless parts) (hpart : part ≠ []) : Gapless (part :: parts) := by
  cases parts with
  | nil => exact single part
  | cons next parts => exact List.forall_mem_cons.mpr ⟨hpart, h⟩

theorem tail (h : Gapless (part :: parts)) : Gapless parts := by
  cases parts with
  | nil => exact nil
  | cons next parts => exact fun p hp => h p (List.mem_cons_of_mem _ hp)

end Gapless

theorem opens_append {ks : List Token.Kind} (h : ks.head?.any Token.Kind.opensLiteral = true)
    (more : List Token.Kind) : (ks ++ more).head?.any Token.Kind.opensLiteral = true := by
  cases ks with
  | nil => cases h
  | cons k ks => exact h

section Rounds

variable {ends : Cursor → Bool} {item : Cursor → Reading} {Q : List Token.Kind → Prop}
  {parts : List (List Token.Kind)} {us : List Token.Kind}

/-- Behind a comma the list ends, or an item is read. -/
theorem rounds_comma {n : Nat} {fit fit' : Bool} {c d e : Cursor} (hcomma : c.eat? .comma = some e)
    (h : roundsFuel (commaRound ends item) (n + 1) fit c = .ok (fit', d)) :
    ends e = true ∧ d = e ∨
      ends e = false ∧ ∃ s i, item e = .ok (s, i) ∧
        roundsFuel (commaRound ends item) n (fit && s.fitsSequence) i = .ok (fit', d) := by
  rw [roundsFuel, commaRound, hcomma] at h
  cases hends : ends e with
  | true =>
      simp only [hends, if_true] at h
      cases h
      exact .inl ⟨rfl, rfl⟩
  | false =>
      simp only [hends, Bool.false_eq_true, if_false] at h
      cases hitem : item e with
      | error err =>
          rw [hitem] at h
          cases h
      | ok r =>
          rw [hitem] at h
          exact .inr ⟨rfl, r.1, r.2, rfl, h⟩

/-- Where no item can be read, the list ends behind the comma. -/
theorem rounds_gap
    (refused : ∀ c r, c.startsExpression = false → c.atName "yield" = false → item c ≠ .ok r)
    (closed : Closed us) {n : Nat} {fit fit' : Bool} {c d e : Cursor}
    (hcomma : c.eat? .comma = some e) (he : e.kinds = commaTail parts ++ us)
    (h : roundsFuel (commaRound ends item) (n + 1) fit c = .ok (fit', d)) :
    ends e = true ∧ d = e := by
  rcases rounds_comma hcomma h with hend | ⟨-, s, i, hitem, -⟩
  · exact hend
  · obtain ⟨hstarts, hyield⟩ : e.startsExpression = false ∧ e.atName "yield" = false := by
      cases parts with
      | nil => exact closed.no_item he
      | cons next parts =>
          rw [startsExpression_eq, atName_eq, he]
          exact ⟨rfl, rfl⟩
    exact absurd hitem (refused _ _ hstarts hyield)

theorem stops_commaTail (closed : Closed us) : Stops expression.rank (commaTail parts ++ us) := by
  cases parts with
  | nil => exact closed.ends.stops
  | cons part parts => exact .cons (by decide) _

/-- By induction on the parts. Where one is missing, no item can be read. -/
theorem rounds_parts
    (hparts : ∀ part ∈ parts, part ≠ [] → PartReads item (Q part) part)
    (refused : ∀ c r, c.startsExpression = false → c.atName "yield" = false → item c ≠ .ok r)
    (goes : ∀ c : Cursor, c.kinds.head?.any Token.Kind.opensLiteral = true → ends c = false)
    (gaps : Gapless parts ∨ ∀ c : Cursor, c.kinds.head? = some (.symbol .comma) → ends c = false)
    (closed : Closed us) {n : Nat} {fit fit' : Bool} {c d : Cursor} (hn : c.kinds.length < n)
    (h : roundsFuel (commaRound ends item) n fit c = .ok (fit', d))
    (hc : c.kinds = commaTail parts ++ us) :
    d.kinds = us ∧ Gapless parts ∧ ∀ part ∈ parts, part ≠ [] → Q part := by
  induction parts generalizing n fit c with
  | nil =>
      obtain ⟨m, rfl⟩ := Nat.exists_eq_add_one.mpr (Nat.zero_lt_of_lt hn)
      have hcomma : c.eat? .comma = none := closed.ends.eat?_comma hc
      rw [roundsFuel, commaRound, hcomma] at h
      cases h
      exact ⟨hc, .nil, List.forall_mem_nil _⟩
  | cons part parts ih =>
      obtain ⟨m, rfl⟩ := Nat.exists_eq_add_one.mpr (Nat.zero_lt_of_lt hn)
      have hahead : c.kinds = .symbol .comma :: (part ++ (commaTail parts ++ us)) := by
        rw [hc, ← List.append_assoc]
        rfl
      have hrest := kinds_advance hahead
      by_cases hpart : part = []
      · obtain rfl := hpart
        obtain ⟨hends, rfl⟩ := rounds_gap refused closed (eat?_of_kinds hahead) hrest h
        cases parts with
        | nil => exact ⟨hrest, .single [], by simp⟩
        | cons next parts =>
            rcases gaps with hgapless | hcomma
            · exact absurd rfl (hgapless [] List.mem_cons_self)
            · rw [hcomma _ (by rw [hrest]; rfl)] at hends
              cases hends
      · obtain ⟨hopens, hread⟩ := hparts part List.mem_cons_self hpart
        have hhead : c.advance.kinds.head?.any Token.Kind.opensLiteral = true :=
          hrest ▸ opens_append hopens _
        rcases rounds_comma (eat?_of_kinds hahead) h with ⟨hends, -⟩ | ⟨-, s, i, hitem, hmore⟩
        · rw [goes _ hhead] at hends
          cases hends
        · obtain ⟨hi, hQ⟩ := hread hitem hrest (stops_commaTail closed)
          have hlength := congrArg List.length hahead
          rw [← hi, List.length_cons, List.length_append] at hlength
          obtain ⟨hd, hgapless, hothers⟩ :=
            ih (fun p hp => hparts p (List.mem_cons_of_mem _ hp)) (gaps.imp_left (·.tail))
              (by omega) hmore hi
          exact ⟨hd, hgapless.cons hpart, List.forall_mem_cons.mpr ⟨fun _ => hQ, hothers⟩⟩

end Rounds

/-! ## Between brackets -/

/-- How a reading between brackets ends, from behind the opening one on. -/
inductive GroupEnds (fuel : Nat) (close : Symbol) (c d : Cursor) : Prop
  | nothing (h : c.eat? close = some d)
  | yield (h : c.atName "yield" = true)
  | items {first : Shape} {e : Cursor} (hfirst : read fuel (.item .starNamed) c = .ok (first, e))
      (hmore : e.atComprehension = false →
        ∃ s, sequenceTail (read fuel (.item .starNamed)) close first e = .ok (s, d))

theorem groupEnds_paren {fuel : Nat} {c d : Cursor} {s : Shape}
    (h : read (fuel + 1) .parenthesized c = .ok (s, d)) : GroupEnds fuel .closeParen c d := by
  rw [Rule.read] at h
  cases hclose : c.eat? .closeParen with
  | some e =>
      rw [hclose] at h
      cases h
      exact .nothing hclose
  | none =>
      rw [hclose] at h
      dsimp only at h
      split at h
      · next hyield => exact .yield hyield
      obtain ⟨⟨first, e⟩, hfirst, hmore⟩ := bind_eq_ok.mp h
      refine .items hfirst fun hcomprehension => ?_
      simp only [hcomprehension, Bool.false_eq_true, if_false] at hmore
      split at hmore
      · next hcomma =>
        obtain ⟨i, hi, hd⟩ := bind_eq_ok.mp hmore
        cases hd
        have hround : nextItem (read fuel (.item .starNamed)) .closeParen first.fitsSequence e =
            .ok (.stop first.fitsSequence e) := by
          rw [nextItem, eat?_of_atSymbol (by simpa using hcomma)]
        rw [sequenceTail_eq, rounds_stop hround]
        exact ⟨_, bind_eq_ok.mpr ⟨(first.fitsSequence, e), rfl, bind_eq_ok.mpr ⟨d, hi, rfl⟩⟩⟩
      · exact ⟨s, hmore⟩

theorem groupEnds_square {fuel : Nat} {c d : Cursor} {s : Shape}
    (h : read (fuel + 1) .squareDisplay c = .ok (s, d)) : GroupEnds fuel .closeSquare c d := by
  rw [Rule.read] at h
  cases hclose : c.eat? .closeSquare with
  | some e =>
      rw [hclose] at h
      cases h
      exact .nothing hclose
  | none =>
      rw [hclose] at h
      obtain ⟨⟨first, e⟩, hfirst, hmore⟩ := bind_eq_ok.mp h
      refine .items hfirst fun hcomprehension => ?_
      simp only [hcomprehension, Bool.false_eq_true, if_false] at hmore
      exact ⟨s, hmore⟩

section Groups

variable {Q : List Token.Kind → Prop} {parts : List (List Token.Kind)} {us : List Token.Kind}
  {fuel : Nat} {close k : Symbol} {c d : Cursor} {s : Shape}

theorem kinds_of_expect (h : c.expect close = .ok d) : c.kinds = .symbol close :: d.kinds := by
  obtain ⟨t, hrest, ht, -⟩ := Crossing.expect_eq_ok h
  rw [kinds, hrest, List.map_cons, ht]
  rfl

theorem kinds_of_eat? (h : c.eat? close = some d) : c.kinds = .symbol close :: d.kinds :=
  kinds_of_expect (by rw [expect, h])

theorem opensLiteral_of_closes (h : close.closes?.isSome) :
    (Token.Kind.symbol close).opensLiteral = false := by
  revert h
  cases close <;> decide

theorem sequenceTail_parts {first : Shape} (hclose : close.closes?.isSome) (hk : k.closes?.isSome)
    (hparts : ∀ part ∈ parts, part ≠ [] →
      PartReads (read fuel (.item .starNamed)) (Q part) part)
    (h : sequenceTail (read fuel (.item .starNamed)) close first c = .ok (s, d))
    (hc : c.kinds = commaTail parts ++ .symbol k :: us) :
    k = close ∧ d.kinds = us ∧ Gapless parts ∧ ∀ part ∈ parts, part ≠ [] → Q part := by
  rw [sequenceTail_eq] at h
  obtain ⟨⟨fit, e⟩, hrounds, hexpect⟩ := bind_eq_ok.mp h
  obtain ⟨i, hi, hd⟩ := bind_eq_ok.mp hexpect
  cases hd
  have hrounds : roundsFuel (commaRound (·.atSymbol close) (read fuel (.item .starNamed)))
      (c.rest.length + 1) first.fitsSequence c = .ok (fit, e) := hrounds
  have hgoes (c : Cursor) (hopens : c.kinds.head?.any Token.Kind.opensLiteral = true) :
      c.atSymbol close = false := by
    rw [atSymbol_eq, decide_eq_false_iff_not]
    exact head?_ne_of_opensLiteral hopens (opensLiteral_of_closes hclose)
  have hcomma (c : Cursor) (hhead : c.kinds.head? = some (.symbol .comma)) :
      c.atSymbol close = false := by
    rw [atSymbol_eq, hhead, decide_eq_false_iff_not]
    rintro ⟨⟩
    cases hclose
  obtain ⟨he, hgapless, hQ⟩ := rounds_parts hparts
    (fun _ _ hstarts hyield => read_refused hstarts hyield _ rfl) hgoes (.inr hcomma)
    (.cons hk us) (length_rest c ▸ Nat.lt_succ_self _) hrounds hc
  have hend := kinds_of_expect hi
  rw [he] at hend
  obtain ⟨hkind, hus⟩ := List.cons.inj hend
  exact ⟨Token.Kind.symbol.inj hkind, hus.symm, hgapless, hQ⟩

namespace GroupEnds

/-- Where no item begins, the group can only be closed. -/
theorem closes (h : GroupEnds fuel close c d) (hc : c.kinds = .symbol k :: us)
    (hk : starts (.symbol k) = false) : k = close ∧ d.kinds = us := by
  cases h with
  | nothing h =>
      have hkinds := kinds_of_eat? h
      rw [hc] at hkinds
      obtain ⟨hkind, hus⟩ := List.cons.inj hkinds
      exact ⟨Token.Kind.symbol.inj hkind, hus.symm⟩
  | yield h =>
      rw [atName_eq, hc] at h
      cases of_decide_eq_true h
  | items hfirst =>
      refine absurd hfirst (read_refused ?_ ?_ _ rfl)
      · rw [startsExpression_eq, hc]
        exact hk
      · rw [atName_eq, hc]
        rfl

/-- Where a literal begins, an item is read. -/
theorem exists_first (h : GroupEnds fuel close c d) (hclose : close.closes?.isSome)
    (hopens : c.kinds.head?.any Token.Kind.opensLiteral = true) :
    ∃ first e, read fuel (.item .starNamed) c = .ok (first, e) ∧
      (e.atComprehension = false →
        ∃ s, sequenceTail (read fuel (.item .starNamed)) close first e = .ok (s, d)) := by
  cases h with
  | nothing h =>
      refine absurd ?_ (head?_ne_of_opensLiteral hopens (opensLiteral_of_closes hclose))
      rw [kinds_of_eat? h]
      rfl
  | yield h =>
      rw [atName_eq, decide_eq_true_eq] at h
      exact absurd h (head?_ne_of_opensLiteral hopens (by decide))
  | items hfirst hmore => exact ⟨_, _, hfirst, hmore⟩

/-- A group is closed by its own bracket, and only behind its last comma nothing stands. -/
theorem parts_read (h : GroupEnds fuel close c d) (hclose : close.closes?.isSome)
    (hk : k.closes?.isSome)
    (hparts : ∀ part ∈ parts, part ≠ [] →
      PartReads (read fuel (.item .starNamed)) (Q part) part)
    (hc : c.kinds = commaJoined parts ++ .symbol k :: us) :
    k = close ∧ d.kinds = us ∧ Gapless parts ∧ ∀ part ∈ parts, part ≠ [] → Q part := by
  have hplain : starts (.symbol k) = false := by
    revert hk
    cases k <;> decide
  cases parts with
  | nil =>
      obtain ⟨hkind, hd⟩ := h.closes hc hplain
      exact ⟨hkind, hd, .nil, List.forall_mem_nil _⟩
  | cons part parts =>
      rw [Printed.commaJoined_cons, List.append_assoc] at hc
      by_cases hpart : part = []
      · obtain rfl := hpart
        cases parts with
        | nil =>
            obtain ⟨hkind, hd⟩ := h.closes hc hplain
            exact ⟨hkind, hd, .single [], by simp⟩
        | cons next parts =>
            obtain ⟨rfl, -⟩ := h.closes hc rfl
            cases hclose
      · obtain ⟨hopens, hread⟩ := hparts part List.mem_cons_self hpart
        obtain ⟨first, e, hfirst, hmore⟩ := h.exists_first hclose (hc ▸ opens_append hopens _)
        obtain ⟨he, hQ⟩ := hread hfirst hc (stops_commaTail (.cons hk us))
        have hplain : e.atComprehension = false := by
          cases parts with
          | nil => exact not_atComprehension he
          | cons next parts => exact not_atComprehension he
        obtain ⟨s, htail⟩ := hmore hplain
        obtain ⟨hkind, hd, hgapless, hothers⟩ := sequenceTail_parts hclose hk
          (fun p hp => hparts p (List.mem_cons_of_mem _ hp)) htail he
        exact ⟨hkind, hd, hgapless.cons hpart, List.forall_mem_cons.mpr ⟨fun _ => hQ, hothers⟩⟩

end GroupEnds

end Groups

/-! ## Literals that are factors -/

/-- A factor that is read of the tokens ends behind them, and they denote the literal. -/
structure FactorReads (ks : List Token.Kind) (l : Literal) : Prop where
  opens : ks.head?.any Token.Kind.opensLiteral = true
  reads : ∀ {fuel c us s d}, read fuel .factor c = .ok (s, d) → c.kinds = ks ++ us →
    Stops expression.rank us → d.kinds = us ∧ Denotes ks l

namespace FactorReads

variable {ks : List Token.Kind} {l : Literal}

/-- The same for every rule that begins with a factor. -/
theorem part (h : FactorReads ks l) {rule : Rule} (hrule : rule.beginsWithFactor = true)
    (fuel : Nat) : PartReads (read fuel rule) (Denotes ks l) ks where
  opens := h.opens
  read := by
    intro c us s d hread hc stops
    obtain ⟨f, t, e, hfactor, hends⟩ := narrows_factor (hc ▸ opens_append h.opens us) hrule hread
    obtain ⟨he, hdenotes⟩ := h.reads hfactor hc stops
    exact ⟨by rw [hends (he.symm ▸ stops), he], hdenotes⟩

theorem atom {k : Token.Kind} (hopens : k.opensLiteral = true) (hplus : k ≠ .symbol .plus)
    (hminus : k ≠ .symbol .minus)
    (h : ∀ {fuel c us s d}, Crossing.atomOf fuel k c = .ok (s, d) → c.kinds = k :: (ks ++ us) →
      d.kinds = us ∧ Denotes (k :: ks) l) : FactorReads (k :: ks) l where
  opens := hopens
  reads := by
    intro fuel c us s d hread hc stops
    have hhead : c.kinds.head?.any Token.Kind.opensLiteral = true := by
      rw [hc]
      exact hopens
    have hne {j : Token.Kind} (hj : k ≠ j) : c.kinds.head? ≠ some j := by
      rw [hc]
      exact fun heq => hj (Option.some.inj heq)
    obtain ⟨f, t, e, hatom, hends⟩ := narrows_atom hhead (hne hplus) (hne hminus) hread
    cases f with
    | zero => cases hatom
    | succ f =>
        obtain ⟨line, rest, hrest, -⟩ := exists_of_kindsOf_cons hc
        rw [Crossing.read_atom_of_cons f hrest] at hatom
        obtain ⟨he, hdenotes⟩ := h hatom hc
        exact ⟨by rw [hends (he.symm ▸ stops), he], hdenotes⟩

theorem sign {s : Symbol} (hs : s ∈ signs) {m : Literal} (h : FactorReads ks l)
    (hdenotes : Denotes ks l → Denotes (.symbol s :: ks) m) : FactorReads (.symbol s :: ks) m where
  opens := by
    have hall : ∀ s ∈ signs, (Token.Kind.symbol s).opensLiteral = true := by decide
    exact hall s hs
  reads := by
    intro fuel c us t d hread hc stops
    cases fuel with
    | zero => cases hread
    | succ fuel =>
        have hall : ∀ s ∈ signs, s ∈ [Symbol.plus, .minus, .tilde] := by decide
        rw [read_factor_eq, eatAny?_of_kinds hc (hall s hs)] at hread
        obtain ⟨⟨u, e⟩, hfactor, he⟩ := bind_eq_ok.mp hread
        cases he
        exact (h.reads hfactor (kinds_advance hc) stops).imp_right hdenotes

theorem token {k : Token.Kind} (h : k.literal? = some l) : FactorReads [k] l := by
  have hopens : k.opensLiteral = true := by
    have hof := Token.Kind.isOfLiteral_of_literal? h
    cases k with
    | symbol s => cases h
    | _ => exact hof
  refine .atom hopens ?_ ?_ fun {fuel c us s d} hatom hc => ?_
  · rintro rfl
    cases h
  · rintro rfl
    cases h
  · refine ⟨?_, .token h⟩
    have hd : d = c.advance := by
      rw [Token.Kind.literal?.eq_def] at h
      split at h <;> first | cases hatom; rfl | cases h
    rw [hd]
    exact kinds_advance hc

/-- A group in parentheses or in square brackets, of which any bracket might have been the end. -/
theorem group {Q : List Token.Kind → Prop} {b : Bracket} (hb : b ≠ .brace) {k : Symbol}
    (hk : k.closes?.isSome) {parts : List (List Token.Kind)}
    (hparts : ∀ part ∈ parts, part ≠ [] → ∀ fuel,
      PartReads (read fuel (.item .starNamed)) (Q part) part)
    (hdenotes : Gapless parts → (∀ part ∈ parts, part ≠ [] → Q part) →
      Denotes (bracketed b (commaJoined parts)) l) :
    FactorReads (.symbol (openSymbol b) :: (commaJoined parts ++ [.symbol k])) l := by
  refine .atom ?_ ?_ ?_ fun {fuel c us s d} hatom hc => ?_
  · revert hb
    cases b <;> decide
  · cases b <;> decide
  · cases b <;> decide
  · have hgroup : ∃ f, GroupEnds f (closeSymbol b) c.advance d := by
      cases b with
      | paren =>
          cases fuel with
          | zero => cases hatom
          | succ fuel => exact ⟨fuel, groupEnds_paren hatom⟩
      | square =>
          cases fuel with
          | zero => cases hatom
          | succ fuel => exact ⟨fuel, groupEnds_square hatom⟩
      | brace => exact absurd rfl hb
    obtain ⟨f, hgroup⟩ := hgroup
    have hinside : c.advance.kinds = commaJoined parts ++ .symbol k :: us := by
      rw [kinds_advance hc, List.append_assoc]
      rfl
    obtain ⟨rfl, hd, hgapless, hQ⟩ := hgroup.parts_read (by cases b <;> rfl) hk
      (fun part hpart hne => hparts part hpart hne f) hinside
    exact ⟨hd, hdenotes hgapless hQ⟩

end FactorReads

/-- Only behind the last item nothing may stand: that makes a comma at the end. -/
theorem exists_series {parts : List (List Token.Kind)} {items : List LiteralItem}
    (hgapless : Gapless parts) (hparts : parts.filter (!·.isEmpty) = items.map (·.kinds)) :
    ∃ trailing, (trailing = true → items ≠ []) ∧ commaJoined parts = series items trailing := by
  rcases List.eq_nil_or_concat parts with rfl | ⟨front, last, rfl⟩
  · obtain rfl := List.map_eq_nil_iff.mp hparts.symm
    exact ⟨false, nofun, rfl⟩
  rw [List.concat_eq_append] at hgapless hparts ⊢
  have hfront : front.filter (!·.isEmpty) = front := by
    rw [List.filter_eq_self]
    intro part hpart
    have hne := hgapless part (by rwa [List.dropLast_concat])
    simpa using hne
  rw [List.filter_append, hfront] at hparts
  by_cases hlast : last = []
  · obtain rfl := hlast
    rw [List.filter_singleton, List.isEmpty_nil, Bool.not_true, cond_false, List.append_nil]
      at hparts
    by_cases hitems : items = []
    · obtain rfl := hitems
      obtain rfl := hparts
      exact ⟨false, nofun, rfl⟩
    · exact ⟨true, fun _ => hitems, by rw [series_eq fun _ => hitems, hparts, if_pos rfl]⟩
  · have hsome : last.isEmpty = false := by simpa using hlast
    rw [List.filter_singleton, hsome, Bool.not_false, cond_true] at hparts
    exact ⟨false, nofun, by rw [series_false, hparts]⟩

section Items

variable {items : List LiteralItem} (h : ∀ i ∈ items, FactorReads i.kinds i.value)
include h

/-- A part says of every item with its tokens that they denote it. -/
theorem partReads_items {part : List Token.Kind} (hmem : ∃ i ∈ items, i.kinds = part) {rule : Rule}
    (hrule : rule.beginsWithFactor = true) (fuel : Nat) :
    PartReads (read fuel rule) (∀ i ∈ items, i.kinds = part → Denotes i.kinds i.value) part := by
  obtain ⟨i, hi, rfl⟩ := hmem
  refine ⟨(h i hi).opens, fun {c us s d} hread hc stops => ?_⟩
  refine ⟨(((h i hi).part hrule fuel).read hread hc stops).1, fun j hj hkinds => ?_⟩
  exact (((h j hj).part hrule fuel).read hread (hkinds ▸ hc) stops).2

theorem nonempty_items : ∀ i ∈ items, i.kinds ≠ [] := by
  intro i hi hnone
  have hopens := (h i hi).opens
  rw [hnone] at hopens
  cases hopens

/-- The items of a group, each of which was read. -/
theorem denotes_items {parts : List (List Token.Kind)}
    (hparts : parts.filter (!·.isEmpty) = items.map (·.kinds))
    (hread : ∀ part ∈ parts, part ≠ [] →
      ∀ i ∈ items, i.kinds = part → Denotes i.kinds i.value) :
    ∀ i ∈ items, Denotes i.kinds i.value := by
  intro i hi
  exact hread i.kinds (kinds_mem_parts hparts hi) (nonempty_items h i hi) i hi rfl

theorem filter_series (trailing : Bool) :
    (items.map LiteralItem.kinds ++ if trailing then [[]] else []).filter (!·.isEmpty) =
      items.map (·.kinds) := by
  have hitems : (items.map (·.kinds)).filter (!·.isEmpty) = items.map (·.kinds) := by
    rw [List.filter_eq_self]
    refine List.forall_mem_map.mpr fun i hi => ?_
    simpa using nonempty_items h i hi
  rw [List.filter_append, hitems]
  cases trailing <;> simp

/-- Where a comma is left out, or one stands behind the last item. -/
theorem gapless_series (trailing : Bool) :
    Gapless (items.map LiteralItem.kinds ++ if trailing then [[]] else []) := by
  have hitems : ∀ part ∈ items.map LiteralItem.kinds, part ≠ [] :=
    List.forall_mem_map.mpr (nonempty_items h)
  cases trailing with
  | true =>
      intro part hpart
      rw [if_pos rfl, List.dropLast_concat] at hpart
      exact hitems part hpart
  | false =>
      intro part hpart
      rw [if_neg Bool.false_ne_true, List.append_nil] at hpart
      exact hitems part ((List.dropLast_sublist _).subset hpart)

end Items

/-- What is cut out as a literal reads as one. By induction on how it is cut. -/
theorem Taken.factorReads {ks : List Token.Kind} {l : Literal} (h : Taken ks l) :
    FactorReads ks l := by
  induction h with
  | token h => exact .token h
  | minus _ opposite ih => exact ih.sign (by decide) fun h => .minus h opposite
  | plus _ ih => exact ih.sign (by decide) .plus
  | @enclosed ks l close h closes ih =>
      rw [← Printed.commaJoined_singleton ks]
      refine FactorReads.group (b := .paren) nofun closes (Q := fun _ => Denotes ks l)
        (fun part hpart _ fuel => ?_) fun _ hread => ?_
      · rw [List.mem_singleton.mp hpart]
        exact ih.part rfl fuel
      · rw [Printed.commaJoined_singleton]
        exact .enclosed (hread ks List.mem_cons_self h.ne_nil)
  | @tuple items trailing close h alone behind closes ih =>
      have hparts := filter_series ih trailing
      rw [series_eq behind]
      refine FactorReads.group (b := .paren) nofun closes
        (fun part hpart hne => partReads_items ih (mem_items hparts hpart hne) rfl)
        fun _ hread => ?_
      rw [← series_eq behind]
      exact .tuple (denotes_items ih hparts hread) alone behind
  | @list parts items close h hparts closes ih =>
      refine FactorReads.group (b := .square) nofun closes
        (fun part hpart hne => partReads_items ih (mem_items hparts hpart hne) rfl)
        fun hgapless hread => ?_
      obtain ⟨trailing, behind, hseries⟩ := exists_series hgapless hparts
      rw [hseries]
      exact .list (denotes_items ih hparts hread) behind

end DeclaredSchema.Source
