import DeclaredSchema.Proofs.Source.Ahead

/-! # Reading at a strength

For every strength there is a rule that reads expressions of at least that strength. How an
expression begins tells which rules leave it to the next stronger one, and what follows it tells
which of them stop behind it. For the operators that group to the left, and for what stands behind a
primary, a reading has to be described before it stops, because more of the same may follow.
-/

namespace DeclaredSchema.Source.Tree

open Cursor Strength

/-! ## First tokens, and tokens that go on -/

/-- Expressions of at most this rank begin with the token. A star begins an item of a list. -/
def openRank : Token.Kind → Nat
  | .name w =>
    if w = "lambda" then expression.rank
    else if w = "not" then inversion.rank
    else if w = "await" then awaited.rank
    else if !isKeyword w || w = "True" || w = "False" || w = "None" then primary.rank
    else 0
  | .number _ => primary.rank
  | .str _ _ => primary.rank
  | .symbol s => match s with
    | .star => list.rank
    | .plus | .minus | .tilde => factor.rank
    | .ellipsis | .openParen | .openSquare | .openBrace => primary.rank
    | _ => 0
  | _ => 0

/-- Expressions of at least this rank end before the token. -/
def joinRank : Token.Kind → Nat
  | .name w =>
    if w = "if" then expression.rank
    else if w = "or" then (chain .disjunction).rank
    else if w = "and" then (chain .conjunction).rank
    else if w = "in" || w = "is" || w = "not" then (chain .comparison).rank
    else 0
  | .symbol s => match s with
    | .comma => list.rank
    | .eq | .ne | .lt | .gt | .le | .ge => (chain .comparison).rank
    | .bar => (chain .bitOr).rank
    | .caret => (chain .bitXor).rank
    | .amp => (chain .bitAnd).rank
    | .shiftLeft | .shiftRight => (chain .shift).rank
    | .plus | .minus => (chain .sum).rank
    | .star | .slash | .floorDiv | .percent | .at => (chain .term).rank
    | .power => factor.rank
    | .dot | .openParen | .openSquare | .walrus => primary.rank
    | _ => 0
  | _ => 0

theorem joinRank_le (k : Token.Kind) : joinRank k ≤ primary.rank := by
  cases k with
  | name w =>
      rw [joinRank]
      repeat' split
      all_goals decide
  | symbol s => cases s <;> decide
  | _ => exact Nat.zero_le _

/-- Nothing ahead goes on with an expression of the rank. -/
def Stops (n : Nat) (rest : List Token.Kind) : Prop :=
  ∀ k, rest.head? = some k → joinRank k < n

namespace Stops

variable {m n : Nat} {rest : List Token.Kind}

theorem cons {k : Token.Kind} (h : joinRank k < n) (ks : List Token.Kind) : Stops n (k :: ks) := by
  intro j hj
  obtain rfl := Option.some.inj hj
  exact h

theorem mono (h : Stops m rest) (hmn : m ≤ n) : Stops n rest :=
  fun k hk => Nat.lt_of_lt_of_le (h k hk) hmn

theorem head (h : Stops n rest) {k : Token.Kind} (hk : n ≤ joinRank k) : rest.head? ≠ some k :=
  fun hhead => Nat.not_lt.mpr hk (h k hhead)

end Stops

/-- The rank from which on nothing may follow, where more of the same strength may. -/
def Strength.inner : Strength → Nat
  | chain L => (chain L).rank + 1
  | primary => primary.rank + 1
  | p => p.rank

/-! ## Phrases -/

def isIdentifier : Token.Kind → Bool
  | .name w => !isKeyword w
  | _ => false

/-- A token that stands behind a name without making a target or a statement of it. -/
def connects : Token.Kind → Bool
  | .symbol s => s ≠ .walrus && s ≠ .assign
  | k => !isIdentifier k

/-- A token that can stand behind an opening bracket or a keyword. -/
def Leads (k : Token.Kind) : Prop := connects k = true ∨ isIdentifier k = true

/-- Tokens that can stand where an expression of a rank, or an item, can begin. -/
structure Phrase (n : Nat) (ks : List Token.Kind) : Prop where
  opens : ∃ k tail, ks = k :: tail ∧ n ≤ openRank k
  /-- An identifier is never followed by another, and nothing by `:=` or by `=`. -/
  second : ∀ k j tail, ks = k :: j :: tail →
    connects j = true ∨ isIdentifier k = false ∧ isIdentifier j = true
  closes : ks.getLast? ≠ some (.symbol .colon)

theorem leads_of_openRank {k : Token.Kind} (h : 0 < openRank k) : Leads k := by
  cases k with
  | symbol s =>
      refine Or.inl ?_
      cases s <;> first | rfl | cases h
  | name w =>
      cases hw : isIdentifier (.name w)
      · exact Or.inl (by simp [connects, hw])
      · exact Or.inr hw
  | _ => exact Or.inl rfl

namespace Phrase

variable {m n : Nat} {k : Token.Kind} {ks more : List Token.Kind}

theorem length_pos (h : Phrase n ks) : 0 < ks.length := by
  obtain ⟨k, tail, rfl, -⟩ := h.opens
  exact Nat.succ_pos _

theorem mono (h : Phrase n ks) (hmn : m ≤ n) : Phrase m ks where
  opens := by
    obtain ⟨k, tail, hks, hk⟩ := h.opens
    exact ⟨k, tail, hks, Nat.le_trans hmn hk⟩
  second := h.second
  closes := h.closes

/-- What an expression of this rank does not begin with. -/
theorem head_ne (h : Phrase n ks) (rest : List Token.Kind) (hk : openRank k < n) :
    (ks ++ rest).head? ≠ some k := by
  obtain ⟨j, tail, rfl, hj⟩ := h.opens
  intro hhead
  obtain rfl : j = k := Option.some.inj hhead
  omega

theorem heads (h : Phrase n ks) (hn : 0 < n) (rest : List Token.Kind) :
    ∀ k, (ks ++ rest).head? = some k → Leads k := by
  obtain ⟨j, tail, rfl, hj⟩ := h.opens
  intro k hk
  obtain rfl : j = k := Option.some.inj hk
  exact leads_of_openRank (Nat.lt_of_lt_of_le hn hj)

theorem single (hk : n ≤ openRank k) (colon : k ≠ .symbol .colon) : Phrase n [k] where
  opens := ⟨k, [], rfl, hk⟩
  second j i tail h := by cases h
  closes h := colon (Option.some.inj h)

theorem cons (hk : n ≤ openRank k) (plain : isIdentifier k = false) (h : Phrase 1 ks) :
    Phrase n (k :: ks) where
  opens := ⟨k, ks, rfl, hk⟩
  second i j tail heq := by
    obtain ⟨j', tail', rfl, hj⟩ := h.opens
    obtain ⟨rfl, htail⟩ := List.cons.inj heq
    obtain ⟨rfl, -⟩ := List.cons.inj htail
    exact (leads_of_openRank hj).imp_right fun hj => ⟨plain, hj⟩
  closes := by
    obtain ⟨j, tail, rfl, -⟩ := h.opens
    rw [List.getLast?_cons_cons]
    exact h.closes

theorem append (h : Phrase n ks) (hk : connects k = true)
    (closes : (k :: more).getLast? ≠ some (.symbol .colon)) : Phrase n (ks ++ k :: more) where
  opens := by
    obtain ⟨j, tail, rfl, hj⟩ := h.opens
    exact ⟨j, tail ++ k :: more, rfl, hj⟩
  second i j tail heq := by
    obtain ⟨i', rest, rfl, -⟩ := h.opens
    cases rest with
    | nil =>
        obtain ⟨-, htail⟩ := List.cons.inj heq
        obtain ⟨rfl, -⟩ := List.cons.inj htail
        exact Or.inl hk
    | cons j' rest =>
        obtain ⟨rfl, htail⟩ := List.cons.inj heq
        obtain ⟨rfl, -⟩ := List.cons.inj htail
        exact h.second _ _ rest rfl
  closes := by
    rw [List.getLast?_append, List.getLast?_cons]
    rw [List.getLast?_cons] at closes
    exact closes

/-- A phrase does not end in a colon, whatever stands before it. -/
theorem closes_append (h : Phrase n ks) (front : List Token.Kind) :
    (front ++ ks).getLast? ≠ some (.symbol .colon) := by
  obtain ⟨k, tail, rfl, -⟩ := h.opens
  have hclose := h.closes
  rw [List.getLast?_cons] at hclose
  rw [List.getLast?_append, List.getLast?_cons]
  exact hclose

/-- Brackets, whatever stands in them. -/
theorem bracketed (b : Bracket) (h : ∀ k, ks.head? = some k → Leads k) :
    Phrase primary.rank (bracketed b ks) where
  opens := ⟨_, _, rfl, by cases b <;> decide⟩
  second k j tail heq := by
    obtain ⟨rfl, htail⟩ := List.cons.inj heq
    cases ks with
    | nil =>
        obtain ⟨rfl, -⟩ := List.cons.inj htail
        exact Or.inl (by cases b <;> rfl)
    | cons i ks =>
        obtain ⟨rfl, -⟩ := List.cons.inj htail
        exact (h i rfl).imp_right fun hi => ⟨rfl, hi⟩
  closes := by
    rw [Tree.bracketed, ← List.cons_append, List.getLast?_concat]
    cases b <;> decide

end Phrase

/-! ## The rules of the strengths -/

/-- What a factor reads before a power sign. -/
def readAwaited (fuel : Nat) (c : Cursor) : Rule.Reading :=
  match c.eatName? "await" with
  | some c => do
    let (_, c) ← Rule.read fuel .primary c
    .ok (.value, c)
  | none => Rule.read fuel .primary c

/-- One more operator of a level, with its operand. -/
def chainRound (fuel : Nat) (level : Level) (shape : Shape) (c : Cursor) :
    Except SyntaxError (Round Shape) :=
  match level.eatOperator? c with
  | none => .ok (.stop shape c)
  | some c => do
    let (_, c) ← Rule.read fuel level.operand c
    .ok (.again .value c)

/-- One more attribute, call or subscript. -/
def primaryRound (fuel : Nat) (shape : Shape) (c : Cursor) : Except SyntaxError (Round Shape) :=
  match c.eat? .dot with
  | some c => do
    let c ← c.identifier
    .ok (.again .member c)
  | none => match c.eat? .openParen with
    | some c => do
      let (_, c) ← Rule.read fuel .arguments c
      .ok (.again .value c)
    | none => match c.eat? .openSquare with
      | some c => do
        let (_, c) ← Rule.read fuel .slices c
        .ok (.again .member c)
      | none => .ok (.stop shape c)

theorem read_chain_eq (fuel : Nat) (level : Level) (c : Cursor) :
    Rule.read (fuel + 1) (.chain level) c = (do
      let (shape, c) ← Rule.read fuel level.operand c
      rounds (chainRound fuel level) shape c) := rfl

theorem read_primary_eq (fuel : Nat) (c : Cursor) :
    Rule.read (fuel + 1) .primary c = (do
      let (shape, c) ← Rule.read fuel .atom c
      rounds (primaryRound fuel) shape c) := rfl

theorem read_factor_eq (fuel : Nat) (c : Cursor) :
    Rule.read (fuel + 1) .factor c = (match c.eatAny? [.plus, .minus, .tilde] with
      | some c => do
        let (_, c) ← Rule.read fuel .factor c
        .ok (.value, c)
      | none => do
        let (shape, c) ← readAwaited fuel c
        match c.eat? .power with
        | none => .ok (shape, c)
        | some c =>
          let (_, c) ← Rule.read fuel .factor c
          .ok (.value, c)) := by
  rw [Rule.read, readAwaited]
  cases c.eatAny? [.plus, .minus, .tilde] with
  | some d => rfl
  | none =>
      cases c.eatName? "await" with
      | none => rfl
      | some d =>
          dsimp only
          cases Rule.read fuel .primary d <;> rfl

namespace Strength

/-- What stands in parentheses is read through the closing one. -/
def read (p : Strength) (fuel : Nat) (c : Cursor) : Rule.Reading :=
  match p with
  | enclosed => Rule.read fuel .parenthesized c
  | list => Rule.read fuel (.listOf .star) c
  | expression => Rule.read fuel .expression c
  | chain L => Rule.read fuel (.chain L) c
  | inversion => Rule.read fuel .inversion c
  | factor => Rule.read fuel .factor c
  | awaited => readAwaited fuel c
  | primary => Rule.read fuel .primary c

def ofRank (n : Nat) : Strength :=
  [enclosed, list, expression, chain .disjunction, chain .conjunction, inversion, chain .comparison,
    chain .bitOr, chain .bitXor, chain .bitAnd, chain .shift, chain .sum, chain .term, factor,
    awaited, primary].getD n enclosed

theorem ofRank_rank (p : Strength) : ofRank p.rank = p := by
  cases p with
  | chain L => cases L <;> rfl
  | _ => rfl

theorem rank_injective {p q : Strength} (h : p.rank = q.rank) : p = q := by
  rw [← ofRank_rank p, h, ofRank_rank]

theorem rank_le_primary (p : Strength) : p.rank ≤ primary.rank := by
  cases p with
  | chain L => cases L <;> decide
  | _ => decide

theorem rank_ofOperand (L : Level) : (ofOperand L).rank = (chain L).rank + 1 := by
  cases L <;> rfl

theorem read_ofOperand (L : Level) (fuel : Nat) (c : Cursor) :
    (ofOperand L).read fuel c = Rule.read fuel L.operand c := by
  cases L <;> rfl

theorem rank_le_inner (p : Strength) : p.rank ≤ p.inner := by
  cases p <;> first | exact Nat.le_refl _ | exact Nat.le_succ _

/-- A reading has come behind an expression of the strength. More operators of the same level, or
more behind a primary, may follow. -/
def Reaches (p : Strength) (fuel : Nat) (c : Cursor) (s : Shape) (rest : List Token.Kind) : Prop :=
  match p with
  | chain L => ∃ n k d, fuel = n + 1 ∧ rest.length < k ∧ d.kinds = rest ∧
      Rule.read fuel (.chain L) c = roundsFuel (chainRound n L) k s d
  | primary => ∃ n k d, fuel = n + 1 ∧ rest.length < k ∧ d.kinds = rest ∧
      Rule.read fuel .primary c = roundsFuel (primaryRound n) k s d
  | p => Yields (p.read fuel c) s rest

end Strength

theorem eatOperator?_of_stops {L : Level} {c : Cursor} (h : Stops (chain L).rank c.kinds) :
    L.eatOperator? c = none := by
  cases L with
  | disjunction => exact eatName?_of_head (h.head (by decide))
  | conjunction => exact eatName?_of_head (h.head (by decide))
  | comparison =>
      have hsymbols : c.eatAny? Level.comparison.symbols = none := by
        apply eatAny?_of_head
        intro s hs
        simp only [Level.symbols, List.mem_cons, List.not_mem_nil, or_false] at hs
        rcases hs with rfl | rfl | rfl | rfl | rfl | rfl <;> exact h.head (by decide)
      have hin : c.eatName? "in" = none := eatName?_of_head (h.head (by decide))
      have his : c.eatName? "is" = none := eatName?_of_head (h.head (by decide))
      have hnot : c.kinds.head? ≠ some (.name "not") := h.head (by decide)
      simp [Level.eatOperator?, hsymbols, Level.eatWordComparison?, hin, his, atName_eq, hnot]
  | _ =>
      apply eatAny?_of_head
      intro s hs
      simp only [Level.symbols, List.mem_cons, List.not_mem_nil, or_false] at hs
      rcases hs with rfl | rfl | rfl | rfl | rfl <;> exact h.head (by decide)

theorem Strength.Reaches.yields {p : Strength} {fuel : Nat} {c : Cursor} {s : Shape}
    {rest : List Token.Kind} (h : p.Reaches fuel c s rest) (stops : Stops p.rank rest) :
    Yields (p.read fuel c) s rest := by
  cases p with
  | chain L =>
      obtain ⟨n, k, d, rfl, hk, hd, hread⟩ := h
      obtain ⟨k, rfl⟩ : ∃ j, k = j + 1 := ⟨k - 1, by omega⟩
      have hround : chainRound n L s d = .ok (.stop s d) := by
        rw [chainRound, eatOperator?_of_stops (hd ▸ stops)]
      exact ⟨d, by rw [Strength.read, hread, roundsFuel, hround], hd⟩
  | primary =>
      obtain ⟨n, k, d, rfl, hk, hd, hread⟩ := h
      obtain ⟨k, rfl⟩ : ∃ j, k = j + 1 := ⟨k - 1, by omega⟩
      have hround : primaryRound n s d = .ok (.stop s d) := by
        rw [primaryRound, eat?_of_head (hd ▸ stops.head (by decide)),
          eat?_of_head (hd ▸ stops.head (by decide)), eat?_of_head (hd ▸ stops.head (by decide))]
      exact ⟨d, by rw [Strength.read, hread, roundsFuel, hround], hd⟩
  | _ => exact h

/-- The tokens are an expression of the strength. -/
structure Reads (p : Strength) (ks : List Token.Kind) (s : Shape) : Prop
    extends Phrase p.rank ks where
  reaches : ∀ fuel c rest, c.kinds = ks ++ rest → Stops p.inner rest →
    24 * ks.length ≤ fuel + p.rank + 7 → p.Reaches fuel c s rest

theorem Reads.yields {p : Strength} {ks rest : List Token.Kind} {s : Shape} (h : Reads p ks s)
    {fuel : Nat} {c : Cursor} (hc : c.kinds = ks ++ rest) (stops : Stops p.rank rest)
    (hfuel : 24 * ks.length ≤ fuel + p.rank + 7) : Yields (p.read fuel c) s rest :=
  (h.reaches fuel c rest hc (stops.mono p.rank_le_inner) hfuel).yields stops

/-! ## Weaker places -/

namespace Reads

variable {ks : List Token.Kind} {s : Shape}

theorem awaited_of_primary (h : Reads .primary ks s) : Reads .awaited ks s where
  toPhrase := h.toPhrase.mono (by decide)
  reaches fuel c rest hc stops hfuel := by
    have hawait : c.eatName? "await" = none :=
      eatName?_of_head (hc ▸ h.toPhrase.head_ne rest (by decide))
    change Yields (readAwaited fuel c) s rest
    rw [readAwaited, hawait]
    exact h.yields hc (stops.mono (by decide)) (Nat.le_trans hfuel (by simp [rank]))

theorem factor_of_awaited (h : Reads .awaited ks s) : Reads .factor ks s where
  toPhrase := h.toPhrase.mono (by decide)
  reaches fuel c rest hc stops hfuel := by
    have hpos := h.length_pos
    obtain ⟨f, rfl⟩ : ∃ f, fuel = f + 1 := ⟨fuel - 1, by simp only [rank] at hfuel; omega⟩
    have hsign : c.eatAny? [.plus, .minus, .tilde] = none := by
      apply eatAny?_of_head
      intro sign hsign
      simp only [List.mem_cons, List.not_mem_nil, or_false] at hsign
      rcases hsign with rfl | rfl | rfl <;> exact hc ▸ h.toPhrase.head_ne rest (by decide)
    have hbase : Yields (readAwaited f c) s rest :=
      h.yields hc (stops.mono (by decide)) (by simp only [rank] at hfuel ⊢; omega)
    change Yields (Rule.read (f + 1) .factor c) s rest
    rw [read_factor_eq, hsign]
    refine hbase.bind fun d hd => ?_
    have hpower : d.eat? .power = none := eat?_of_head (hd ▸ stops.head (by decide))
    dsimp only
    rw [hpower]
    exact .ok hd

theorem chain_of_operand (L : Level) (h : Reads (ofOperand L) ks s) : Reads (.chain L) ks s where
  toPhrase := h.toPhrase.mono (by rw [rank_ofOperand]; exact Nat.le_succ _)
  reaches fuel c rest hc stops hfuel := by
    have hpos := h.length_pos
    have hrank := rank_ofOperand L
    obtain ⟨f, rfl⟩ : ∃ f, fuel = f + 1 :=
      ⟨fuel - 1, by cases L <;> simp only [rank] at hfuel <;> omega⟩
    obtain ⟨d, hread, hd⟩ : Yields ((ofOperand L).read f c) s rest :=
      h.yields hc (hrank ▸ stops) (by omega)
    refine ⟨f, d.rest.length + 1, d, rfl, ?_, hd, ?_⟩
    · rw [length_rest, hd]
      exact Nat.lt_succ_self _
    · rw [read_ofOperand] at hread
      rw [read_chain_eq, hread]
      rfl

theorem inversion_of_comparison (h : Reads (.chain .comparison) ks s) : Reads .inversion ks s where
  toPhrase := h.toPhrase.mono (by decide)
  reaches fuel c rest hc stops hfuel := by
    have hpos := h.length_pos
    obtain ⟨f, rfl⟩ : ∃ f, fuel = f + 1 := ⟨fuel - 1, by simp only [rank] at hfuel; omega⟩
    have hnot : c.eatName? "not" = none :=
      eatName?_of_head (hc ▸ h.toPhrase.head_ne rest (by decide))
    change Yields (Rule.read (f + 1) .inversion c) s rest
    rw [Rule.read, hnot]
    exact h.yields hc (stops.mono (by decide)) (by simp only [rank] at hfuel ⊢; omega)

theorem expression_of_disjunction (h : Reads (.chain .disjunction) ks s) :
    Reads .expression ks s where
  toPhrase := h.toPhrase.mono (by decide)
  reaches fuel c rest hc stops hfuel := by
    have hpos := h.length_pos
    obtain ⟨f, rfl⟩ : ∃ f, fuel = f + 1 := ⟨fuel - 1, by simp only [rank] at hfuel; omega⟩
    have hlambda : c.eatName? "lambda" = none :=
      eatName?_of_head (hc ▸ h.toPhrase.head_ne rest (by decide))
    have hread : Yields (Rule.read f (.chain .disjunction) c) s rest :=
      h.yields hc (stops.mono (by decide)) (by simp only [rank] at hfuel ⊢; omega)
    change Yields (Rule.read (f + 1) .expression c) s rest
    rw [Rule.read, hlambda]
    refine hread.bind fun d hd => ?_
    have hif : d.eatName? "if" = none := eatName?_of_head (hd ▸ stops.head (by decide))
    dsimp only
    rw [hif]
    exact .ok hd

/-- The next weaker place also takes an expression. -/
theorem step {q : Strength} (h : Reads q ks s) (hq : expression.rank < q.rank) :
    ∃ p, p.rank + 1 = q.rank ∧ Reads p ks s := by
  cases q with
  | enclosed | list | expression => simp [rank] at hq
  | inversion => exact ⟨chain .conjunction, rfl, chain_of_operand .conjunction h⟩
  | factor => exact ⟨chain .term, rfl, chain_of_operand .term h⟩
  | awaited => exact ⟨factor, rfl, factor_of_awaited h⟩
  | primary => exact ⟨awaited, rfl, awaited_of_primary h⟩
  | chain L =>
      cases L with
      | disjunction => exact ⟨expression, rfl, expression_of_disjunction h⟩
      | conjunction => exact ⟨chain .disjunction, rfl, chain_of_operand .disjunction h⟩
      | comparison => exact ⟨inversion, rfl, inversion_of_comparison h⟩
      | bitOr => exact ⟨chain .comparison, rfl, chain_of_operand .comparison h⟩
      | bitXor => exact ⟨chain .bitOr, rfl, chain_of_operand .bitOr h⟩
      | bitAnd => exact ⟨chain .bitXor, rfl, chain_of_operand .bitXor h⟩
      | shift => exact ⟨chain .bitAnd, rfl, chain_of_operand .bitAnd h⟩
      | sum => exact ⟨chain .shift, rfl, chain_of_operand .shift h⟩
      | term => exact ⟨chain .sum, rfl, chain_of_operand .sum h⟩

/-- A place takes every expression that is strong enough. -/
theorem weaken {p q : Strength} (h : Reads q ks s) (hpq : p.rank ≤ q.rank)
    (hp : expression.rank ≤ p.rank) : Reads p ks s := by
  obtain ⟨n, hn⟩ := Nat.exists_eq_add_of_le hpq
  induction n generalizing q with
  | zero => exact rank_injective hn ▸ h
  | succ n ih =>
      obtain ⟨r, hr, hread⟩ := h.step (by omega)
      exact ih hread (by omega) (by omega)

end Reads

end DeclaredSchema.Source.Tree
