import DeclaredSchema.Proofs.Source.Strengths

/-! # Operators, attributes, calls and subscripts

An expression made of readable parts is readable, at the strength of its operator. One lemma for
each way to make an expression, from tokens and not from trees.
-/

namespace DeclaredSchema.Source.Tree

open Cursor Strength

namespace Reads

variable {ks ks' : List Token.Kind} {s s' : Shape}

/-! ## Operators of two operands -/

/-- An operator of a level behind an expression of the level. -/
theorem operator {L : Level} {k : Token.Kind} (hl : Reads (.chain L) ks s)
    (more : List Token.Kind) (hr : Reads (ofOperand L) ks' s') (joins : joinRank k = (chain L).rank)
    (hk : connects k = true)
    (eats : ∀ c rest, c.kinds = k :: more ++ (ks' ++ rest) →
      ∃ d, L.eatOperator? c = some d ∧ d.kinds = ks' ++ rest) :
    Reads (.chain L) (ks ++ (k :: more ++ ks')) .value where
  toPhrase := by
    have hclose := hr.toPhrase.closes_append (k :: more)
    rw [List.cons_append] at hclose ⊢
    exact hl.toPhrase.append hk hclose
  reaches fuel c rest hc stops hfuel := by
    have hrank := rank_ofOperand L
    rw [List.append_assoc, List.append_assoc] at hc
    simp only [List.length_append, List.length_cons] at hfuel
    have hjoin : Stops (chain L).inner (k :: more ++ (ks' ++ rest)) :=
      .cons (Nat.lt_succ_of_le (Nat.le_of_eq joins)) _
    -- The loop that has read the left operand is still running, and takes one more round.
    obtain ⟨n, m, d, rfl, hm, hd, hread⟩ := hl.reaches fuel c _ hc hjoin (by omega)
    simp only [List.length_append, List.length_cons] at hm
    obtain ⟨m, rfl⟩ : ∃ j, m = j + 1 := ⟨m - 1, by omega⟩
    obtain ⟨e, heat, he⟩ := eats d rest hd
    obtain ⟨f, hoperand, hf⟩ : Yields ((ofOperand L).read n e) s' rest :=
      hr.yields he (hrank ▸ stops) (by omega)
    have hround : chainRound n L s d = .ok (.again .value f) := by
      rw [read_ofOperand] at hoperand
      rw [chainRound, heat]
      dsimp only
      rw [hoperand]
      rfl
    refine ⟨n, m, f, rfl, by omega, hf, ?_⟩
    rw [hread, roundsFuel, hround]

theorem binary {op : BinaryOperator} (hl : Reads (.chain op.level) ks s)
    (hr : Reads (ofOperand op.level) ks' s') :
    Reads (.chain op.level) (ks ++ op.kind :: ks') .value := by
  refine hl.operator [] hr ?_ ?_ ?_
  · cases op <;> rfl
  · cases op <;> rfl
  · intro c rest hc
    refine ⟨c.advance, ?_, kinds_advance hc⟩
    cases op with
    | or => exact eatName?_of_kinds hc
    | and => exact eatName?_of_kinds hc
    | _ => exact eatAny?_of_kinds hc (by decide)

theorem comparison {op : Comparator} (hl : Reads (.chain .comparison) ks s)
    (hr : Reads (.chain .bitOr) ks' s') :
    Reads (.chain .comparison) (ks ++ (op.kinds ++ ks')) .value := by
  have hnot (rest : List Token.Kind) : (ks' ++ rest).head? ≠ some (.name "not") :=
    hr.toPhrase.head_ne rest (by decide)
  have hsymbol {y : Symbol} (hy : y ∈ Level.comparison.symbols)
      (joins : joinRank (.symbol y) = (chain .comparison).rank)
      (hconnects : connects (.symbol y) = true) :
      Reads (.chain .comparison) (ks ++ ([.symbol y] ++ ks')) .value := by
    refine hl.operator [] hr joins hconnects fun c rest hc => ⟨c.advance, ?_, kinds_advance hc⟩
    rw [Level.eatOperator?, eatAny?_of_kinds hc hy]
    rfl
  have hword {c : Cursor} {w : String} {rest : List Token.Kind} (hc : c.kinds = .name w :: rest) :
      Level.comparison.eatOperator? c = Level.eatWordComparison? c := by
    rw [Level.eatOperator?, eatAny?_of_head]
    · rfl
    · intro y _ hy
      rw [hc] at hy
      cases hy
  cases op with
  | eq | ne | lt | gt | le | ge => exact hsymbol (by decide) rfl rfl
  | isIn =>
      refine hl.operator [] hr rfl rfl fun c rest hc => ⟨c.advance, ?_, kinds_advance hc⟩
      rw [hword hc, Level.eatWordComparison?, eatName?_of_kinds hc]
  | is =>
      refine hl.operator [] hr rfl rfl fun c rest hc => ⟨c.advance, ?_, kinds_advance hc⟩
      have hin : c.eatName? "in" = none := eatName?_of_head (by rw [hc]; simp)
      have hbehind : c.advance.eatName? "not" = none :=
        eatName?_of_head (kinds_advance hc ▸ hnot rest)
      rw [hword hc, Level.eatWordComparison?, hin, eatName?_of_kinds hc]
      simp [hbehind]
  | isNot =>
      refine hl.operator [.name "not"] hr rfl rfl fun c rest hc =>
        ⟨c.advance.advance, ?_, kinds_advance (kinds_advance hc)⟩
      have hin : c.eatName? "in" = none := eatName?_of_head (by rw [hc]; simp)
      have hbehind : c.advance.eatName? "not" = some c.advance.advance :=
        eatName?_of_kinds (kinds_advance hc)
      rw [hword hc, Level.eatWordComparison?, hin, eatName?_of_kinds hc]
      simp [hbehind]
  | notIn =>
      refine hl.operator [.name "in"] hr rfl rfl fun c rest hc =>
        ⟨c.advance.advance, ?_, kinds_advance (kinds_advance hc)⟩
      have hin : c.eatName? "in" = none := eatName?_of_head (by rw [hc]; simp)
      have his : c.eatName? "is" = none := eatName?_of_head (by rw [hc]; simp)
      have hsecond : c.second?.any (·.isName "in") = true := by
        rw [second?_isName, hc]
        rfl
      rw [hword hc, Level.eatWordComparison?, hin, his]
      simp [atName_eq, hc, hsecond]

/-! ## Prefixes -/

theorem unary (op : UnaryOperator) (h : Reads .factor ks s) :
    Reads .factor (.symbol op.symbol :: ks) .value where
  toPhrase := .cons (by cases op <;> decide) rfl (h.toPhrase.mono (by decide))
  reaches fuel c rest hc stops hfuel := by
    simp only [List.length_cons, rank] at hfuel
    obtain ⟨f, rfl⟩ : ∃ f, fuel = f + 1 := ⟨fuel - 1, by omega⟩
    have heat : c.eatAny? [.plus, .minus, .tilde] = some c.advance :=
      eatAny?_of_kinds hc (by cases op <;> decide)
    have hoperand : Yields (Rule.read f .factor c.advance) s rest :=
      h.yields (kinds_advance hc) stops (by simp only [rank]; omega)
    change Yields (Rule.read (f + 1) .factor c) .value rest
    rw [read_factor_eq, heat]
    exact hoperand.bind fun d hd => .ok hd

theorem await (h : Reads .primary ks s) : Reads .awaited (.name "await" :: ks) .value where
  toPhrase := .cons (by decide) (by decide) (h.toPhrase.mono (by decide))
  reaches fuel c rest hc stops hfuel := by
    simp only [List.length_cons, rank] at hfuel
    have hoperand : Yields (Rule.read fuel .primary c.advance) s rest :=
      h.yields (kinds_advance hc) (stops.mono (by decide)) (by simp only [rank]; omega)
    change Yields (readAwaited fuel c) .value rest
    rw [readAwaited, eatName?_of_kinds hc]
    exact hoperand.bind fun d hd => .ok hd

theorem power (hb : Reads .awaited ks s) (he : Reads .factor ks' s') :
    Reads .factor (ks ++ .symbol .power :: ks') .value where
  toPhrase := (hb.toPhrase.mono (by decide)).append rfl (he.toPhrase.closes_append [_])
  reaches fuel c rest hc stops hfuel := by
    rw [List.append_assoc] at hc
    simp only [List.length_append, List.length_cons, rank] at hfuel
    obtain ⟨f, rfl⟩ : ∃ f, fuel = f + 1 := ⟨fuel - 1, by omega⟩
    have hsign : c.eatAny? [.plus, .minus, .tilde] = none := by
      apply eatAny?_of_head
      intro sign hsign
      simp only [List.mem_cons, List.not_mem_nil, or_false] at hsign
      rcases hsign with rfl | rfl | rfl <;> exact hc ▸ hb.toPhrase.head_ne _ (by decide)
    have hbase : Yields (readAwaited f c) s (.symbol .power :: (ks' ++ rest)) :=
      hb.yields hc (.cons (by decide) _) (by simp only [rank]; omega)
    change Yields (Rule.read (f + 1) .factor c) .value rest
    rw [read_factor_eq, hsign]
    refine hbase.bind fun d hd => ?_
    have hexponent : Yields (Rule.read f .factor d.advance) s' rest :=
      he.yields (kinds_advance hd) stops (by simp only [rank]; omega)
    dsimp only
    rw [eat?_of_kinds hd]
    exact hexponent.bind fun e he => .ok he

theorem negation (h : Reads .inversion ks s) : Reads .inversion (.name "not" :: ks) .value where
  toPhrase := .cons (by decide) (by decide) (h.toPhrase.mono (by decide))
  reaches fuel c rest hc stops hfuel := by
    simp only [List.length_cons, rank] at hfuel
    obtain ⟨f, rfl⟩ : ∃ f, fuel = f + 1 := ⟨fuel - 1, by omega⟩
    have hoperand : Yields (Rule.read f .inversion c.advance) s rest :=
      h.yields (kinds_advance hc) stops (by simp only [rank]; omega)
    change Yields (Rule.read (f + 1) .inversion c) .value rest
    rw [Rule.read, eatName?_of_kinds hc]
    exact hoperand.bind fun d hd => .ok hd

theorem conditional {ks'' : List Token.Kind} {s'' : Shape} (hv : Reads (.chain .disjunction) ks s)
    (hc : Reads (.chain .disjunction) ks' s') (ho : Reads .expression ks'' s'') :
    Reads .expression (ks ++ .name "if" :: (ks' ++ .name "else" :: ks'')) .value where
  toPhrase := (hv.toPhrase.mono (by decide)).append (by decide) (by
    rw [List.append_cons, ← List.cons_append]
    exact ho.toPhrase.closes_append _)
  reaches fuel c rest hkinds stops hfuel := by
    simp only [List.append_assoc, List.cons_append] at hkinds
    simp only [List.length_append, List.length_cons, rank] at hfuel
    obtain ⟨f, rfl⟩ : ∃ f, fuel = f + 1 := ⟨fuel - 1, by omega⟩
    have hlambda : c.eatName? "lambda" = none :=
      eatName?_of_head (hkinds ▸ hv.toPhrase.head_ne _ (by decide))
    have hvalue : Yields (Rule.read f (.chain .disjunction) c) s
        (.name "if" :: (ks' ++ .name "else" :: (ks'' ++ rest))) :=
      hv.yields hkinds (.cons (by decide) _) (by simp only [rank]; omega)
    change Yields (Rule.read (f + 1) .expression c) .value rest
    rw [Rule.read, hlambda]
    refine hvalue.bind fun d hd => ?_
    have hcondition : Yields (Rule.read f (.chain .disjunction) d.advance) s'
        (.name "else" :: (ks'' ++ rest)) :=
      hc.yields (kinds_advance hd) (.cons (by decide) _) (by simp only [rank]; omega)
    dsimp only
    rw [eatName?_of_kinds hd]
    refine hcondition.bind fun e he => ?_
    refine (arrives_expectName he).bind fun g hg => ?_
    have hotherwise : Yields (Rule.read f .expression g) s'' rest :=
      ho.yields hg stops (by simp only [rank]; omega)
    exact hotherwise.bind fun i hi => .ok hi

end Reads

/-! ## Atoms -/

theorem read_atom_eq (fuel : Nat) (c : Cursor) :
    Rule.read (fuel + 1) .atom c = match c.kinds with
      | [] => .error c.unexpected
      | k :: _ => match k with
        | .name n =>
          if n = "True" || n = "False" || n = "None" then .ok (.value, c.advance)
          else if isKeyword n then .error c.unexpected
          else .ok (.name, c.advance)
        | .number _ => .ok (.value, c.advance)
        | .str _ _ => .ok (.value, c.advance)
        | .symbol .ellipsis => .ok (.value, c.advance)
        | .symbol .openParen => Rule.read fuel .parenthesized c.advance
        | .symbol .openSquare => Rule.read fuel .squareDisplay c.advance
        | .symbol .openBrace => Rule.read fuel .braceDisplay c.advance
        | _ => .error c.unexpected := by
  obtain ⟨line, rest⟩ := c
  cases rest with
  | nil => rfl
  | cons t ts => rfl

/-- What stands in brackets is read by a rule, through the closing one. -/
def Fills (rule : Rule) (close : Symbol) (ks : List Token.Kind) (s : Shape) : Prop :=
  ∀ fuel c rest, c.kinds = ks ++ .symbol close :: rest → 24 * ks.length + 24 ≤ fuel →
    Yields (Rule.read fuel rule c) s rest

/-- The rule of the brackets is entered before anything in them is read. -/
theorem Fills.of_succ {rule : Rule} {close : Symbol} {ks : List Token.Kind} {s : Shape}
    (h : ∀ fuel c rest, c.kinds = ks ++ .symbol close :: rest → 24 * ks.length + 23 ≤ fuel →
      Yields (Rule.read (fuel + 1) rule c) s rest) : Fills rule close ks s := by
  intro fuel c rest hc hfuel
  obtain ⟨f, rfl⟩ : ∃ f, fuel = f + 1 := ⟨fuel - 1, by omega⟩
  exact h f c rest hc (by omega)

/-- The rule of what stands in brackets that are an atom. -/
def displayRule : Bracket → Rule
  | .paren => .parenthesized
  | .square => .squareDisplay
  | .brace => .braceDisplay

namespace Reads

variable {ks : List Token.Kind} {s : Shape}

theorem of_atom (phrase : Phrase primary.rank ks)
    (atom : ∀ fuel c rest, c.kinds = ks ++ rest → 24 * ks.length ≤ fuel + 23 →
      Yields (Rule.read fuel .atom c) s rest) : Reads .primary ks s where
  toPhrase := phrase
  reaches fuel c rest hc _ hfuel := by
    have hpos := phrase.length_pos
    simp only [rank] at hfuel
    obtain ⟨f, rfl⟩ : ∃ f, fuel = f + 1 := ⟨fuel - 1, by omega⟩
    obtain ⟨d, hread, hd⟩ := atom f c rest hc (by omega)
    refine ⟨f, d.rest.length + 1, d, rfl, ?_, hd, ?_⟩
    · rw [length_rest, hd]
      exact Nat.lt_succ_self _
    · rw [read_primary_eq, hread]
      rfl

/-- A token that is an atom by itself. -/
theorem single {k : Token.Kind} (hk : primary.rank ≤ openRank k)
    (atom : ∀ fuel c rest, c.kinds = k :: rest →
      Rule.read (fuel + 1) .atom c = .ok (s, c.advance)) : Reads .primary [k] s := by
  have hcolon : k ≠ .symbol .colon := by
    rintro rfl
    exact absurd hk (by decide)
  refine .of_atom (.single hk hcolon) fun fuel c rest hc hfuel => ?_
  obtain ⟨f, rfl⟩ : ∃ f, fuel = f + 1 := ⟨fuel - 1, by simp at hfuel; omega⟩
  rw [atom f c rest hc]
  exact .ok (kinds_advance hc)

theorem name (n : Identifier) : Reads .primary [.name n.text] .name := by
  have hne (w : String) (hw : isKeyword w = true) : n.text ≠ w := by
    rintro rfl
    exact Bool.false_ne_true (n.free.symm.trans hw)
  refine .single ?_ fun fuel c rest hc => ?_
  · simp [openRank, hne "lambda" (by decide), hne "not" (by decide), hne "await" (by decide),
      n.free]
  · rw [read_atom_eq, hc]
    simp [hne "True" (by decide), hne "False" (by decide), hne "None" (by decide), n.free]

theorem constant (c : Constant) : Reads .primary [.name c.word] .value := by
  refine .single (by cases c <;> decide) fun fuel d rest hd => ?_
  rw [read_atom_eq, hd]
  cases c <;> rfl

theorem number (text : String) : Reads .primary [.number text] .value := by
  refine .single (Nat.le_refl _) fun fuel c rest hc => ?_
  rw [read_atom_eq, hc]

theorem string (value : String) (plain : Bool) : Reads .primary [.str value plain] .value := by
  refine .single (Nat.le_refl _) fun fuel c rest hc => ?_
  rw [read_atom_eq, hc]

theorem ellipsis : Reads .primary [.symbol .ellipsis] .value := by
  refine .single (Nat.le_refl _) fun fuel c rest hc => ?_
  rw [read_atom_eq, hc]

theorem display (b : Bracket) (h : Fills (displayRule b) (closeSymbol b) ks s)
    (head : ∀ k, ks.head? = some k → Leads k) : Reads .primary (bracketed b ks) s := by
  refine .of_atom (.bracketed b head) fun fuel c rest hc hfuel => ?_
  rw [bracketed, List.cons_append, List.append_assoc, List.singleton_append] at hc
  simp only [bracketed, List.length_cons, List.length_append, List.length_nil] at hfuel
  obtain ⟨f, rfl⟩ : ∃ f, fuel = f + 1 := ⟨fuel - 1, by omega⟩
  have hread := h f c.advance rest (kinds_advance hc) (by omega)
  rw [read_atom_eq, hc]
  cases b <;> exact hread

/-! ## Behind a primary -/

/-- Tokens that make a primary of the one before them. -/
theorem trailer {k : Token.Kind} {more : List Token.Kind} {s' : Shape} (h : Reads .primary ks s)
    (hk : connects k = true) (closes : (k :: more).getLast? ≠ some (.symbol .colon))
    (goes : ∀ n t c rest, c.kinds = k :: more ++ rest → 24 * (more.length + 1) ≤ n →
      ∃ d, primaryRound n t c = .ok (.again s' d) ∧ d.kinds = rest) :
    Reads .primary (ks ++ k :: more) s' where
  toPhrase := h.toPhrase.append hk closes
  reaches fuel c rest hc stops hfuel := by
    have hpos := h.length_pos
    rw [List.append_assoc] at hc
    simp only [List.length_append, List.length_cons, rank] at hfuel
    have hjoin : Stops primary.inner (k :: more ++ rest) :=
      .cons (Nat.lt_succ_of_le (joinRank_le k)) _
    obtain ⟨n, m, d, rfl, hm, hd, hread⟩ := h.reaches fuel c _ hc hjoin (by simp only [rank]; omega)
    simp only [List.length_append, List.length_cons] at hm
    obtain ⟨m, rfl⟩ : ∃ j, m = j + 1 := ⟨m - 1, by omega⟩
    obtain ⟨e, hround, he⟩ := goes n s d rest hd (by omega)
    refine ⟨n, m, e, rfl, by omega, he, ?_⟩
    rw [hread, roundsFuel, hround]

theorem member (h : Reads .primary ks s) (n : Identifier) :
    Reads .primary (ks ++ [.symbol .dot, .name n.text]) .member := by
  refine h.trailer rfl (by simp) fun m t c rest hc _ => ?_
  obtain ⟨d, hd, hrest⟩ := arrives_identifier n.free (kinds_advance hc)
  refine ⟨d, ?_, hrest⟩
  rw [primaryRound, eat?_of_kinds hc]
  dsimp only
  rw [hd]
  rfl

theorem call {args : List Token.Kind} {s' : Shape} (h : Reads .primary ks s)
    (hargs : Fills .arguments .closeParen args s') :
    Reads .primary (ks ++ bracketed .paren args) .value := by
  refine h.trailer rfl (by rw [← List.cons_append, List.getLast?_concat]; decide)
    fun m t c rest hc hm => ?_
  rw [List.cons_append, List.append_assoc, List.singleton_append] at hc
  replace hc : c.kinds = .symbol .openParen :: (args ++ .symbol .closeParen :: rest) := hc
  simp only [List.length_append, List.length_cons, List.length_nil] at hm
  obtain ⟨d, hread, hd⟩ := hargs m c.advance rest (kinds_advance hc) (by omega)
  have hdot : c.eat? .dot = none := eat?_of_head (by simp [hc])
  refine ⟨d, ?_, hd⟩
  rw [primaryRound, hdot, eat?_of_kinds hc]
  dsimp only
  rw [hread]
  rfl

theorem subscript {indices : List Token.Kind} {s' : Shape} (h : Reads .primary ks s)
    (hindices : Fills .slices .closeSquare indices s') :
    Reads .primary (ks ++ bracketed .square indices) .member := by
  refine h.trailer rfl (by rw [← List.cons_append, List.getLast?_concat]; decide)
    fun m t c rest hc hm => ?_
  rw [List.cons_append, List.append_assoc, List.singleton_append] at hc
  replace hc : c.kinds = .symbol .openSquare :: (indices ++ .symbol .closeSquare :: rest) := hc
  simp only [List.length_append, List.length_cons, List.length_nil] at hm
  obtain ⟨d, hread, hd⟩ := hindices m c.advance rest (kinds_advance hc) (by omega)
  have hdot : c.eat? .dot = none := eat?_of_head (by simp [hc])
  have hparen : c.eat? .openParen = none := eat?_of_head (by simp [hc])
  refine ⟨d, ?_, hd⟩
  rw [primaryRound, hdot, hparen, eat?_of_kinds hc]
  dsimp only
  rw [hread]
  rfl

end Reads

end DeclaredSchema.Source.Tree
