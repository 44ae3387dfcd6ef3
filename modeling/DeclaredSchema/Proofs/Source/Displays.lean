import DeclaredSchema.Proofs.Source.Lists

/-! # What stands in brackets

Parentheses hold an expression, a tuple, a generator, or what may stand nowhere else without them.
Square brackets and braces hold the items of a display or a comprehension.
-/

namespace DeclaredSchema.Source.Tree

open Cursor Strength

/-! ## Parentheses -/

/-- What the tokens of one item in brackets begin with. -/
theorem Phrase.not_close {n : Nat} {ks rest : List Token.Kind} (h : Phrase n ks) (hn : 0 < n)
    {c : Cursor} (hc : c.kinds = ks ++ rest) (b : Bracket) : c.eat? (closeSymbol b) = none :=
  eat?_of_head (hc ▸ h.head_ne rest (by cases b <;> exact hn))

theorem ItemReads.parenthesized {ks rest : List Token.Kind} {s s' : Shape}
    (h : ItemReads .starNamed ks s) {fuel : Nat} {c : Cursor} {y : Symbol} {tail : List Token.Kind}
    (hc : c.kinds = ks ++ .symbol y :: tail) (joins : joinRank (.symbol y) < expression.rank)
    (hfuel : 24 * ks.length ≤ fuel + 7)
    (behind : ∀ d, d.kinds = .symbol y :: tail → Yields (
      if !d.atSymbol .comma then do
        let d ← d.expect .closeParen
        .ok (if s = .starred then .value else s, d)
      else Rule.sequenceTail (Rule.read fuel (.item .starNamed)) .closeParen s d) s' rest) :
    Yields (Rule.read (fuel + 1) .parenthesized c) s' rest := by
  have hclose : c.eat? .closeParen = none := h.toPhrase.not_close (by decide) hc .paren
  have hyield : c.atName "yield" = false := by
    rw [atName_eq, hc, decide_eq_false_iff_not]
    exact h.toPhrase.head_ne _ (by decide)
  rw [Rule.read, hclose]
  simp only [hyield, Bool.false_eq_true, if_false]
  refine (h.yields fuel c _ hc (.cons joins _) hfuel).bind fun d hd => ?_
  simp only [not_atComprehension hd, Bool.false_eq_true, if_false]
  exact behind d hd

theorem fills_empty_tuple : Fills .parenthesized .closeParen [] .sequence := by
  refine .of_succ fun f c rest hc hfuel => ?_
  rw [Rule.read, eat?_of_kinds hc]
  exact .ok (kinds_advance hc)

/-- One expression. -/
theorem fills_expression {ks : List Token.Kind} {s : Shape} (h : Reads .expression ks s)
    (unstarred : s ≠ .starred) : Fills .parenthesized .closeParen ks s := by
  refine .of_succ fun f c rest hc hfuel => ?_
  have hitem : ItemReads .starNamed ks s := Reads.item h
  refine hitem.parenthesized hc (by decide) (by omega) fun d hd => ?_
  have hcomma : d.atSymbol .comma = false := by
    rw [atSymbol_eq, hd]
    rfl
  simp only [hcomma, Bool.not_false, if_true, unstarred, if_false]
  exact (arrives_expect hd).bind fun e he => .ok he

/-- One more item of a list, if a comma and an item follow. -/
def nextItem (item : Cursor → Rule.Reading) (close : Symbol) (fit : Bool) (c : Cursor) :
    Except SyntaxError (Round Bool) :=
  match c.eat? .comma with
  | none => .ok (.stop fit c)
  | some c =>
    if c.atSymbol close then .ok (.stop fit c)
    else do
      let (shape, c) ← item c
      .ok (.again (fit && shape.fitsSequence) c)

theorem sequenceTail_eq (item : Cursor → Rule.Reading) (close : Symbol) (first : Shape) (c : Cursor) :
    Rule.sequenceTail item close first c = (do
      let (fit, c) ← rounds (nextItem item close) first.fitsSequence c
      let c ← c.expect close
      .ok (.ofItems fit, c)) := rfl

section Items

variable {β : Type} {chunk : β → List Token.Kind} {shape : β → Shape} {x : β} {xs : List β}

/-- The items of a tuple or list after the first one. -/
theorem sequenceTail_items (fuel : Nat) {b : Bracket}
    (h : ∀ y ∈ xs, ItemReads .starNamed (chunk y) (shape y)) {c : Cursor} {rest : List Token.Kind}
    (hc : c.kinds = Printed.commaTail (xs.map chunk) ++ .symbol (closeSymbol b) :: rest)
    (hfuel : ∀ y ∈ xs, 24 * (chunk y).length ≤ fuel + 7) (first : Shape) :
    Yields (Rule.sequenceTail (Rule.read fuel (.item .starNamed)) (closeSymbol b) first c)
      (.ofItems (first.fitsSequence && xs.all fun y => (shape y).fitsSequence)) rest := by
  have hrounds : Yields
      (rounds (nextItem (Rule.read fuel (.item .starNamed)) (closeSymbol b))
        first.fitsSequence c)
      (first.fitsSequence && xs.all fun y => (shape y).fitsSequence)
      (.symbol (closeSymbol b) :: rest) := by
    rw [commaTail_map] at hc
    rw [← foldl_and_all]
    refine rounds_flatMap (Stops expression.rank) (fun y _ => List.cons_ne_nil _ _) ?_
      (.cons (by cases b <;> decide) _) (fun y _ ks => ?_) ?_ hc
    · intro v d hd
      have hcomma : d.eat? .comma = none :=
        eat?_of_head (by rw [hd]; cases b <;> simp [closeSymbol])
      exact ⟨d, by rw [nextItem, hcomma], hd⟩
    · exact .cons (by decide) _
    · intro y hy v d ks stops hd
      have hitem := h y hy
      have hclose : d.advance.atSymbol (closeSymbol b) = false := by
        rw [atSymbol_eq, kinds_advance hd, decide_eq_false_iff_not]
        exact hitem.toPhrase.head_ne ks (by cases b <;> decide)
      obtain ⟨e, hread, he⟩ := hitem.yields fuel d.advance ks (kinds_advance hd) stops (hfuel y hy)
      refine ⟨e, ?_, he⟩
      rw [nextItem, eat?_of_kinds hd]
      simp only [hclose, Bool.false_eq_true, if_false, hread]
      rfl
  rw [sequenceTail_eq]
  refine hrounds.bind fun d hd => ?_
  exact (arrives_expect hd).bind fun e he => .ok he

/-- A tuple. -/
theorem fills_tupled (h : ∀ y ∈ x :: xs, ItemReads .starNamed (chunk y) (shape y)) :
    Fills .parenthesized .closeParen (tupled ((x :: xs).map chunk))
      (.ofItems ((x :: xs).all fun y => (shape y).fitsSequence)) := by
  refine .of_succ fun f c rest hc hfuel => ?_
  obtain ⟨hx, hxs⟩ := List.forall_mem_cons.mp h
  have hcomma {d : Cursor} {ks : List Token.Kind} (hd : d.kinds = .symbol .comma :: ks) :
      d.atSymbol .comma = true := by
    rw [atSymbol_eq, hd]
    rfl
  rw [List.all_cons]
  cases xs with
  | nil =>
      change c.kinds = chunk x ++ [.symbol .comma] ++ _ at hc
      change 24 * (chunk x ++ [Token.Kind.symbol .comma]).length + 23 ≤ f at hfuel
      rw [List.append_assoc] at hc
      rw [List.length_append, List.length_singleton] at hfuel
      refine hx.parenthesized hc (by decide) (by omega) fun d hd => ?_
      have hround : nextItem (Rule.read f (.item .starNamed)) .closeParen
          (shape x).fitsSequence d = .ok (.stop (shape x).fitsSequence d.advance) := by
        rw [nextItem, eat?_of_kinds hd]
        simp [atSymbol_eq, kinds_advance hd]
      rw [List.all_nil, Bool.and_true]
      simp only [hcomma hd, Bool.not_true, Bool.false_eq_true, if_false, sequenceTail_eq,
        rounds_stop hround]
      exact (arrives_expect (kinds_advance hd)).bind fun e he => .ok he
  | cons y ys =>
      change c.kinds = Printed.commaJoined (chunk x :: (y :: ys).map chunk) ++ _ at hc
      change 24 * (Printed.commaJoined (chunk x :: (y :: ys).map chunk)).length + 23 ≤ f at hfuel
      rw [Printed.commaJoined_cons, List.append_assoc] at hc
      rw [Printed.commaJoined_cons, List.length_append] at hfuel
      refine hx.parenthesized hc (by decide) (by omega) fun d hd => ?_
      simp only [hcomma hd, Bool.not_true, Bool.false_eq_true, if_false]
      refine sequenceTail_items (b := .paren) f hxs hd (fun z hz => ?_) (shape x)
      have := Printed.length_lt_commaTail (List.mem_map_of_mem (f := chunk) hz)
      omega

end Items

theorem fills_generator {ks ls : List Token.Kind} {s : Shape} (h : Reads .expression ks s)
    (hl : Loops ls) : Fills .parenthesized .closeParen (ks ++ ls) .value := by
  refine .of_succ fun f c rest hc hfuel => ?_
  rw [List.append_assoc] at hc
  rw [List.length_append] at hfuel
  have hitem : ItemReads .starNamed ks s := Reads.item h
  have hclose : c.eat? .closeParen = none := h.toPhrase.not_close (by decide) hc .paren
  have hyield : c.atName "yield" = false := by
    rw [atName_eq, hc, decide_eq_false_iff_not]
    exact h.toPhrase.head_ne _ (by decide)
  rw [Rule.read, hclose]
  simp only [hyield, Bool.false_eq_true, if_false]
  refine (hitem.yields f c _ hc (hl.stops (by decide) _) (by omega)).bind fun d hd => ?_
  simp only [hl.atComprehension hd, if_true]
  refine (hl.yields f d _ rest hd (by decide) (by omega)).bind fun e he => ?_
  exact (arrives_expect he).bind fun g hg => .ok hg

/-- A `yield`, given what its rule reads behind the word. -/
theorem fills_yield (ks : List Token.Kind)
    (h : ∀ fuel c rest, c.kinds = ks ++ .symbol .closeParen :: rest → 24 * ks.length ≤ fuel →
      ∀ d : Cursor, d.kinds = .name "yield" :: c.kinds → d.advance = c →
        Yields (Rule.read (fuel + 1) .yieldExpr d) .value (.symbol .closeParen :: rest)) :
    Fills .parenthesized .closeParen (.name "yield" :: ks) .value := by
  intro fuel c rest hc hfuel
  simp only [List.length_cons] at hfuel
  obtain ⟨f, rfl⟩ : ∃ f, fuel = f + 2 := ⟨fuel - 2, by omega⟩
  have hclose : c.eat? .closeParen = none := eat?_of_head (by rw [hc]; simp)
  have hyield : c.atName "yield" = true := by
    rw [atName_eq, hc]
    rfl
  have hbehind := kinds_advance hc
  rw [Rule.read, hclose]
  simp only [hyield, if_true]
  refine (h f c.advance rest hbehind (by omega) c (by rw [hbehind]; exact hc) rfl).bind
    fun d hd => ?_
  exact (arrives_expect hd).bind fun e he => .ok he

theorem fills_bare_yield : Fills .parenthesized .closeParen [.name "yield"] .value := by
  refine fills_yield [] fun fuel c rest hc _ d _ hd => ?_
  have hfrom : c.eatName? "from" = none := eatName?_of_head (by rw [hc]; simp)
  have hstart : c.startsExpression = false := by
    rw [startsExpression_eq, hc]
    rfl
  rw [Rule.read, hd]
  simp only [hfrom, hstart, Bool.false_eq_true, if_false]
  exact .ok hc

theorem fills_yield_list {ks : List Token.Kind} {s : Shape} (h : ListReads .star ks s) :
    Fills .parenthesized .closeParen (.name "yield" :: ks) .value := by
  refine fills_yield _ fun fuel c rest hc hfuel d _ hd => ?_
  have hfrom : c.eatName? "from" = none :=
    eatName?_of_head (hc ▸ h.toPhrase.head_ne _ (by decide))
  have hstart : c.startsExpression = true := by
    obtain ⟨k, tail, hk, hopen⟩ := h.toPhrase.opens
    rw [startsExpression_eq, hc, hk]
    exact starts_of_openRank hopen
  rw [Rule.read, hd]
  simp only [hfrom, hstart, if_true]
  refine (h.yields fuel c _ hc (.cons (by decide) (by simp) rfl _) (by omega)).bind fun e he => ?_
  exact .ok he

theorem fills_yield_from {ks : List Token.Kind} {s : Shape} (h : Reads .expression ks s) :
    Fills .parenthesized .closeParen (.name "yield" :: .name "from" :: ks) .value := by
  refine fills_yield _ fun fuel c rest hc hfuel d _ hd => ?_
  rw [List.length_cons] at hfuel
  have hvalue : Yields (Rule.read fuel .expression c.advance) s (.symbol .closeParen :: rest) :=
    h.yields (kinds_advance hc) (.cons (by decide) _) (by simp only [rank]; omega)
  rw [Rule.read, hd, eatName?_of_kinds hc]
  exact hvalue.bind fun e he => .ok he

theorem fills_walrus (n : Identifier) {ks : List Token.Kind} {s : Shape}
    (h : Reads .expression ks s) :
    Fills .parenthesized .closeParen (.name n.text :: .symbol .walrus :: ks) .value := by
  intro fuel c rest hc hfuel
  simp only [List.length_cons] at hfuel
  obtain ⟨f, rfl⟩ : ∃ f, fuel = f + 3 := ⟨fuel - 3, by omega⟩
  have hphrase := (Reads.name n).toPhrase
  have hclose : c.eat? .closeParen = none := hphrase.not_close (by decide) hc .paren
  have hyield : c.atName "yield" = false := by
    rw [atName_eq, hc, decide_eq_false_iff_not]
    exact hphrase.head_ne _ (by decide)
  have hstar : c.eat? .star = none := eat?_of_head (by rw [hc]; simp)
  have hid : c.atIdentifier = true := by
    rw [atIdentifier, name?_eq, hc]
    simp [Token.Kind.name?, n.free]
  have hwalrus : c.second?.any (·.isSymbol .walrus) = true := by
    rw [second?_isSymbol, hc]
    rfl
  have hvalue : Yields (Rule.read f .expression c.advance.advance) s
      (.symbol .closeParen :: rest) :=
    h.yields (kinds_advance (kinds_advance hc)) (.cons (by decide) _)
      (by simp only [rank]; omega)
  have hitem : Yields (Rule.read (f + 2) (.item .starNamed) c) .value
      (.symbol .closeParen :: rest) := by
    rw [read_item_eq, hstar]
    dsimp only
    rw [Rule.read]
    simp only [hid, hwalrus, Bool.and_self, if_true]
    exact hvalue.bind fun e he => .ok he
  rw [Rule.read, hclose]
  simp only [hyield, Bool.false_eq_true, if_false]
  refine hitem.bind fun d hd => ?_
  have hcomma : d.atSymbol .comma = false := by
    rw [atSymbol_eq, hd]
    rfl
  simp only [not_atComprehension hd, hcomma, Bool.false_eq_true, Bool.not_false, if_true, if_false]
  exact (arrives_expect hd).bind fun e he => .ok he

/-! ## Square brackets -/

theorem fills_empty_list : Fills .squareDisplay .closeSquare [] .sequence := by
  refine .of_succ fun f c rest hc hfuel => ?_
  rw [Rule.read, eat?_of_kinds hc]
  exact .ok (kinds_advance hc)

theorem fills_list {β : Type} {chunk : β → List Token.Kind} {shape : β → Shape} {x : β}
    {xs : List β} (h : ∀ y ∈ x :: xs, ItemReads .starNamed (chunk y) (shape y)) :
    Fills .squareDisplay .closeSquare (Printed.commaJoined ((x :: xs).map chunk))
      (.ofItems ((x :: xs).all fun y => (shape y).fitsSequence)) := by
  refine .of_succ fun f c rest hc hfuel => ?_
  obtain ⟨hx, hxs⟩ := List.forall_mem_cons.mp h
  rw [List.map_cons, Printed.commaJoined_cons, List.append_assoc] at hc
  rw [List.map_cons, Printed.commaJoined_cons, List.length_append] at hfuel
  have hclose : c.eat? .closeSquare = none := hx.toPhrase.not_close (by decide) hc .square
  -- Behind the first item stands a comma or the closing bracket, so no loop.
  obtain ⟨y, tail, htail, hy⟩ : ∃ y tail,
      Printed.commaTail (xs.map chunk) ++ .symbol .closeSquare :: rest = .symbol y :: tail ∧
        joinRank (.symbol y) < expression.rank := by
    cases xs with
    | nil => exact ⟨.closeSquare, rest, rfl, by decide⟩
    | cons z zs => exact ⟨.comma, _, rfl, by decide⟩
  rw [List.all_cons, Rule.read, hclose]
  refine (hx.yields f c _ hc (htail ▸ .cons hy _) (by omega)).bind fun d hd => ?_
  simp only [not_atComprehension (hd.trans htail), Bool.false_eq_true, if_false]
  refine sequenceTail_items (b := .square) f hxs hd (fun z hz => ?_) (shape x)
  have := Printed.length_lt_commaTail (List.mem_map_of_mem (f := chunk) hz)
  omega

theorem fills_list_comprehension {ks ls : List Token.Kind} {s : Shape} (h : Reads .expression ks s)
    (hl : Loops ls) : Fills .squareDisplay .closeSquare (ks ++ ls) .value := by
  refine .of_succ fun f c rest hc hfuel => ?_
  rw [List.append_assoc] at hc
  rw [List.length_append] at hfuel
  have hitem : ItemReads .starNamed ks s := Reads.item h
  have hclose : c.eat? .closeSquare = none := h.toPhrase.not_close (by decide) hc .square
  rw [Rule.read, hclose]
  refine (hitem.yields f c _ hc (hl.stops (by decide) _) (by omega)).bind fun d hd => ?_
  simp only [hl.atComprehension hd, if_true]
  refine (hl.yields f d _ rest hd (by decide) (by omega)).bind fun e he => ?_
  exact (arrives_expect he).bind fun g hg => .ok hg

/-! ## Braces -/

/-- The first thing in braces, and whether it is an entry of a dictionary. -/
def firstEntry (fuel : Nat) (c : Cursor) : Except SyntaxError (Bool × Cursor) :=
  match c.eat? .power with
  | some c => do
    let (_, c) ← Rule.read fuel (.chain .bitOr) c
    .ok (true, c)
  | none => do
    let (_, c) ← Rule.read fuel (.item .starNamed) c
    match c.eat? .colon with
    | some c => do
      let (_, c) ← Rule.read fuel .expression c
      .ok (true, c)
    | none => .ok (false, c)

/-- One more item of a set or entry of a dictionary. -/
def entryRound (fuel : Nat) (dict : Bool) (_ : Unit) (c : Cursor) :
    Except SyntaxError (Round Unit) :=
  match c.eat? .comma with
  | none => .ok (.stop () c)
  | some c =>
    if c.atSymbol .closeBrace then .ok (.stop () c)
    else if !dict then do
      let (_, c) ← Rule.read fuel (.item .starNamed) c
      .ok (.again () c)
    else match c.eat? .power with
      | some c => do
        let (_, c) ← Rule.read fuel (.chain .bitOr) c
        .ok (.again () c)
      | none => do
        let (_, c) ← Rule.read fuel .expression c
        let c ← c.expect .colon
        let (_, c) ← Rule.read fuel .expression c
        .ok (.again () c)

theorem read_braceDisplay_eq (fuel : Nat) (c : Cursor) :
    Rule.read (fuel + 1) .braceDisplay c = (match c.eat? .closeBrace with
      | some c => .ok (.value, c)
      | none => do
        let (dict, c) ← firstEntry fuel c
        if c.atComprehension then
          let (_, c) ← Rule.read fuel .comprehension c
          let c ← c.expect .closeBrace
          .ok (.value, c)
        else
          let (_, c) ← rounds (entryRound fuel dict) () c
          let c ← c.expect .closeBrace
          .ok (.value, c)) := by
  rw [Rule.read, firstEntry]
  cases c.eat? .closeBrace with
  | some d => rfl
  | none =>
      cases c.eat? .power with
      | some d =>
          dsimp only
          cases Rule.read fuel (.chain .bitOr) d <;> rfl
      | none =>
          dsimp only
          cases Rule.read fuel (.item .starNamed) c with
          | error e => rfl
          | ok p =>
              obtain ⟨_, d⟩ := p
              simp only [Rule.ok_bind]
              cases d.eat? .colon with
              | none => rfl
              | some e =>
                  dsimp only
                  cases Rule.read fuel .expression e <;> rfl

/-- The tokens are an item of a set, or an entry of a dictionary. -/
structure EntryReads (dict : Bool) (ks : List Token.Kind) : Prop where
  opens : ∃ k tail, ks = k :: tail ∧ k ≠ .symbol .closeBrace ∧ Leads k
  first : ∀ fuel c rest, c.kinds = ks ++ rest → Stops expression.rank rest →
    rest.head? ≠ some (.symbol .colon) → 24 * ks.length ≤ fuel + 7 →
      Yields (firstEntry fuel c) dict rest
  more : ∀ fuel c rest, c.kinds = .symbol .comma :: (ks ++ rest) → Stops expression.rank rest →
    24 * ks.length ≤ fuel + 7 → ∃ d, entryRound fuel dict () c = .ok (.again () d) ∧ d.kinds = rest

theorem Phrase.opens_entry {n : Nat} {ks : List Token.Kind} (h : Phrase n ks) (hn : 0 < n)
    (rest : List Token.Kind) :
    ∃ k tail, ks ++ rest = k :: tail ∧ k ≠ .symbol .closeBrace ∧ Leads k := by
  obtain ⟨k, tail, rfl, hk⟩ := h.opens
  refine ⟨k, tail ++ rest, rfl, ?_, leads_of_openRank (Nat.lt_of_lt_of_le hn hk)⟩
  rintro rfl
  exact absurd (Nat.lt_of_lt_of_le hn hk) (by decide)

theorem ItemReads.entry {ks : List Token.Kind} {s : Shape} (h : ItemReads .starNamed ks s) :
    EntryReads false ks where
  opens := by simpa using h.toPhrase.opens_entry (by decide) []
  first fuel c rest hc stops colon hfuel := by
    have hpower : c.eat? .power = none :=
      eat?_of_head (hc ▸ h.toPhrase.head_ne rest (by decide))
    rw [firstEntry, hpower]
    refine (h.yields fuel c rest hc stops hfuel).bind fun d hd => ?_
    have hcolon : d.eat? .colon = none := eat?_of_head (hd ▸ colon)
    simp only [hcolon]
    exact .ok hd
  more fuel c rest hc stops hfuel := by
    have hclose : c.advance.atSymbol .closeBrace = false := by
      rw [atSymbol_eq, kinds_advance hc, decide_eq_false_iff_not]
      exact h.toPhrase.head_ne rest (by decide)
    obtain ⟨d, hread, hd⟩ := h.yields fuel c.advance rest (kinds_advance hc) stops hfuel
    refine ⟨d, ?_, hd⟩
    rw [entryRound, eat?_of_kinds hc]
    simp only [hclose, Bool.false_eq_true, if_false, Bool.not_false, if_true, hread]
    rfl

theorem entryReads_pair {ks vs : List Token.Kind} {s s' : Shape} (hk : Reads .expression ks s)
    (hv : Reads .expression vs s') : EntryReads true (ks ++ .symbol .colon :: vs) where
  opens := hk.toPhrase.opens_entry (by decide) _
  first fuel c rest hc stops colon hfuel := by
    rw [List.append_assoc] at hc
    simp only [List.length_append, List.length_cons] at hfuel
    have hpower : c.eat? .power = none :=
      eat?_of_head (hc ▸ hk.toPhrase.head_ne _ (by decide))
    have hkey : ItemReads .starNamed ks s := Reads.item hk
    rw [firstEntry, hpower]
    refine (hkey.yields fuel c _ hc (.cons (by decide) _) (by omega)).bind fun d hd => ?_
    have hvalue : Yields (Rule.read fuel .expression d.advance) s' rest :=
      hv.yields (kinds_advance hd) stops (by simp only [rank]; omega)
    simp only [eat?_of_kinds hd]
    exact hvalue.bind fun e he => .ok he
  more fuel c rest hc stops hfuel := by
    rw [List.append_assoc] at hc
    simp only [List.length_append, List.length_cons] at hfuel
    have hbehind := kinds_advance hc
    have hclose : c.advance.atSymbol .closeBrace = false := by
      rw [atSymbol_eq, hbehind, decide_eq_false_iff_not]
      exact hk.toPhrase.head_ne _ (by decide)
    have hpower : c.advance.eat? .power = none :=
      eat?_of_head (hbehind ▸ hk.toPhrase.head_ne _ (by decide))
    obtain ⟨d, hkey, hd⟩ : Yields (Rule.read fuel .expression c.advance) s
        (.symbol .colon :: (vs ++ rest)) :=
      hk.yields hbehind (.cons (by decide) _) (by simp only [rank]; omega)
    obtain ⟨e, hexpect, he⟩ := arrives_expect hd
    obtain ⟨f, hvalue, hf⟩ : Yields (Rule.read fuel .expression e) s' rest :=
      hv.yields he stops (by simp only [rank]; omega)
    refine ⟨f, ?_, hf⟩
    rw [entryRound, eat?_of_kinds hc]
    simp only [hclose, Bool.false_eq_true, if_false, Bool.not_true, hpower, hkey, Rule.ok_bind,
      hexpect, hvalue]

theorem entryReads_spread {ks : List Token.Kind} {s : Shape} (h : Reads (.chain .bitOr) ks s) :
    EntryReads true (.symbol .power :: ks) where
  opens := ⟨_, _, rfl, by simp, Or.inl rfl⟩
  first fuel c rest hc stops colon hfuel := by
    simp only [List.length_cons] at hfuel
    have hvalue : Yields (Rule.read fuel (.chain .bitOr) c.advance) s rest :=
      h.yields (kinds_advance hc) (stops.mono (by decide)) (by simp only [rank]; omega)
    rw [firstEntry, eat?_of_kinds hc]
    exact hvalue.bind fun d hd => .ok hd
  more fuel c rest hc stops hfuel := by
    simp only [List.length_cons] at hfuel
    have hbehind := kinds_advance hc
    have hclose : c.advance.atSymbol .closeBrace = false := by
      rw [atSymbol_eq, hbehind]
      rfl
    obtain ⟨d, hvalue, hd⟩ : Yields (Rule.read fuel (.chain .bitOr) c.advance.advance) s rest :=
      h.yields (kinds_advance hbehind) (stops.mono (by decide)) (by simp only [rank]; omega)
    refine ⟨d, ?_, hd⟩
    rw [entryRound, eat?_of_kinds hc]
    simp only [hclose, Bool.false_eq_true, if_false, Bool.not_true, eat?_of_kinds hbehind, hvalue,
      Rule.ok_bind]

theorem EntryReads.not_close {dict : Bool} {ks rest : List Token.Kind} (h : EntryReads dict ks)
    {c : Cursor} (hc : c.kinds = ks ++ rest) : c.eat? .closeBrace = none := by
  obtain ⟨k, tail, rfl, hk, -⟩ := h.opens
  exact eat?_of_head (by rw [hc]; simpa using hk)

theorem fills_empty_dict : Fills .braceDisplay .closeBrace [] .value := by
  refine .of_succ fun f c rest hc hfuel => ?_
  rw [Rule.read, eat?_of_kinds hc]
  exact .ok (kinds_advance hc)

/-- The items of a set, or the entries of a dictionary. -/
theorem fills_entries {β : Type} {chunk : β → List Token.Kind} {x : β} {xs : List β} {dict : Bool}
    (h : ∀ y ∈ x :: xs, EntryReads dict (chunk y)) :
    Fills .braceDisplay .closeBrace (Printed.commaJoined ((x :: xs).map chunk)) .value := by
  refine .of_succ fun f c rest hc hfuel => ?_
  obtain ⟨hx, hxs⟩ := List.forall_mem_cons.mp h
  rw [List.map_cons, Printed.commaJoined_cons, List.append_assoc] at hc
  rw [List.map_cons, Printed.commaJoined_cons, List.length_append] at hfuel
  obtain ⟨y, tail, htail, hy, hcolon⟩ : ∃ y tail, Printed.commaTail (xs.map chunk) ++
      .symbol .closeBrace :: rest = .symbol y :: tail ∧ joinRank (.symbol y) < expression.rank ∧
        y ≠ .colon := by
    cases xs with
    | nil => exact ⟨.closeBrace, rest, rfl, by decide, by decide⟩
    | cons z zs => exact ⟨.comma, _, rfl, by decide, by decide⟩
  rw [read_braceDisplay_eq, hx.not_close hc]
  refine (hx.first f c _ hc (htail ▸ .cons hy _) (by rw [htail]; simpa using hcolon)
    (by omega)).bind fun d hd => ?_
  simp only [not_atComprehension (hd.trans htail), Bool.false_eq_true, if_false]
  have hrounds : Yields (rounds (entryRound f dict) () d) () (.symbol .closeBrace :: rest) := by
    have hfold : xs.foldl (fun _ _ => ()) () = () := rfl
    rw [← hfold]
    rw [commaTail_map] at hd
    refine rounds_flatMap (Stops expression.rank) (fun z _ => List.cons_ne_nil _ _) ?_
      (.cons (by decide) _) (fun z _ ks => .cons (by decide) _) ?_ hd
    · intro v e he
      have hcomma : e.eat? .comma = none := eat?_of_head (by rw [he]; simp)
      exact ⟨e, by rw [entryRound, hcomma], he⟩
    · intro z hz v e ks stops he
      have hlength := Printed.length_lt_commaTail (List.mem_map_of_mem (f := chunk) hz)
      exact (hxs z hz).more f e ks he stops (by omega)
  refine hrounds.bind fun e he => ?_
  exact (arrives_expect he).bind fun g hg => .ok hg

/-- A comprehension of a set or of a dictionary. -/
theorem fills_entry_comprehension {dict : Bool} {ks ls : List Token.Kind} (h : EntryReads dict ks)
    (hl : Loops ls) : Fills .braceDisplay .closeBrace (ks ++ ls) .value := by
  refine .of_succ fun f c rest hc hfuel => ?_
  rw [List.append_assoc] at hc
  rw [List.length_append] at hfuel
  have hcolon : (ls ++ .symbol .closeBrace :: rest).head? ≠ some (.symbol .colon) := by
    obtain ⟨isAsync, tail, rfl⟩ := hl.opens
    cases isAsync <;> simp [loopWords]
  rw [read_braceDisplay_eq, h.not_close hc]
  refine (h.first f c _ hc (hl.stops (by decide) _) hcolon (by omega)).bind fun d hd => ?_
  simp only [hl.atComprehension hd, if_true]
  refine (hl.yields f d _ rest hd (by decide) (by omega)).bind fun e he => ?_
  exact (arrives_expect he).bind fun g hg => .ok hg

end DeclaredSchema.Source.Tree
