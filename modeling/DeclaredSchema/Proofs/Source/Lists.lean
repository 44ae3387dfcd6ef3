import DeclaredSchema.Proofs.Source.Operators

/-! # Items, lists and loops

Items between commas make a list, and whether it is a target depends on all of them. A loop binds a
list of targets that stop in front of `in`.
-/

namespace DeclaredSchema.Source.Tree

open Cursor Strength

theorem starts_of_openRank {k : Token.Kind} (h : 0 < openRank k) : starts k = true := by
  cases k with
  | name w =>
      rw [openRank] at h
      rw [starts]
      by_cases hw : isKeyword w = true
      case neg => simp [hw]
      by_cases hword : w ∈ expressionKeywords
      · simp [hword]
      · simp only [expressionKeywords, List.mem_cons, List.not_mem_nil, or_false, not_or] at hword
        simp [hword, hw] at h
  | symbol s => cases s <;> first | rfl | cases h
  | number _ | str _ _ => rfl
  | _ => cases h

theorem starts_eq_false {k : Token.Kind} (h : openRank k = 0) : starts k = false := by
  cases k with
  | name w =>
      rw [openRank] at h
      rw [starts]
      by_cases hword : w ∈ expressionKeywords
      · simp only [expressionKeywords, List.mem_cons, List.not_mem_nil, or_false] at hword
        rcases hword with rfl | rfl | rfl | rfl | rfl | rfl <;> cases h
      · by_cases hw : isKeyword w = true
        · simp [hw, hword]
        · simp only [expressionKeywords, List.mem_cons, List.not_mem_nil, or_false, not_or] at hword
          simp [hword, hw, rank] at h
  | symbol s => cases s <;> first | rfl | cases h
  | number _ | str _ _ => cases h
  | _ => rfl

/-- An expression of the rank, and a list of such, ends here. -/
def Ends (n : Nat) (rest : List Token.Kind) : Prop :=
  ∀ k, rest.head? = some k → joinRank k < n ∧ k ≠ .symbol .comma ∧ openRank k = 0

namespace Ends

variable {n : Nat} {rest : List Token.Kind}

theorem nil : Ends n [] := by
  intro k hk
  cases hk

theorem cons {k : Token.Kind} (joins : joinRank k < n) (comma : k ≠ .symbol .comma)
    (opens : openRank k = 0) (ks : List Token.Kind) : Ends n (k :: ks) := by
  intro j hj
  obtain rfl := Option.some.inj hj
  exact ⟨joins, comma, opens⟩

theorem stops (h : Ends n rest) : Stops n rest := fun k hk => (h k hk).1

theorem eat?_comma (h : Ends n rest) {c : Cursor} (hc : c.kinds = rest) : c.eat? .comma = none :=
  eat?_of_head (hc ▸ fun hhead => (h _ hhead).2.1 rfl)

theorem startsExpression (h : Ends n rest) {c : Cursor} (hc : c.kinds = rest) :
    c.startsExpression = false := by
  rw [startsExpression_eq, hc]
  cases hrest : rest.head? with
  | none => rfl
  | some k => exact starts_eq_false (h k hrest).2.2

end Ends

/-! ## Items -/

/-- Where the items of a list stand, unless they have a star. -/
def place : Element → Strength
  | .star => expression
  | .starNamed => expression
  | .target => chain .bitOr

theorem expression_le_place (element : Element) : expression.rank ≤ (place element).rank := by
  cases element <;> decide

/-- The tokens are an item of a list. -/
structure ItemReads (element : Element) (ks : List Token.Kind) (s : Shape) : Prop
    extends Phrase list.rank ks where
  yields : ∀ fuel c rest, c.kinds = ks ++ rest → Stops (place element).rank rest →
    24 * ks.length ≤ fuel + 7 → Yields (Rule.read fuel (.item element) c) s rest

theorem read_item_eq (fuel : Nat) (element : Element) (c : Cursor) :
    Rule.read (fuel + 1) (.item element) c = match c.eat? .star with
      | some c => do
        let (shape, c) ← Rule.read fuel (.chain .bitOr) c
        .ok (shape.behindStar, c)
      | none => match element with
        | .star => Rule.read fuel .expression c
        | .starNamed => Rule.read fuel .named c
        | .target => Rule.read fuel (.chain .bitOr) c := rfl

theorem Phrase.second_ne_walrus {n : Nat} {ks rest : List Token.Kind} (h : Phrase n ks) {m : Nat}
    (stops : Stops m rest) (hm : m ≤ primary.rank) {c : Cursor} (hc : c.kinds = ks ++ rest) :
    c.second?.any (·.isSymbol .walrus) = false := by
  rw [second?_isSymbol, hc, decide_eq_false_iff_not]
  obtain ⟨k, tail, rfl, -⟩ := h.opens
  cases tail with
  | nil => exact stops.head hm
  | cons j tail =>
      intro hj
      obtain rfl : j = .symbol .walrus := Option.some.inj hj
      rcases h.second k _ tail rfl with hconnects | ⟨-, hid⟩
      · cases hconnects
      · cases hid

namespace Reads

variable {ks rest : List Token.Kind} {s : Shape} {fuel : Nat} {c : Cursor}

theorem named (h : Reads .expression ks s) (hc : c.kinds = ks ++ rest)
    (stops : Stops expression.rank rest) (hfuel : 24 * ks.length ≤ fuel + 8) :
    Yields (Rule.read fuel .named c) s rest := by
  have hpos := h.length_pos
  obtain ⟨f, rfl⟩ : ∃ f, fuel = f + 1 := ⟨fuel - 1, by omega⟩
  have hwalrus := h.toPhrase.second_ne_walrus stops (by decide) hc
  rw [Rule.read, hwalrus, Bool.and_false]
  exact h.yields hc stops (by simp only [rank]; omega)

theorem item {element : Element} (h : Reads (place element) ks s) : ItemReads element ks s where
  toPhrase := h.toPhrase.mono (by cases element <;> decide)
  yields fuel c rest hc stops hfuel := by
    have hpos := h.length_pos
    obtain ⟨f, rfl⟩ : ∃ f, fuel = f + 1 := ⟨fuel - 1, by omega⟩
    have hstar : c.eat? .star = none :=
      eat?_of_head (hc ▸ h.toPhrase.head_ne rest (by cases element <;> decide))
    rw [read_item_eq, hstar]
    cases element with
    | star => exact h.yields hc stops (by simp only [place, rank]; omega)
    | starNamed => exact named h hc stops (by omega)
    | target => exact h.yields hc stops (by simp only [place, rank]; omega)

theorem starItem (element : Element) (h : Reads (.chain .bitOr) ks s) :
    ItemReads element (.symbol .star :: ks) s.behindStar where
  toPhrase := .cons (Nat.le_refl _) rfl (h.toPhrase.mono (by decide))
  yields fuel c rest hc stops hfuel := by
    simp only [List.length_cons] at hfuel
    obtain ⟨f, rfl⟩ : ∃ f, fuel = f + 1 := ⟨fuel - 1, by omega⟩
    have hoperand : Yields (Rule.read f (.chain .bitOr) c.advance) s rest :=
      h.yields (kinds_advance hc) (stops.mono (by cases element <;> decide))
        (by simp only [rank]; omega)
    rw [read_item_eq, eat?_of_kinds hc]
    exact hoperand.bind fun d hd => .ok hd

end Reads

/-! ## Lists -/

/-- One more item of a list without brackets. -/
def listRound (item : Cursor → Rule.Reading) (fit : Bool) (c : Cursor) :
    Except SyntaxError (Round Bool) :=
  match c.eat? .comma with
  | none => .ok (.stop fit c)
  | some c =>
    if !c.startsExpression then .ok (.stop fit c)
    else do
      let (shape, c) ← item c
      .ok (.again (fit && shape.fitsSequence) c)

theorem read_listOf_eq (fuel : Nat) (element : Element) (c : Cursor) :
    Rule.read (fuel + 1) (.listOf element) c = (do
      let (first, c) ← Rule.read fuel (.item element) c
      if !c.atSymbol .comma then .ok (first, c)
      else
        let (fit, c) ← rounds (listRound (Rule.read fuel (.item element))) first.fitsSequence c
        .ok (.ofItems fit, c)) := rfl

theorem foldl_and_all {β : Type} (p : β → Bool) (b : Bool) (xs : List β) :
    xs.foldl (fun fit x => fit && p x) b = (b && xs.all p) := by
  induction xs generalizing b with
  | nil => simp
  | cons x xs ih => rw [List.foldl_cons, ih, List.all_cons, Bool.and_assoc]

theorem commaTail_map {β : Type} (chunk : β → List Token.Kind) (xs : List β) :
    Printed.commaTail (xs.map chunk) = xs.flatMap fun x => .symbol .comma :: chunk x := by
  rw [Printed.commaTail, List.flatMap_map]

/-- The tokens are a list of items without brackets around it. -/
structure ListReads (element : Element) (ks : List Token.Kind) (s : Shape) : Prop
    extends Phrase list.rank ks where
  yields : ∀ fuel c rest, c.kinds = ks ++ rest → Ends (place element).rank rest →
    24 * ks.length ≤ fuel + 6 → Yields (Rule.read fuel (.listOf element) c) s rest

/-- A single item. -/
theorem ItemReads.list {element : Element} {ks : List Token.Kind} {s : Shape}
    (h : ItemReads element ks s) : ListReads element ks s where
  toPhrase := h.toPhrase
  yields fuel c rest hc ends hfuel := by
    have hpos := h.length_pos
    obtain ⟨f, rfl⟩ : ∃ f, fuel = f + 1 := ⟨fuel - 1, by omega⟩
    rw [read_listOf_eq]
    refine (h.yields f c rest hc ends.stops (by omega)).bind fun d hd => ?_
    have hcomma : d.atSymbol .comma = false := by
      rw [atSymbol_eq, hd, decide_eq_false_iff_not]
      exact fun hhead => (ends _ hhead).2.1 rfl
    simp only [hcomma, Bool.not_false, if_true]
    exact .ok hd

section Items

variable {β : Type} {chunk : β → List Token.Kind} {shape : β → Shape} {element : Element}
  {x : β} {xs : List β}

theorem phrase_commaJoined {n : Nat} (h : ∀ y ∈ x :: xs, Phrase n (chunk y)) :
    Phrase n (Printed.commaJoined ((x :: xs).map chunk)) := by
  induction xs generalizing x with
  | nil =>
      rw [List.map_cons, List.map_nil, Printed.commaJoined_singleton]
      exact h x List.mem_cons_self
  | cons y ys ih =>
      obtain ⟨hx, hys⟩ := List.forall_mem_cons.mp h
      rw [List.map_cons, List.map_cons, Printed.commaJoined_cons_cons, ← List.map_cons]
      exact hx.append rfl ((ih hys).closes_append [_])

theorem phrase_tupled (h : ∀ y ∈ x :: xs, Phrase list.rank (chunk y)) :
    Phrase list.rank (tupled ((x :: xs).map chunk)) := by
  cases xs with
  | nil => exact (h x List.mem_cons_self).append rfl (by decide)
  | cons y ys => exact phrase_commaJoined h

/-- The items of a list after the first one. -/
theorem listRounds_reads (fuel : Nat) (h : ∀ y ∈ xs, ItemReads element (chunk y) (shape y))
    {c : Cursor} {rest : List Token.Kind}
    (hc : c.kinds = Printed.commaTail (xs.map chunk) ++ rest)
    (ends : Ends (place element).rank rest)
    (hfuel : ∀ y ∈ xs, 24 * (chunk y).length ≤ fuel + 7) (fit : Bool) :
    Yields (rounds (listRound (Rule.read fuel (.item element))) fit c)
      (fit && xs.all fun y => (shape y).fitsSequence) rest := by
  rw [commaTail_map] at hc
  rw [← foldl_and_all]
  refine rounds_flatMap (Stops (place element).rank) (fun y _ => List.cons_ne_nil _ _) ?_
    ends.stops (fun y _ ks => ?_) ?_ hc
  · intro v d hd
    exact ⟨d, by rw [listRound, ends.eat?_comma hd], hd⟩
  · exact .cons (by cases element <;> decide) _
  · intro y hy v d ks stops hd
    have hitem := h y hy
    have hstart : d.advance.startsExpression = true := by
      obtain ⟨k, tail, hk, hopen⟩ := hitem.toPhrase.opens
      rw [startsExpression_eq, kinds_advance hd, hk]
      exact starts_of_openRank hopen
    obtain ⟨e, hread, he⟩ := hitem.yields fuel d.advance ks (kinds_advance hd) stops (hfuel y hy)
    refine ⟨e, ?_, he⟩
    rw [listRound, eat?_of_kinds hd]
    simp only [hstart, Bool.not_true, Bool.false_eq_true, if_false, hread]
    rfl

/-- Items with commas, the last of which may only be left out behind several. -/
theorem listReads_tupled (h : ∀ y ∈ x :: xs, ItemReads element (chunk y) (shape y)) :
    ListReads element (tupled ((x :: xs).map chunk))
      (.ofItems ((x :: xs).all fun y => (shape y).fitsSequence)) where
  toPhrase := phrase_tupled fun y hy => (h y hy).toPhrase
  yields fuel c rest hc ends hfuel := by
    obtain ⟨hx, hxs⟩ := List.forall_mem_cons.mp h
    have hpos := hx.length_pos
    have hstop (ks : List Token.Kind) :
        Stops (place element).rank (Token.Kind.symbol .comma :: ks) :=
      .cons (by cases element <;> decide) _
    rw [List.all_cons]
    -- A single item has its comma behind it, several have commas only between them.
    cases xs with
    | nil =>
        change c.kinds = chunk x ++ [.symbol .comma] ++ rest at hc
        change 24 * (chunk x ++ [Token.Kind.symbol .comma]).length ≤ fuel + 6 at hfuel
        rw [List.append_assoc] at hc
        rw [List.length_append, List.length_singleton] at hfuel
        obtain ⟨f, rfl⟩ : ∃ f, fuel = f + 1 := ⟨fuel - 1, by omega⟩
        rw [read_listOf_eq]
        refine (hx.yields f c _ hc (hstop _) (by omega)).bind fun d hd => ?_
        have hcomma : d.atSymbol .comma = true := by
          rw [atSymbol_eq, hd]
          rfl
        have hround : listRound (Rule.read f (.item element)) (shape x).fitsSequence d =
            .ok (.stop (shape x).fitsSequence d.advance) := by
          rw [listRound, eat?_of_kinds hd]
          simp [ends.startsExpression (kinds_advance hd)]
        rw [List.all_nil, Bool.and_true]
        simp only [hcomma, Bool.not_true, Bool.false_eq_true, if_false, rounds_stop hround]
        exact .ok (kinds_advance hd)
    | cons y ys =>
        change c.kinds = Printed.commaJoined (chunk x :: (y :: ys).map chunk) ++ rest at hc
        change 24 * (Printed.commaJoined (chunk x :: (y :: ys).map chunk)).length ≤ fuel + 6
          at hfuel
        rw [Printed.commaJoined_cons, List.append_assoc] at hc
        rw [Printed.commaJoined_cons, List.length_append] at hfuel
        obtain ⟨f, rfl⟩ : ∃ f, fuel = f + 1 := ⟨fuel - 1, by omega⟩
        rw [read_listOf_eq]
        refine (hx.yields f c _ hc (hstop _) (by omega)).bind fun d hd => ?_
        have hcomma : d.atSymbol .comma = true := by
          rw [atSymbol_eq, hd]
          rfl
        have hrounds := listRounds_reads f hxs hd ends (fun z hz => by
          have := Printed.length_lt_commaTail (List.mem_map_of_mem (f := chunk) hz)
          omega) (shape x).fitsSequence
        simp only [hcomma, Bool.not_true, Bool.false_eq_true, if_false]
        exact hrounds.bind fun e he => .ok he

end Items

/-! ## Loops -/

/-- One more condition of a loop. -/
def conditionRound (fuel : Nat) (_ : Unit) (c : Cursor) : Except SyntaxError (Round Unit) :=
  match c.eatName? "if" with
  | none => .ok (.stop () c)
  | some c => do
    let (_, c) ← Rule.read fuel (.chain .disjunction) c
    .ok (.again () c)

/-- One more loop of a comprehension. -/
def loopRound (fuel : Nat) (_ : Unit) (c : Cursor) : Except SyntaxError (Round Unit) :=
  if !c.atComprehension then .ok (.stop () c)
  else do
    let c := ((c.eatName? "async").getD c).advance
    let (target, c) ← Rule.read fuel (.listOf .target) c
    checkTarget target.assignable c
    let c ← c.expectName "in"
    let (_, c) ← Rule.read fuel (.chain .disjunction) c
    let (_, c) ← rounds (conditionRound fuel) () c
    .ok (.again () c)

theorem read_comprehension_eq (fuel : Nat) (c : Cursor) :
    Rule.read (fuel + 1) .comprehension c = (do
      let (_, c) ← rounds (loopRound fuel) () c
      .ok (.value, c)) := rfl

/-- The words that a loop begins with. -/
def loopWords (isAsync : Bool) : List Token.Kind :=
  if isAsync then [.name "async", .name "for"] else [.name "for"]

theorem atComprehension_loop {isAsync : Bool} {c : Cursor} {ks : List Token.Kind}
    (hc : c.kinds = loopWords isAsync ++ ks) : c.atComprehension = true := by
  rw [atComprehension, atName_eq, atName_eq, second?_isName, hc]
  cases isAsync <;> rfl

theorem not_atComprehension {c : Cursor} {y : Symbol} {tail : List Token.Kind}
    (hc : c.kinds = .symbol y :: tail) : c.atComprehension = false := by
  simp [atComprehension, atName_eq, hc]

theorem kinds_loop {isAsync : Bool} {c : Cursor} {ks : List Token.Kind}
    (hc : c.kinds = loopWords isAsync ++ ks) :
    ((c.eatName? "async").getD c).advance.kinds = ks := by
  cases isAsync with
  | false =>
      have hasync : c.eatName? "async" = none :=
        eatName?_of_head (by rw [hc]; simp [loopWords])
      rw [hasync]
      exact kinds_advance hc
  | true =>
      rw [eatName?_of_kinds hc]
      exact kinds_advance (kinds_advance hc)

/-- The tokens are a loop with its conditions. -/
structure LoopReads (ks : List Token.Kind) : Prop where
  opens : ∃ isAsync tail, ks = loopWords isAsync ++ tail
  goes : ∀ fuel c rest, c.kinds = ks ++ rest → Stops expression.rank rest →
    24 * ks.length ≤ fuel + 1 → ∃ d, loopRound fuel () c = .ok (.again () d) ∧ d.kinds = rest

/-- The conditions of a loop. -/
theorem conditions_read (fuel : Nat) {β : Type} {chunk : β → List Token.Kind}
    {conditions : List β} (h : ∀ x ∈ conditions, ∃ s, Reads (.chain .disjunction) (chunk x) s)
    {c : Cursor} {rest : List Token.Kind}
    (hc : c.kinds = conditions.flatMap (fun x => .name "if" :: chunk x) ++ rest)
    (stops : Stops expression.rank rest) (hfuel : ∀ x ∈ conditions, 24 * (chunk x).length ≤ fuel) :
    Yields (rounds (conditionRound fuel) () c) () rest := by
  have hfold : conditions.foldl (fun _ _ => ()) () = () := rfl
  rw [← hfold]
  refine rounds_flatMap (Stops (chain .disjunction).rank)
    (fun x _ => List.cons_ne_nil _ _) ?_ (stops.mono (by decide)) (fun x _ ks => ?_) ?_ hc
  · intro v d hd
    have hif : d.eatName? "if" = none := eatName?_of_head (hd ▸ stops.head (by decide))
    exact ⟨d, by rw [conditionRound, hif], hd⟩
  · exact .cons (by decide) _
  · intro x hx v d ks hks hd
    obtain ⟨s, hread⟩ := h x hx
    obtain ⟨e, hcondition, he⟩ : Yields (Rule.read fuel (.chain .disjunction) d.advance) s ks :=
      hread.yields (kinds_advance hd) hks (by have := hfuel x hx; simp only [rank]; omega)
    refine ⟨e, ?_, he⟩
    rw [conditionRound, eatName?_of_kinds hd]
    dsimp only
    rw [hcondition]
    rfl

theorem loopReads (isAsync : Bool) {target iterated : List Token.Kind} {t s : Shape} {β : Type}
    {chunk : β → List Token.Kind} {conditions : List β} (ht : ListReads .target target t)
    (assignable : t.assignable = true) (hi : Reads (.chain .disjunction) iterated s)
    (hconditions : ∀ x ∈ conditions, ∃ s, Reads (.chain .disjunction) (chunk x) s) :
    LoopReads (loopWords isAsync ++ (target ++ .name "in" ::
      (iterated ++ conditions.flatMap fun x => .name "if" :: chunk x))) where
  opens := ⟨isAsync, _, rfl⟩
  goes fuel c rest hc stops hfuel := by
    rw [List.append_assoc] at hc
    have hwords := atComprehension_loop hc
    have hkinds := kinds_loop hc
    simp only [List.append_assoc, List.cons_append] at hkinds
    simp only [List.length_append, List.length_cons] at hfuel
    have hin : Ends (place .target).rank (.name "in" ::
        (iterated ++ (conditions.flatMap (fun x => .name "if" :: chunk x) ++ rest))) :=
      .cons (by decide) (by simp) (by decide) _
    obtain ⟨d, htarget, hd⟩ := ht.yields fuel _ _ hkinds hin (by omega)
    obtain ⟨e, hexpect, he⟩ := arrives_expectName hd
    have hbehind : Stops (chain .disjunction).rank
        (conditions.flatMap (fun x => .name "if" :: chunk x) ++ rest) := by
      cases conditions with
      | nil => exact stops.mono (by decide)
      | cons x xs => exact .cons (by decide) _
    obtain ⟨f, hiterated, hf⟩ : Yields (Rule.read fuel (.chain .disjunction) e) s
        (conditions.flatMap (fun x => .name "if" :: chunk x) ++ rest) :=
      hi.yields he hbehind (by simp only [rank]; omega)
    obtain ⟨g, hrounds, hg⟩ := conditions_read fuel hconditions hf stops (fun x hx => by
      have := length_le_flatMap_of_mem (fun x => Token.Kind.name "if" :: chunk x) hx
      rw [List.length_cons] at this
      omega)
    refine ⟨g, ?_, hg⟩
    simp only [loopRound, hwords, Bool.not_true, Bool.false_eq_true, if_false]
    rw [htarget]
    simp only [Rule.ok_bind, checkTarget, assignable, if_true, hexpect, hiterated, hrounds]

/-- The tokens are the loops of a comprehension. -/
structure Loops (ks : List Token.Kind) : Prop where
  opens : ∃ isAsync tail, ks = loopWords isAsync ++ tail
  yields : ∀ fuel c y tail, c.kinds = ks ++ .symbol y :: tail →
    joinRank (.symbol y) < expression.rank → 24 * ks.length ≤ fuel →
      Yields (Rule.read fuel .comprehension c) .value (.symbol y :: tail)

theorem stops_loop {n : Nat} (hn : 0 < n) (isAsync : Bool) (ks : List Token.Kind) :
    Stops n (loopWords isAsync ++ ks) := by
  cases isAsync <;> exact .cons (Nat.lt_of_le_of_lt (by decide) hn) _

namespace Loops

variable {ls : List Token.Kind} (h : Loops ls)
include h

theorem atComprehension {c : Cursor} {rest : List Token.Kind} (hc : c.kinds = ls ++ rest) :
    c.atComprehension = true := by
  obtain ⟨isAsync, tail, rfl⟩ := h.opens
  rw [List.append_assoc] at hc
  exact atComprehension_loop hc

theorem stops {n : Nat} (hn : 0 < n) (rest : List Token.Kind) : Stops n (ls ++ rest) := by
  obtain ⟨isAsync, tail, rfl⟩ := h.opens
  rw [List.append_assoc]
  exact stops_loop hn isAsync _

end Loops

theorem loops {β : Type} {chunk : β → List Token.Kind} {x : β} {xs : List β}
    (h : ∀ y ∈ x :: xs, LoopReads (chunk y)) : Loops (chunk x ++ xs.flatMap chunk) where
  opens := by
    obtain ⟨isAsync, tail, hx⟩ := (h x List.mem_cons_self).opens
    exact ⟨isAsync, tail ++ xs.flatMap chunk, by rw [hx, List.append_assoc]⟩
  yields fuel c y tail hc joins hfuel := by
    have hstops : Stops expression.rank (.symbol y :: tail) := .cons joins _
    have hne : ∀ z ∈ x :: xs, chunk z ≠ [] := by
      intro z hz
      obtain ⟨isAsync, rest, hz⟩ := (h z hz).opens
      rw [hz]
      cases isAsync <;> exact List.cons_ne_nil _ _
    have hlength := List.length_pos_iff.mpr (hne x List.mem_cons_self)
    rw [← List.flatMap_cons] at hc hfuel
    have hpos : 0 < ((x :: xs).flatMap chunk).length := by
      rw [List.flatMap_cons, List.length_append]
      omega
    obtain ⟨f, rfl⟩ : ∃ f, fuel = f + 1 := ⟨fuel - 1, by omega⟩
    have hrounds : Yields (rounds (loopRound f) () c) () (.symbol y :: tail) := by
      have hfold : (x :: xs).foldl (fun _ _ => ()) () = () := rfl
      rw [← hfold]
      refine rounds_flatMap (Stops expression.rank) hne ?_ hstops (fun z hz ks => ?_) ?_ hc
      · intro v d hd
        refine ⟨d, ?_, hd⟩
        simp [loopRound, atComprehension, atName_eq, hd]
      · obtain ⟨isAsync, rest, hz⟩ := (h z hz).opens
        rw [hz, List.append_assoc]
        exact stops_loop (by decide) _ _
      · intro z hz v d ks hks hd
        exact (h z hz).goes f d ks hd hks (by
          have := length_le_flatMap_of_mem chunk hz
          omega)
    rw [read_comprehension_eq]
    exact hrounds.bind fun d hd => .ok hd

end DeclaredSchema.Source.Tree
