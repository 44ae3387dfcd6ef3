import DeclaredSchema.Proofs.Source.Calls
import DeclaredSchema.Proofs.Source.Displays
import DeclaredSchema.Proofs.Source.Targets

/-! # Every tree is read back

What the grammar finds out about the tokens of a tree is the shape of the tree. The proof follows
the trees: an expression is readable in every place once its parts are.
-/

namespace DeclaredSchema.Source.Tree

open Strength

/-! ## Readable expressions -/

/-- The tokens are an expression of the strength, in parentheses and without them. -/
structure Readable (element : Element) (p : Strength) (ks : List Token.Kind) (s : Shape) :
    Prop where
  fills : Fills .parenthesized .closeParen ks s
  heads : ∀ k, ks.head? = some k → Leads k
  reads : expression.rank ≤ p.rank → Reads p ks s
  items : list.rank ≤ p.rank → ListReads element ks s

namespace Readable

variable {element : Element} {ks : List Token.Kind} {s : Shape}

theorem of_reads (p : Strength) (h : Reads p ks s) (hp : (place element).rank ≤ p.rank)
    (hs : s ≠ .starred) : Readable element p ks s where
  fills := by
    have hexpression : Reads .expression ks s :=
      h.weaken (Nat.le_trans (expression_le_place element) hp) (Nat.le_refl _)
    exact fills_expression hexpression hs
  heads := by
    have hpos : 0 < p.rank :=
      Nat.lt_of_lt_of_le (Nat.zero_lt_succ 1) (Nat.le_trans (expression_le_place element) hp)
    simpa using h.toPhrase.heads hpos []
  reads _ := h
  items _ := (Reads.item (h.weaken hp (expression_le_place element))).list

/-- An expression that may stand nowhere without parentheses. -/
theorem enclosed (h : Fills .parenthesized .closeParen ks s)
    (heads : ∀ k, ks.head? = some k → Leads k) : Readable element .enclosed ks s where
  fills := h
  heads := heads
  reads hp := absurd hp (by decide)
  items hp := absurd hp (by decide)

theorem tuple {β : Type} {chunk : β → List Token.Kind} {shape : β → Shape} {x : β} {xs : List β}
    (hparen : ∀ y ∈ x :: xs, ItemReads .starNamed (chunk y) (shape y))
    (hbare : ∀ y ∈ x :: xs, ItemReads element (chunk y) (shape y)) :
    Readable element .list (tupled ((x :: xs).map chunk))
      (.ofItems ((x :: xs).all fun y => (shape y).fitsSequence)) where
  fills := fills_tupled hparen
  heads := by
    have hphrase := phrase_tupled fun y hy => (hparen y hy).toPhrase
    simpa using hphrase.heads (by decide) []
  reads hp := absurd hp (by decide)
  items _ := listReads_tupled hbare

variable {p : Strength} (h : Readable element p ks s)
include h

theorem parenthesized : Reads .primary (bracketed .paren ks) s :=
  Reads.display .paren h.fills h.heads

/-- Every place for expressions takes it, with parentheses where they are needed. -/
theorem fitted (q : Strength) (hq : expression.rank ≤ q.rank) : Reads q (fitted q p ks) s := by
  rw [Tree.fitted]
  split
  case isTrue hle => exact (h.reads (Nat.le_trans hq hle)).weaken hle hq
  case isFalse => exact h.parenthesized.weaken q.rank_le_primary hq

/-- A place for a list takes it. -/
theorem list : ListReads element (Tree.fitted .list p ks) s := by
  rw [Tree.fitted]
  split
  case isTrue hp => exact h.items hp
  case isFalse =>
    exact (Reads.item (h.parenthesized.weaken (rank_le_primary _) (expression_le_place _))).list

end Readable

namespace Reads

/-! ## Parts of a tree that are lists -/

variable {β : Type} {chunk : β → List Token.Kind}

theorem list {shape : β → Shape} {xs : List β}
    (h : ∀ x ∈ xs, ItemReads .starNamed (chunk x) (shape x)) :
    Reads .primary (bracketed .square (Printed.commaJoined (xs.map chunk)))
      (.ofItems (xs.all fun x => (shape x).fitsSequence)) := by
  cases xs with
  | nil => exact Reads.display .square fills_empty_list (by simp [Printed.commaJoined])
  | cons x xs =>
      have hphrase := phrase_commaJoined fun y hy => (h y hy).toPhrase
      refine Reads.display .square (fills_list h) ?_
      simpa using hphrase.heads (by decide) []

/-- The items of a set, or the entries of a dictionary. -/
theorem entries {dict : Bool} {x : β} {xs : List β} (h : ∀ y ∈ x :: xs, EntryReads dict (chunk y)) :
    Reads .primary (bracketed .brace (Printed.commaJoined ((x :: xs).map chunk))) .value := by
  refine Reads.display .brace (fills_entries h) ?_
  obtain ⟨k, tail, hx, -, hk⟩ := (h x List.mem_cons_self).opens
  rw [List.map_cons, Printed.commaJoined_cons, hx]
  intro j hj
  obtain rfl : k = j := Option.some.inj hj
  exact hk

/-- A comparison with one more after another. -/
theorem comparisons {cs : List β}
    (h : ∀ c ∈ cs, ∀ ks s, Reads (.chain .comparison) ks s →
      Reads (.chain .comparison) (ks ++ chunk c) .value)
    {ks : List Token.Kind} (hks : Reads (.chain .comparison) ks .value) :
    Reads (.chain .comparison) (ks ++ cs.flatMap chunk) .value := by
  induction cs generalizing ks with
  | nil => simpa using hks
  | cons c cs ih =>
      obtain ⟨hc, hcs⟩ := List.forall_mem_cons.mp h
      rw [List.flatMap_cons, ← List.append_assoc]
      exact ih hcs (hc ks .value hks)

end Reads

/-! ## Trees -/

theorem Target.list_le_strength (t : Target) : Strength.list.rank ≤ t.strength.rank := by
  cases t with
  | tuple items => cases items <;> simp [strength, rank]
  | _ => simp [strength, rank]

theorem ofItems_map {β : Type} (shape : β → Shape) (xs : List β) :
    Shape.ofItems ((xs.map shape).all (·.fitsSequence)) =
      .ofItems (xs.all fun x => (shape x).fitsSequence) := by
  rw [List.all_map]
  rfl

-- In every case the parts of the tree are read first: once the tokens of the tree are spelled out,
-- nothing tells any more that its parts are smaller.
mutual

theorem Expr.readable (e : Expr) : Readable .star e.strength e.raw e.shape := by
  cases e with
  | name n =>
      rw [Expr.raw, Expr.shape]
      exact .of_reads .primary (.name n) (by decide) (by decide)
  | constant c =>
      rw [Expr.raw, Expr.shape]
      exact .of_reads .primary (.constant c) (by decide) (by decide)
  | number text =>
      rw [Expr.raw, Expr.shape]
      exact .of_reads .primary (.number text) (by decide) (by decide)
  | string value plain =>
      rw [Expr.raw, Expr.shape]
      exact .of_reads .primary (.string value plain) (by decide) (by decide)
  | ellipsis =>
      rw [Expr.raw, Expr.shape]
      exact .of_reads .primary .ellipsis (by decide) (by decide)
  | member v n =>
      have hv := v.readable.fitted .primary (by decide)
      rw [Expr.raw, Expr.shape]
      exact .of_reads .primary (hv.member n) (by decide) (by decide)
  | call f args =>
      have hf := f.readable.fitted .primary (by decide)
      have hargs := fills_arguments fun a (ha : a ∈ args) => a.reads
      rw [Expr.raw, Expr.shape]
      exact .of_reads .primary (hf.call hargs) (by decide) (by decide)
  | subscript v first rest =>
      have hv := v.readable.fitted .primary (by decide)
      have hslices := fills_slices
        (List.forall_mem_cons.mpr ⟨first.reads, fun i (hi : i ∈ rest) => i.reads⟩)
      rw [List.map_cons, Printed.commaJoined_cons] at hslices
      rw [Expr.raw, Expr.shape]
      exact .of_reads .primary (hv.subscript hslices) (by decide) (by decide)
  | tuple items =>
      have hitems (element : Element) (helement : place element = .expression) (i : Item)
          (hi : i ∈ items) := i.reads element helement
      rw [Expr.raw, Expr.shape, ofItems_map]
      cases items with
      | nil =>
          have hempty := Reads.display .paren fills_empty_tuple (by simp)
          exact .of_reads .primary hempty (by decide) (by decide)
      | cons x xs => exact .tuple (hitems .starNamed rfl) (hitems .star rfl)
  | list items =>
      have hitems := Reads.list fun i (hi : i ∈ items) => i.reads .starNamed rfl
      rw [Expr.raw, Expr.shape, ofItems_map]
      refine .of_reads .primary hitems (by decide) ?_
      rw [Shape.ofItems]
      split <;> decide
  | set first rest =>
      have hentries := Reads.entries (List.forall_mem_cons.mpr
        ⟨(first.reads .starNamed rfl).entry,
          fun i (hi : i ∈ rest) => (i.reads .starNamed rfl).entry⟩)
      rw [List.map_cons, Printed.commaJoined_cons] at hentries
      rw [Expr.raw, Expr.shape]
      exact .of_reads .primary hentries (by decide) (by decide)
  | dict entries =>
      have hentries (d : Entry) (hd : d ∈ entries) := d.reads
      rw [Expr.raw, Expr.shape]
      cases entries with
      | nil =>
          have hempty := Reads.display .brace fills_empty_dict (by simp)
          exact .of_reads .primary hempty (by decide) (by decide)
      | cons d ds => exact .of_reads .primary (Reads.entries hentries) (by decide) (by decide)
  | comprehension bracket e first rest =>
      have he := e.readable.fitted .expression (by decide)
      have hl := loops (List.forall_mem_cons.mpr ⟨first.reads, fun l (hl : l ∈ rest) => l.reads⟩)
      have hheads := he.toPhrase.heads (by decide) (first.raw ++ rest.flatMap Loop.raw)
      cases bracket with
      | paren =>
          rw [Expr.raw, Expr.shape]
          exact .enclosed (fills_generator he hl) hheads
      | square =>
          rw [Expr.raw, Expr.shape]
          have hlist := Reads.display .square (fills_list_comprehension he hl) hheads
          exact .of_reads .primary hlist (by decide) (by decide)
      | brace =>
          rw [Expr.raw, Expr.shape]
          have hitem : ItemReads .starNamed _ _ := Reads.item he
          have hset := Reads.display .brace (fills_entry_comprehension hitem.entry hl) hheads
          exact .of_reads .primary hset (by decide) (by decide)
  | dictComprehension k v first rest =>
      have hk := k.readable.fitted .expression (by decide)
      have hv := v.readable.fitted .expression (by decide)
      have hl := loops (List.forall_mem_cons.mpr ⟨first.reads, fun l (hl : l ∈ rest) => l.reads⟩)
      have hfills := fills_entry_comprehension (entryReads_pair hk hv) hl
      rw [List.append_assoc, List.cons_append] at hfills
      rw [Expr.raw, Expr.shape]
      have hdict := Reads.display .brace hfills (hk.toPhrase.heads (by decide) _)
      exact .of_reads .primary hdict (by decide) (by decide)
  | unary op x =>
      have hx := x.readable.fitted .factor (by decide)
      rw [Expr.raw, Expr.shape]
      exact .of_reads .factor (.unary op hx) (by decide) (by decide)
  | binary l op r =>
      have hl := l.readable.fitted (.chain op.level) (by cases op <;> decide)
      have hr := r.readable.fitted (.ofOperand op.level) (by cases op <;> decide)
      rw [Expr.raw, Expr.shape]
      exact .of_reads (.chain op.level) (hl.binary hr) (by cases op <;> decide) (by decide)
  | power b x =>
      have hb := b.readable.fitted .awaited (by decide)
      have hx := x.readable.fitted .factor (by decide)
      rw [Expr.raw, Expr.shape]
      exact .of_reads .factor (hb.power hx) (by decide) (by decide)
  | compare l first rest =>
      have hl := (l.readable.fitted (.chain .bitOr) (by decide)).weaken
        (p := .chain .comparison) (by decide) (by decide)
      have hfirst := first.reads _ _ hl
      have hall := Reads.comparisons (fun c (hc : c ∈ rest) => c.reads) hfirst
      rw [List.append_assoc] at hall
      rw [Expr.raw, Expr.shape]
      exact .of_reads (.chain .comparison) hall (by decide) (by decide)
  | negation x =>
      have hx := x.readable.fitted .inversion (by decide)
      rw [Expr.raw, Expr.shape]
      exact .of_reads .inversion hx.negation (by decide) (by decide)
  | conditional v c o =>
      have hv := v.readable.fitted (.chain .disjunction) (by decide)
      have hc := c.readable.fitted (.chain .disjunction) (by decide)
      have ho := o.readable.fitted .expression (by decide)
      rw [Expr.raw, Expr.shape]
      exact .of_reads .expression (hv.conditional hc ho) (by decide) (by decide)
  | lambda ps b =>
      have hps (p : Parameter) (hp : p ∈ ps) := p.reads
      have hb := b.readable.fitted .expression (by decide)
      rw [Expr.raw, Expr.shape]
      exact .of_reads .expression (Reads.lambda hps hb) (by decide) (by decide)
  | await x =>
      have hx := x.readable.fitted .primary (by decide)
      rw [Expr.raw, Expr.shape]
      exact .of_reads .awaited hx.await (by decide) (by decide)
  | walrus n v =>
      have hv := v.readable.fitted .expression (by decide)
      rw [Expr.raw, Expr.shape]
      refine .enclosed (fills_walrus n hv) fun k hk => ?_
      obtain rfl := Option.some.inj hk
      exact Or.inr n.isIdentifier
  | yield v =>
      have hheads (ks : List Token.Kind) (k : Token.Kind)
          (hk : (Token.Kind.name "yield" :: ks).head? = some k) : Leads k := by
        obtain rfl := Option.some.inj hk
        exact Or.inl (by decide)
      cases v with
      | none =>
          rw [Expr.raw, Expr.shape]
          exact .enclosed fills_bare_yield (hheads _)
      | some v =>
          have hv := v.readable.list
          rw [Expr.raw, Expr.shape]
          exact .enclosed (fills_yield_list hv) (hheads _)
  | yieldFrom v =>
      have hv := v.readable.fitted .expression (by decide)
      rw [Expr.raw, Expr.shape]
      refine .enclosed (fills_yield_from hv) fun k hk => ?_
      obtain rfl := Option.some.inj hk
      exact Or.inl (by decide)
  | group e =>
      have he := e.readable.parenthesized
      have hs := e.shape_ne_starred
      rw [Expr.raw, Expr.shape]
      exact .of_reads .primary he (by decide) hs

theorem Item.reads (i : Item) (element : Element) (h : place element = .expression) :
    ItemReads element i.raw i.shape := by
  cases i with
  | plain e =>
      have he := e.readable.fitted .expression (by decide)
      rw [Item.raw, Item.shape]
      exact Reads.item (h ▸ he)
  | star e =>
      have he := e.readable.fitted (.chain .bitOr) (by decide)
      rw [Item.raw, Item.shape]
      exact Reads.starItem element he

theorem Entry.reads (d : Entry) : EntryReads true d.raw := by
  cases d with
  | pair k v =>
      have hk := k.readable.fitted .expression (by decide)
      have hv := v.readable.fitted .expression (by decide)
      rw [Entry.raw]
      exact entryReads_pair hk hv
  | spread e =>
      have he := e.readable.fitted (.chain .bitOr) (by decide)
      rw [Entry.raw]
      exact entryReads_spread he

theorem Argument.reads (a : Argument) : ArgumentReads a.raw := by
  cases a with
  | positional e =>
      have he := e.readable.fitted .expression (by decide)
      rw [Argument.raw]
      exact argumentReads_positional he
  | keyword n e =>
      have he := e.readable.fitted .expression (by decide)
      rw [Argument.raw]
      exact argumentReads_keyword n he
  | star e | doubleStar e =>
      have he := e.readable.fitted .expression (by decide)
      rw [Argument.raw]
      exact argumentReads_spread (by decide) he
  | generator e first rest =>
      have he := e.readable.fitted .expression (by decide)
      have hl := loops (List.forall_mem_cons.mpr ⟨first.reads, fun l (hl : l ∈ rest) => l.reads⟩)
      rw [Argument.raw]
      exact argumentReads_generator he hl

theorem Expr.option_reads (o : Option Expr) : OptionReads (Expr.rawOption o) := by
  cases o with
  | none =>
      rw [Expr.rawOption]
      exact Or.inl rfl
  | some e =>
      have he := e.readable.fitted .expression (by decide)
      rw [Expr.rawOption]
      exact Or.inr ⟨_, he⟩

theorem Slice.reads (i : Slice) : SliceReads i.raw := by
  cases i with
  | index e =>
      have he := e.readable.fitted .expression (by decide)
      rw [Slice.raw]
      exact sliceReads_index he
  | range l u =>
      have hl := Expr.option_reads l
      have hu := Expr.option_reads u
      rw [Slice.raw]
      exact sliceReads_range hl hu
  | stepped l u s =>
      have hl := Expr.option_reads l
      have hu := Expr.option_reads u
      have hs := Expr.option_reads s
      rw [Slice.raw]
      exact sliceReads_stepped hl hu hs
  | star e =>
      have he := e.readable.fitted (.chain .bitOr) (by decide)
      rw [Slice.raw]
      exact sliceReads_star he

theorem Parameter.reads (p : Parameter) : ParameterReads p.raw := by
  cases p with
  | plain n default =>
      cases default with
      | none =>
          rw [Parameter.raw]
          exact parameterReads_plain n
      | some e =>
          have he := e.readable.fitted .expression (by decide)
          rw [Parameter.raw]
          exact parameterReads_default n he
  | star n =>
      rw [Parameter.raw]
      exact parameterReads_star n
  | doubleStar n =>
      rw [Parameter.raw]
      exact parameterReads_doubleStar n
  | keywordOnly =>
      rw [Parameter.raw]
      exact parameterReads_keywordOnly
  | positionalOnly =>
      rw [Parameter.raw]
      exact parameterReads_positionalOnly

/-- A comparison makes one more of what stands before it. -/
theorem Comparison.reads (c : Comparison) (ks : List Token.Kind) (s : Shape)
    (h : Reads (.chain .comparison) ks s) : Reads (.chain .comparison) (ks ++ c.raw) .value := by
  cases c with
  | mk op e =>
      have he := e.readable.fitted (.chain .bitOr) (by decide)
      rw [Comparison.raw]
      exact h.comparison he

theorem Loop.reads (l : Loop) : LoopReads l.raw := by
  cases l with
  | mk isAsync t e conditions =>
      have ht := t.readable.items t.list_le_strength
      have he := e.readable.fitted (.chain .disjunction) (by decide)
      have hconditions (c : Expr) (hc : c ∈ conditions) :=
        c.readable.fitted (.chain .disjunction) (by decide)
      rw [Loop.raw]
      exact loopReads isAsync ht t.shape_assignable he fun c hc => ⟨_, hconditions c hc⟩

theorem Target.readable (t : Target) : Readable .target t.strength t.raw t.shape := by
  cases t with
  | name n =>
      rw [Target.raw]
      exact .of_reads .primary (.name n) (by decide) (Target.shape_ne_starred _)
  | member v n =>
      have hv := v.readable.fitted .primary (by decide)
      rw [Target.raw]
      exact .of_reads .primary (hv.member n) (by decide) (Target.shape_ne_starred _)
  | subscript v first rest =>
      have hv := v.readable.fitted .primary (by decide)
      have hslices := fills_slices
        (List.forall_mem_cons.mpr ⟨first.reads, fun i (hi : i ∈ rest) => i.reads⟩)
      rw [List.map_cons, Printed.commaJoined_cons] at hslices
      rw [Target.raw]
      exact .of_reads .primary (hv.subscript hslices) (by decide) (Target.shape_ne_starred _)
  | tuple items =>
      have hitems (element : Element) (i : TargetItem) (hi : i ∈ items) := i.reads element
      have hshape := TargetItem.ofItems_shape items
      rw [Target.raw]
      cases items with
      | nil =>
          have hempty := Reads.display .paren fills_empty_tuple (by simp)
          exact .of_reads .primary hempty (by decide) (by decide)
      | cons x xs =>
          have htuple := Readable.tuple (hitems .starNamed) (hitems .target)
          rw [hshape] at htuple
          exact htuple
  | list items =>
      have hitems := Reads.list fun i (hi : i ∈ items) => i.reads .starNamed
      rw [TargetItem.ofItems_shape items] at hitems
      rw [Target.raw]
      exact .of_reads .primary hitems (by decide) (Target.shape_ne_starred _)
  | group t =>
      have ht := t.readable.parenthesized
      have hs := t.shape_ne_starred
      rw [Target.raw]
      exact .of_reads .primary ht (by decide) hs

theorem TargetItem.reads (i : TargetItem) (element : Element) :
    ItemReads element i.raw i.shape := by
  cases i with
  | plain t =>
      have ht := t.readable.fitted (.chain .bitOr) (by decide)
      rw [TargetItem.raw]
      exact Reads.item (ht.weaken (by cases element <;> decide) (expression_le_place _))
  | star t =>
      have ht := t.readable.fitted (.chain .bitOr) (by decide)
      have hs := t.shape_assignable
      rw [TargetItem.raw]
      have hstar := Reads.starItem element ht
      rw [Shape.behindStar, hs] at hstar
      exact hstar

end

end DeclaredSchema.Source.Tree
