import DeclaredSchema.Proofs.Source.InlineLines
import Mathlib.Data.List.TakeWhile

/-! # Inline and indented bodies

The body of a clause may stand behind the colon of its header or on a line of its own below. A text
is accepted with the one if it is accepted with the other, wherever in the text the clause stands.
The texts are compared by the kinds of their tokens, as a line more shifts the numbers of the lines
below it.
-/

namespace DeclaredSchema.Source

/-- The tokens that only shape lines and blocks. -/
def Token.Kind.isLayout : Token.Kind → Bool
  | .newline | .indent | .dedent | .endMarker => true
  | _ => false

theorem isLayout_kind (t : Token) : t.kind.isLayout = t.isLayout := rfl

/-- Whole lines and what is said about their indentation. -/
inductive WholeLines : List Token.Kind → Prop where
  | nil : WholeLines []
  | layout {k : Token.Kind} {ks : List Token.Kind} (hk : k.isLayout = true) (h : WholeLines ks) :
      WholeLines (k :: ks)
  | line {l ks : List Token.Kind} (hl : ∀ k ∈ l, k.isLayout = false) (h : WholeLines ks) :
      WholeLines (l ++ .newline :: ks)

/-- A clause with statements for its body. -/
structure ShortClause where
  header : HeaderLine
  isClause : (clauseOf? header.tokens).isSome
  checked : header.Checked
  body : SimpleLine
  isBody : clauseOf? body.tokens = none

namespace ShortClause

/-- The clause on one line. -/
def inline (s : ShortClause) : List Token.Kind :=
  kindsOf s.header.tokens ++ (kindsOf s.body.tokens ++ [.newline])

/-- The clause with its body on a line of its own. -/
def indented (s : ShortClause) : List Token.Kind :=
  kindsOf s.header.tokens ++
    .newline :: .indent :: (kindsOf s.body.tokens ++ [.newline, .dedent])

/-- A text with the clause on one line, and the same text with the body on a line of its own. They
are the same text behind the clause. -/
inductive Moved (s : ShortClause) : List Token.Kind → List Token.Kind → Prop where
  | same (ks : List Token.Kind) : Moved s ks ks
  | here (after : List Token.Kind) : Moved s (s.inline ++ after) (s.indented ++ after)
  | layout {k : Token.Kind} {ks ls : List Token.Kind} (hk : k.isLayout = true)
      (h : Moved s ks ls) : Moved s (k :: ks) (k :: ls)
  | line {l ks ls : List Token.Kind} (hne : l ≠ []) (hl : ∀ k ∈ l, k.isLayout = false)
      (h : Moved s ks ls) : Moved s (l ++ .newline :: ks) (l ++ .newline :: ls)

variable {s : ShortClause}

theorem moved_of_wholeLines {before : List Token.Kind} (h : WholeLines before)
    (after : List Token.Kind) :
    s.Moved (before ++ (s.inline ++ after)) (before ++ (s.indented ++ after)) := by
  induction h with
  | nil => exact .here after
  | layout hk _ ih => exact .layout hk ih
  | @line l ks hl _ ih =>
      rw [List.append_assoc, List.append_assoc]
      cases l with
      | nil => exact .layout rfl ih
      | cons k l => exact .line (List.cons_ne_nil k l) hl ih

/-! ## Readings that agree -/

/-- What is left behind two readings that agree. -/
structure Rests (s : ShortClause) (n m : Nat) (ts us : List Token) : Prop where
  moved : s.Moved (kindsOf ts) (kindsOf us)
  length_le : ts.length ≤ n
  length_le' : us.length ≤ m

/-- Both readings end, with texts behind them that differ in the clause only, or none does. -/
def Agree (s : ShortClause) (n m : Nat) (x y : Except SyntaxError (List Statement × List Token)) :
    Prop :=
  (∀ r, x = .ok r → ∃ r', y = .ok r' ∧ s.Rests n m r.2 r'.2) ∧
    ∀ r', y = .ok r' → ∃ r, x = .ok r ∧ s.Rests n m r.2 r'.2

section Agree

variable {n m : Nat} {x y : Except SyntaxError (List Statement × List Token)}

theorem Agree.refused (e e' : SyntaxError) : s.Agree n m (.error e) (.error e') := ⟨nofun, nofun⟩

theorem Agree.done {ts us : List Token} (h : s.Rests n m ts us) (stmts stmts' : List Statement) :
    s.Agree n m (.ok (stmts, ts)) (.ok (stmts', us)) := by
  constructor
  · rintro _ ⟨⟩
    exact ⟨_, rfl, h⟩
  · rintro _ ⟨⟩
    exact ⟨_, rfl, h⟩

theorem Agree.bind {n' m' : Nat} (h : s.Agree n' m' x y)
    {f g : List Statement × List Token → Except SyntaxError (List Statement × List Token)}
    (hf : ∀ r r', s.Rests n' m' r.2 r'.2 → s.Agree n m (f r) (g r')) :
    s.Agree n m (x >>= f) (y >>= g) := by
  constructor
  · intro r hr
    obtain ⟨a, ha, hfa⟩ := bind_eq_ok.mp hr
    obtain ⟨b, hb, hrests⟩ := h.1 a ha
    obtain ⟨r', hr', hrests'⟩ := (hf a b hrests).1 r hfa
    exact ⟨r', bind_eq_ok.mpr ⟨b, hb, hr'⟩, hrests'⟩
  · intro r' hr'
    obtain ⟨b, hb, hgb⟩ := bind_eq_ok.mp hr'
    obtain ⟨a, ha, hrests⟩ := h.2 b hb
    obtain ⟨r, hr, hrests'⟩ := (hf a b hrests).2 r' hgb
    exact ⟨r, bind_eq_ok.mpr ⟨a, ha, hr⟩, hrests'⟩

/-- Statements in front of those that are still read. -/
theorem Agree.more (h : s.Agree n m x y) (first first' : List Statement → List Statement) :
    s.Agree n m (do
        let (others, rest) ← x
        .ok (first others, rest))
      (do
        let (others, rest) ← y
        .ok (first' others, rest)) :=
  h.bind fun r r' hrests => .done hrests (first r.1) (first' r'.1)

/-- A check that both texts pass or none. -/
theorem Agree.check {α : Type} {u v : Except SyntaxError α}
    (same : (∃ a, u = .ok a) ↔ ∃ b, v = .ok b)
    {f g : α → Except SyntaxError (List Statement × List Token)}
    (hf : ∀ a b, u = .ok a → v = .ok b → s.Agree n m (f a) (g b)) :
    s.Agree n m (u >>= f) (v >>= g) := by
  cases hu : u with
  | ok a =>
      obtain ⟨b, hv⟩ := same.mp ⟨a, hu⟩
      rw [hv]
      exact hf a b hu hv
  | error e =>
      cases hv : v with
      | ok b =>
          obtain ⟨a, ha⟩ := same.mpr ⟨b, hv⟩
          rw [hu] at ha
          cases ha
      | error e' => exact .refused e e'

theorem Rests.mono {ts us : List Token} {n' m' : Nat} (h : s.Rests n m ts us) (hn : n ≤ n')
    (hm : m ≤ m') : s.Rests n' m' ts us :=
  ⟨h.moved, Nat.le_trans h.length_le hn, Nat.le_trans h.length_le' hm⟩

theorem Agree.mono {n' m' : Nat} (h : s.Agree n m x y) (hn : n ≤ n') (hm : m ≤ m') :
    s.Agree n' m' x y := by
  constructor
  · intro r hr
    obtain ⟨r', hr', hrests⟩ := h.1 r hr
    exact ⟨r', hr', hrests.mono hn hm⟩
  · intro r' hr'
    obtain ⟨r, hr, hrests⟩ := h.2 r' hr'
    exact ⟨r, hr, hrests.mono hn hm⟩

end Agree

/-- Texts that differ in the clause only are read alike, within the given number of rounds. -/
def Alike (s : ShortClause) (f : Nat) : Prop :=
  ∀ g nested order order' ts us, s.Moved (kindsOf ts) (kindsOf us) →
    order.previous = order'.previous → ts.length < f → us.length < g →
      s.Agree ts.length us.length (readBlock f nested order ts) (readBlock g nested order' us)

section Steps

variable {f g : Nat} {nested : Bool} {order order' : ClauseOrder} {t u : Token}
  {ts us tail tail' : List Token}

theorem finish_iff (h : order.previous = order'.previous) :
    (∃ a, order.finish = .ok a) ↔ ∃ b, order'.finish = .ok b := by
  have hfinish (o : ClauseOrder) : (∃ a, o.finish = .ok a) ↔ o.previous ≠ some .tryBlock :=
    ⟨fun ⟨_, ha⟩ => ClauseOrder.finish_eq_ok.mp ha, fun h => ⟨(), ClauseOrder.finish_eq_ok.mpr h⟩⟩
  rw [hfinish, hfinish, h]

theorem next_iff (h : order.previous = order'.previous) (same : clauseOf? us = clauseOf? ts)
    (line line' : Nat) :
    (∃ a, order.next ts line = .ok a) ↔ ∃ b, order'.next us line' = .ok b := by
  have hnext (o : ClauseOrder) (ts : List Token) (line : Nat) :
      (∃ a, o.next ts line = .ok a) ↔ Follows o.previous (clauseOf? ts) :=
    ⟨fun ⟨_, ha⟩ => (ClauseOrder.next_eq_ok.mp ha).1,
      fun h => ⟨_, ClauseOrder.next_eq_ok.mpr ⟨h, rfl⟩⟩⟩
  rw [hnext, hnext, h, same]

theorem previous_next {o o' : ClauseOrder} {line line' : Nat} (same : clauseOf? us = clauseOf? ts)
    (h : order.next ts line = .ok o) (h' : order'.next us line' = .ok o') :
    o.previous = o'.previous := by
  rw [← (ClauseOrder.next_eq_ok.mp h).2, ← (ClauseOrder.next_eq_ok.mp h').2, same]

theorem checkLine_iff (same : kindsOf us = kindsOf ts) (opens : Bool) :
    (∃ a, checkLine ts opens = .ok a) ↔ ∃ b, checkLine us opens = .ok b :=
  ⟨fun ⟨_, h⟩ => ⟨(), checkLine_of_kinds same h⟩,
    fun ⟨_, h⟩ => ⟨(), checkLine_of_kinds same.symm h⟩⟩

theorem opensBlock_of_kinds (same : kindsOf us = kindsOf ts) : opensBlock us = opensBlock ts := by
  have hopens (ts : List Token) :
      opensBlock ts = (kindsOf ts).getLast?.any (· = .symbol .colon) := by
    rw [kindsOf, List.getLast?_map, opensBlock]
    cases ts.getLast? <;> rfl
  rw [hopens, hopens, same]

/-- A token that only shapes lines and blocks. -/
theorem agree_layout (ih : s.Alike f) (ht : t.isLayout = true) (htu : u.kind = t.kind)
    (h : s.Moved (kindsOf ts) (kindsOf us)) (ho : order.previous = order'.previous)
    (hf : ts.length < f) (hg : us.length < g) :
    s.Agree (ts.length + 1) (us.length + 1) (readBlock (f + 1) nested order (t :: ts))
      (readBlock (g + 1) nested order' (u :: us)) := by
  have hmore : s.Agree (ts.length + 1) (us.length + 1) (readBlock f nested order ts)
      (readBlock g nested order' us) :=
    (ih g nested order order' ts us h ho hf hg).mono (Nat.le_succ _) (Nat.le_succ _)
  obtain ⟨k, line⟩ := t
  obtain ⟨k', line'⟩ := u
  obtain rfl : k' = k := htu
  cases k' with
  | name | number | str | symbol => cases ht
  | newline => exact hmore
  | indent => exact .refused _ _
  | dedent =>
      cases nested with
      | true =>
          exact .check (finish_iff ho) fun _ _ _ _ =>
            .done ⟨h, Nat.le_succ _, Nat.le_succ _⟩ _ _
      | false => exact hmore
  | endMarker =>
      exact .check (finish_iff ho) fun _ _ _ _ =>
        .done ⟨.layout rfl h, Nat.le_refl _, Nat.le_refl _⟩ _ _

/-- Both texts begin alike. -/
theorem Moved.head {ks ls : List Token.Kind} (h : s.Moved ks ls) : ls.head? = ks.head? := by
  cases h with
  | same | layout => rfl
  | here after =>
      obtain ⟨t, ts, hts⟩ := List.exists_cons_of_ne_nil s.header.nonempty
      rw [inline, indented, hts]
      rfl
  | @line l ks ls hne =>
      obtain ⟨k, l, rfl⟩ := List.exists_cons_of_ne_nil hne
      rfl

theorem Moved.indent {ks ls : List Token.Kind} (h : s.Moved (.indent :: ks) (.indent :: ls)) :
    s.Moved ks ls := by
  generalize hks : Token.Kind.indent :: ks = ks' at h
  generalize hls : Token.Kind.indent :: ls = ls' at h
  cases h with
  | same =>
      obtain rfl := (List.cons.inj (hks.trans hls.symm)).2
      exact .same ks
  | layout _ h =>
      obtain ⟨-, rfl⟩ := List.cons.inj hks
      obtain ⟨-, rfl⟩ := List.cons.inj hls
      exact h
  | here after =>
      obtain ⟨t, ts, hts⟩ := List.exists_cons_of_ne_nil s.header.nonempty
      have hplain := s.header.plain t (hts ▸ List.mem_cons_self)
      rw [inline, hts] at hks
      have hkind : .indent = t.kind := (List.cons.inj hks).1
      rw [← isLayout_kind, ← hkind] at hplain
      cases hplain
  | @line l _ _ hne hl =>
      obtain ⟨k, l, rfl⟩ := List.exists_cons_of_ne_nil hne
      have hplain := hl k List.mem_cons_self
      rw [← (List.cons.inj hks).1] at hplain
      cases hplain

theorem length_behindEnd (tail : List Token) : (behindEnd tail).length ≤ tail.length := by
  rw [behindEnd.eq_def]
  split
  · exact Nat.le_succ _
  · exact Nat.le_refl _

theorem flat_of_kinds (h : (kindsOf ts).head? ≠ some .indent) :
    ∀ t ∈ ts.head?, t.kind ≠ .indent := by
  intro t ht hkind
  rw [kindsOf, List.head?_map, Option.mem_def.mp ht] at h
  exact h (congrArg some hkind)

/-- What follows a line. -/
theorem agree_behind (ih : s.Alike f) (h : s.Moved (kindsOf ts) (kindsOf us))
    (ho : order.previous = order'.previous) (hf : ts.length < f) (hg : us.length < g)
    (line line' : Line) (opens : Bool) :
    s.Agree ts.length us.length (readBehind f nested order line opens ts)
      (readBehind g nested order' line' opens us) := by
  by_cases hindent : (kindsOf ts).head? = some .indent
  · obtain ⟨_, hks⟩ := List.head?_eq_some_iff.mp hindent
    obtain ⟨_, hls⟩ := List.head?_eq_some_iff.mp (h.head.trans hindent)
    obtain ⟨n, inner, rfl, rfl⟩ := exists_of_kindsOf_cons hks
    obtain ⟨n', inner', rfl, rfl⟩ := exists_of_kindsOf_cons hls
    rw [List.length_cons] at hf hg
    cases opens with
    | false => exact .refused _ _
    | true =>
        have hbody : s.Agree inner.length inner'.length (readBlock f true .start inner)
            (readBlock g true .start inner') :=
          ih g true .start .start inner inner' h.indent rfl (by omega) (by omega)
        refine hbody.bind fun r r' hrests => ?_
        have hle := hrests.length_le
        have hle' := hrests.length_le'
        have hothers := ih g nested order order' r.2 r'.2 hrests.moved ho (by omega) (by omega)
        exact (hothers.mono (by simp; omega) (by simp; omega)).more _ _
  · have hflat := flat_of_kinds hindent
    have hflat' := flat_of_kinds (h.head ▸ hindent)
    cases opens with
    | false =>
        rw [readBehind_flat hflat, readBehind_flat hflat']
        exact (ih g nested order order' ts us h ho hf hg).more _ _
    | true =>
        rw [readBehind_missing hflat, readBehind_missing hflat']
        exact .refused _ _

/-- A line of its own. -/
theorem agree_text (ih : s.Alike f) (ht : t.isLayout = false) {l l' : List Token}
    (hline : ∀ x ∈ t :: l, endsLine x = false) (same : kindsOf (u :: l') = kindsOf (t :: l))
    (htail : ∀ x ∈ tail.head?, endsLine x = true) (htail' : ∀ x ∈ tail'.head?, endsLine x = true)
    (h : s.Moved (kindsOf (behindEnd tail)) (kindsOf (behindEnd tail')))
    (ho : order.previous = order'.previous) (hf : (l ++ tail).length < f)
    (hg : (l' ++ tail').length < g) :
    s.Agree (t :: l ++ tail).length (u :: l' ++ tail').length
      (readBlock (f + 1) nested order (t :: l ++ tail))
      (readBlock (g + 1) nested order' (u :: l' ++ tail')) := by
  have hkind : u.kind = t.kind := (List.cons.inj same).1
  have hu : u.isLayout = false := by rw [← isLayout_kind, hkind, isLayout_kind, ht]
  have hline' : ∀ x ∈ u :: l', endsLine x = false := by
    intro x hx
    have hmem : x.kind ∈ kindsOf (t :: l) := same ▸ List.mem_map_of_mem hx
    obtain ⟨y, hy, hkind⟩ := List.mem_map.mp hmem
    have := hline y hy
    rwa [endsLine, hkind] at this
  have hle := length_behindEnd tail
  have hle' := length_behindEnd tail'
  rw [readBlock_text ht hline htail, readBlock_text hu hline' htail', opensBlock_of_kinds same]
  refine .check (checkLine_iff same _) fun _ _ _ _ =>
    .check (next_iff ho (clauseOf?_of_kinds same) _ _) fun o o' hnext hnext' => ?_
  have ho := previous_next (clauseOf?_of_kinds same) hnext hnext'
  rw [List.length_append] at hf hg
  refine (agree_behind ih h ho (by omega) (by omega) _ _ _).mono ?_ ?_
  · rw [List.length_append]
    omega
  · rw [List.length_append]
    omega

/-- Tokens of the same kinds as those of a line. -/
theorem exists_plain {line : LogicalLine} (same : kindsOf ts = kindsOf line.tokens) :
    ∃ t l, ts = t :: l ∧ t.isLayout = false ∧ ∀ x ∈ t :: l, endsLine x = false := by
  have hplain : ∀ x ∈ ts, x.isLayout = false := by
    intro x hx
    have hmem : x.kind ∈ kindsOf line.tokens := same ▸ List.mem_map_of_mem hx
    obtain ⟨y, hy, hkind⟩ := List.mem_map.mp hmem
    rw [← isLayout_kind, ← hkind]
    exact line.plain y hy
  cases ts with
  | nil => exact absurd (List.map_eq_nil_iff.mp same.symm) line.nonempty
  | cons t l =>
      exact ⟨t, l, rfl, hplain t List.mem_cons_self, fun x hx => not_endsLine (hplain x hx)⟩

/-- Of the clause on one line the body is not read apart. -/
theorem readBlock_inline (s : ShortClause) {header body : List Token}
    (hheader : kindsOf header = kindsOf s.header.tokens)
    (hbody : kindsOf body = kindsOf s.body.tokens) (n : Nat) (after : List Token) (f : Nat)
    (nested : Bool) (order : ClauseOrder) : ∃ start,
      readBlock (f + 1) nested order (header ++ body ++ ⟨.newline, n⟩ :: after) = (do
        checkLine (header ++ body) false
        let order ← order.next (header ++ body) start
        readBehind f nested order ⟨header ++ body, start⟩ false after) := by
  obtain ⟨t, l, rfl, ht, hline⟩ := exists_plain hheader
  obtain ⟨u, l', rfl, -, hline'⟩ := exists_plain hbody
  have hends : ∀ x ∈ t :: (l ++ u :: l'), endsLine x = false := by
    intro x hx
    rw [← List.cons_append, List.mem_append] at hx
    exact hx.elim (hline x) (hline' x)
  have hopens : opensBlock (t :: (l ++ u :: l')) = false := by
    rw [← List.cons_append, opensBlock, List.getLast?_append_of_ne_nil _ (List.cons_ne_nil u l'),
      ← opensBlock, opensBlock_of_kinds hbody, s.body.closed]
  refine ⟨t.line, ?_⟩
  change readBlock (f + 1) nested order (t :: (l ++ u :: l') ++ ⟨.newline, n⟩ :: after) = _
  rw [readBlock_text ht hends (by rintro _ ⟨⟩; rfl), hopens]
  rfl

/-- The body on a line of its own is one line, and nothing else stands in the block. -/
theorem readBlock_body (s : ShortClause) {body : List Token}
    (same : kindsOf body = kindsOf s.body.tokens) (n m : Nat) (after : List Token) : ∃ stmts,
      readBlock (g + 2) true .start (body ++ ⟨.newline, n⟩ :: ⟨.dedent, m⟩ :: after) = (do
        checkLine body false
        .ok (stmts, after)) := by
  obtain ⟨t, l, rfl, ht, hline⟩ := exists_plain same
  have hcloses : opensBlock (t :: l) = false := (opensBlock_of_kinds same).trans s.body.closed
  have hnext : ClauseOrder.start.next (t :: l) t.line = .ok ⟨none, t.line⟩ := by
    rw [ClauseOrder.next_eq_ok, clauseOf?_of_kinds same, s.isBody]
    exact ⟨rfl, rfl⟩
  refine ⟨simpleLines (t :: l) t.line ++ [], ?_⟩
  rw [readBlock_text ht hline (by rintro _ ⟨⟩; rfl), hcloses, hnext]
  rfl

theorem readBlock_indented (s : ShortClause) {header body : List Token}
    (hheader : kindsOf header = kindsOf s.header.tokens)
    (hbody : kindsOf body = kindsOf s.body.tokens) (n m n' m' : Nat) (after : List Token) (g : Nat)
    (nested : Bool) (order : ClauseOrder) : ∃ start inner,
      readBlock (g + 3) nested order (header ++ ⟨.newline, n⟩ :: ⟨.indent, m⟩ ::
        (body ++ ⟨.newline, n'⟩ :: ⟨.dedent, m'⟩ :: after)) = (do
      let order ← order.next header start
      checkLine body false
      let (others, rest) ← readBlock (g + 2) nested order after
      .ok (.compound ⟨header, start⟩ inner :: others, rest)) := by
  obtain ⟨inner, hread⟩ := readBlock_body (g := g) s hbody n' m' after
  obtain ⟨t, l, rfl, ht, hline⟩ := exists_plain hheader
  have hopens : opensBlock (t :: l) = true := (opensBlock_of_kinds hheader).trans s.header.opens
  have hchecked : checkLine (t :: l) true = .ok () := by
    have hchecked := checkLine_of_kinds hheader s.checked
    rwa [s.header.opens] at hchecked
  refine ⟨t.line, inner, ?_⟩
  rw [readBlock_text ht hline (by rintro _ ⟨⟩; rfl), hopens, hchecked]
  simp only [behindEnd, readBehind_opens, hread]
  cases order.next (t :: l) t.line with
  | error e => rfl
  | ok o => cases checkLine body false <;> rfl

/-- The line with the body behind the colon. -/
theorem checkLine_inline (s : ShortClause) {header body : List Token}
    (hheader : kindsOf header = kindsOf s.header.tokens)
    (hbody : kindsOf body = kindsOf s.body.tokens) {body' : List Token}
    (hbody' : kindsOf body' = kindsOf s.body.tokens) :
    checkLine (header ++ body) false = .ok () ↔ checkLine body' false = .ok () := by
  have hline : kindsOf (header ++ body) = kindsOf (s.header.tokens ++ s.body.tokens) := by
    rw [kindsOf_append, kindsOf_append, hheader, hbody]
  have hown := checkLine_inline_iff s.isClause s.checked s.isBody
  constructor
  · exact fun h => checkLine_of_kinds hbody' (hown.mp (checkLine_of_kinds hline.symm h))
  · exact fun h => checkLine_of_kinds hline (hown.mpr (checkLine_of_kinds hbody'.symm h))

theorem exists_inline {after : List Token.Kind} (h : kindsOf ts = s.inline ++ after) :
    ∃ header body n rest, ts = header ++ body ++ ⟨.newline, n⟩ :: rest ∧
      kindsOf header = kindsOf s.header.tokens ∧ kindsOf body = kindsOf s.body.tokens ∧
      kindsOf rest = after := by
  rw [inline, List.append_assoc, List.append_assoc] at h
  obtain ⟨header, _, rfl, hheader, h⟩ := List.map_eq_append_iff.mp h
  obtain ⟨body, _, rfl, hbody, h⟩ := List.map_eq_append_iff.mp h
  obtain ⟨n, rest, rfl, hrest⟩ := exists_of_kindsOf_cons h
  exact ⟨header, body, n, rest, (List.append_assoc _ _ _).symm, hheader, hbody, hrest⟩

theorem exists_indented {after : List Token.Kind} (h : kindsOf ts = s.indented ++ after) :
    ∃ header body n m n' m' rest, ts = header ++ ⟨.newline, n⟩ :: ⟨.indent, m⟩ ::
        (body ++ ⟨.newline, n'⟩ :: ⟨.dedent, m'⟩ :: rest) ∧
      kindsOf header = kindsOf s.header.tokens ∧ kindsOf body = kindsOf s.body.tokens ∧
      kindsOf rest = after := by
  rw [indented, List.append_assoc] at h
  obtain ⟨header, _, rfl, hheader, h₁⟩ := List.map_eq_append_iff.mp h
  obtain ⟨n, _, rfl, h₂⟩ := exists_of_kindsOf_cons h₁
  obtain ⟨m, _, rfl, h₃⟩ := exists_of_kindsOf_cons h₂
  change kindsOf _ = kindsOf s.body.tokens ++ [.newline, .dedent] ++ after at h₃
  rw [List.append_assoc] at h₃
  obtain ⟨body, _, rfl, hbody, h₄⟩ := List.map_eq_append_iff.mp h₃
  obtain ⟨n', _, rfl, h₅⟩ := exists_of_kindsOf_cons h₄
  obtain ⟨m', rest, rfl, hrest⟩ := exists_of_kindsOf_cons h₅
  exact ⟨header, body, n, m, n', m', rest, rfl, hheader, hbody, hrest⟩

/-- The clause itself. -/
theorem agree_here (ih : s.Alike f) {after : List Token.Kind}
    (hts : kindsOf ts = s.inline ++ after) (hus : kindsOf us = s.indented ++ after)
    (ho : order.previous = order'.previous) (hf : ts.length < f + 1) (hg : us.length < g + 1) :
    s.Agree ts.length us.length (readBlock (f + 1) nested order ts)
      (readBlock (g + 1) nested order' us) := by
  obtain ⟨header, body, n, rest, rfl, hheader, hbody, hrest⟩ := exists_inline hts
  obtain ⟨header', body', n₁, n₂, n₃, n₄, rest', rfl, hheader', hbody', hrest'⟩ :=
    exists_indented hus
  simp only [List.length_append, List.length_cons] at hf hg ⊢
  obtain ⟨g, rfl⟩ : ∃ m, g = m + 2 := ⟨g - 2, by omega⟩
  obtain ⟨start, hinline⟩ := s.readBlock_inline hheader hbody n rest f nested order
  obtain ⟨start', inner, hindented⟩ := s.readBlock_indented hheader' hbody' n₁ n₂ n₃ n₄
    rest' g nested order'
  have hclause : clauseOf? header' = clauseOf? (header ++ body) := by
    have hsame := clauseOf?_of_kinds hheader
    rw [clauseOf?_of_kinds hheader', clauseOf?_append (by rw [hsame]; exact s.isClause), hsame]
  have hchecks := checkLine_inline s hheader hbody hbody'
  rw [hinline, hindented]
  cases hown : checkLine body' false with
  | error e =>
      -- Neither text is accepted, the second one because of the line in the block.
      cases hline : checkLine (header ++ body) false with
      | ok _ =>
          rw [hown] at hchecks
          cases hchecks.mp hline
      | error e' => cases order'.next header' start' <;> exact .refused _ _
  | ok _ =>
      rw [hchecks.mpr hown]
      refine .check (next_iff ho hclause _ _) fun o o' hnext hnext' => ?_
      have ho := previous_next hclause hnext hnext'
      have same : s.Moved (kindsOf rest) (kindsOf rest') := by
        rw [hrest, hrest']
        exact .same after
      by_cases hindent : (kindsOf rest).head? = some .indent
      · -- What is indented further does not belong to the body.
        obtain ⟨_, hks⟩ := List.head?_eq_some_iff.mp hindent
        obtain ⟨m, _, rfl, -⟩ := exists_of_kindsOf_cons hks
        obtain ⟨m', _, rfl, -⟩ := exists_of_kindsOf_cons (hrest'.trans hrest.symm)
        exact .refused _ _
      · rw [readBehind_flat (flat_of_kinds hindent)]
        have hothers := ih (g + 2) nested o o' rest rest' same ho (by omega) (by omega)
        exact (hothers.mono (by omega) (by omega)).more _ _

end Steps

/-! ## Whole texts -/

section Texts

variable {f g : Nat} {nested : Bool} {order order' : ClauseOrder} {ts us : List Token}

theorem kindsOf_behindEnd (same : kindsOf us = kindsOf ts) :
    kindsOf (behindEnd us) = kindsOf (behindEnd ts) := by
  have hbehind (ts : List Token) : kindsOf (behindEnd ts) =
      if (kindsOf ts).head? = some .newline then (kindsOf ts).tail else kindsOf ts := by
    rcases ts with - | ⟨⟨k, n⟩, ts⟩
    · rfl
    · cases k <;> simp [behindEnd]
  rw [hbehind, hbehind, same]

theorem kindsOf_takeWhile (same : kindsOf us = kindsOf ts) :
    kindsOf (us.takeWhile (!endsLine ·)) = kindsOf (ts.takeWhile (!endsLine ·)) ∧
      kindsOf (us.dropWhile (!endsLine ·)) = kindsOf (ts.dropWhile (!endsLine ·)) := by
  induction ts generalizing us with
  | nil =>
      obtain rfl := List.map_eq_nil_iff.mp same
      exact ⟨rfl, rfl⟩
  | cons t ts ih =>
      obtain ⟨n, us, rfl, hus⟩ := exists_of_kindsOf_cons same
      have hends : endsLine ⟨t.kind, n⟩ = endsLine t := rfl
      rw [List.takeWhile_cons, List.takeWhile_cons, List.dropWhile_cons, List.dropWhile_cons, hends]
      split
      · exact ⟨congrArg (t.kind :: ·) (ih hus).1, (ih hus).2⟩
      · exact ⟨rfl, congrArg (t.kind :: ·) hus⟩

/-- The same text with other line numbers. -/
theorem agree_same (ih : s.Alike f) (same : kindsOf us = kindsOf ts)
    (ho : order.previous = order'.previous) (hf : ts.length < f + 1) (hg : us.length < g + 1) :
    s.Agree ts.length us.length (readBlock (f + 1) nested order ts)
      (readBlock (g + 1) nested order' us) := by
  cases ts with
  | nil =>
      obtain rfl := List.map_eq_nil_iff.mp same
      exact .check (finish_iff ho) fun _ _ _ _ =>
        .done ⟨.same [], Nat.le_refl _, Nat.le_refl _⟩ _ _
  | cons t ts =>
      obtain ⟨n, us, rfl, hus⟩ := exists_of_kindsOf_cons same
      have hf := Nat.lt_of_succ_lt_succ hf
      have hg := Nat.lt_of_succ_lt_succ hg
      by_cases ht : t.isLayout = true
      · exact agree_layout ih ht rfl (hus ▸ .same _) ho hf hg
      · have ht : t.isLayout = false := by simpa using ht
        obtain ⟨htake, hdrop⟩ := kindsOf_takeWhile hus
        have hline : ∀ x ∈ t :: ts.takeWhile (!endsLine ·), endsLine x = false := by
          intro x hx
          rcases List.mem_cons.mp hx with rfl | hx
          · exact not_endsLine ht
          · simpa using List.mem_takeWhile_imp hx
        have htail (ts : List Token) :
            ∀ x ∈ (ts.dropWhile (!endsLine ·)).head?, endsLine x = true := by
          intro x hx
          rw [← List.find?_eq_head?_dropWhile_not] at hx
          simpa using List.find?_some hx
        have htext : s.Agree _ _ (readBlock (f + 1) nested order _)
            (readBlock (g + 1) nested order' (⟨t.kind, n⟩ :: us.takeWhile (!endsLine ·) ++ _)) :=
          agree_text ih ht hline (congrArg (t.kind :: ·) htake) (htail ts) (htail us)
            (kindsOf_behindEnd hdrop ▸ .same _) ho (by rwa [List.takeWhile_append_dropWhile])
            (by rwa [List.takeWhile_append_dropWhile])
        rwa [List.cons_append, List.cons_append, List.takeWhile_append_dropWhile,
          List.takeWhile_append_dropWhile] at htext

theorem alike (s : ShortClause) (f : Nat) : s.Alike f := by
  induction f with
  | zero => exact fun _ _ _ _ ts _ _ _ hf _ => absurd hf (Nat.not_lt_zero _)
  | succ f ih =>
      intro g nested order order' ts us h ho hf hg
      obtain ⟨g, rfl⟩ : ∃ m, g = m + 1 := ⟨g - 1, by omega⟩
      generalize hts : kindsOf ts = ks at h
      generalize hus : kindsOf us = ls at h
      cases h with
      | same => exact agree_same ih (hus.trans hts.symm) ho hf hg
      | here after => exact agree_here ih hts hus ho hf hg
      | layout hk h =>
          obtain ⟨n, ts, rfl, rfl⟩ := exists_of_kindsOf_cons hts
          obtain ⟨m, us, rfl, rfl⟩ := exists_of_kindsOf_cons hus
          exact agree_layout ih hk rfl h ho (Nat.lt_of_succ_lt_succ hf) (Nat.lt_of_succ_lt_succ hg)
      | line hne hl h =>
          obtain ⟨l, _, rfl, rfl, htail⟩ := List.map_eq_append_iff.mp hts
          obtain ⟨l', _, rfl, same, htail'⟩ := List.map_eq_append_iff.mp hus
          obtain ⟨n, ts, rfl, rfl⟩ := exists_of_kindsOf_cons htail
          obtain ⟨m, us, rfl, rfl⟩ := exists_of_kindsOf_cons htail'
          cases l with
          | nil => exact absurd rfl hne
          | cons t l =>
              obtain ⟨k, l', rfl, -⟩ := exists_of_kindsOf_cons same
              have ht : t.isLayout = false := hl t.kind List.mem_cons_self
              have hline : ∀ x ∈ t :: l, endsLine x = false := fun x hx =>
                not_endsLine (hl x.kind (List.mem_map_of_mem hx))
              exact agree_text ih ht hline same (by rintro _ ⟨⟩; rfl) (by rintro _ ⟨⟩; rfl) h ho
                (Nat.lt_of_succ_lt_succ hf) (Nat.lt_of_succ_lt_succ hg)

/-- A text with a clause on one line is accepted if it is accepted with the body of the clause on an
indented line of its own, wherever the clause stands. -/
theorem accepted_inline_iff (s : ShortClause) {before : List Token.Kind} (h : WholeLines before)
    (after : List Token.Kind) {inline indented : List Token}
    (hinline : kindsOf inline = before ++ (s.inline ++ after))
    (hindented : kindsOf indented = before ++ (s.indented ++ after)) :
    (∃ stmts, statements inline = .ok stmts) ↔ ∃ stmts, statements indented = .ok stmts := by
  have hmoved : s.Moved (kindsOf inline) (kindsOf indented) := by
    rw [hinline, hindented]
    exact moved_of_wholeLines h after
  have hagree := s.alike _ _ false .start .start _ _ hmoved rfl (Nat.lt_succ_self _)
    (Nat.lt_succ_self _)
  constructor
  · rintro ⟨_, hstmts⟩
    obtain ⟨r, hr, -⟩ := bind_eq_ok.mp hstmts
    obtain ⟨r', hr', -⟩ := hagree.1 r hr
    exact ⟨r'.1, bind_eq_ok.mpr ⟨r', hr', rfl⟩⟩
  · rintro ⟨_, hstmts⟩
    obtain ⟨r', hr', -⟩ := bind_eq_ok.mp hstmts
    obtain ⟨r, hr, -⟩ := hagree.2 r' hr'
    exact ⟨r.1, bind_eq_ok.mpr ⟨r, hr, rfl⟩⟩

/-- `if b: pass` in the body of a loop. -/
theorem accepted_inline_iff_nested :
    let s : ShortClause :=
      { header :=
          ⟨⟨[⟨.name "if", 1⟩, ⟨.name "b", 1⟩, ⟨.symbol .colon, 1⟩], 1, by decide, by decide⟩,
            by decide⟩
        isClause := rfl
        checked := rfl
        body := ⟨⟨[⟨.name "pass", 1⟩], 1, by decide, by decide⟩, by decide⟩
        isBody := rfl }
    let before : List Token.Kind := [.name "while", .name "a", .symbol .colon, .newline, .indent]
    let after : List Token.Kind := [.dedent, .endMarker]
    let inline : List Token := [⟨.name "while", 1⟩, ⟨.name "a", 1⟩, ⟨.symbol .colon, 1⟩,
      ⟨.newline, 1⟩, ⟨.indent, 2⟩, ⟨.name "if", 2⟩, ⟨.name "b", 2⟩, ⟨.symbol .colon, 2⟩,
      ⟨.name "pass", 2⟩, ⟨.newline, 2⟩, ⟨.dedent, 3⟩, ⟨.endMarker, 3⟩]
    let indented : List Token := [⟨.name "while", 1⟩, ⟨.name "a", 1⟩, ⟨.symbol .colon, 1⟩,
      ⟨.newline, 1⟩, ⟨.indent, 2⟩, ⟨.name "if", 2⟩, ⟨.name "b", 2⟩, ⟨.symbol .colon, 2⟩,
      ⟨.newline, 2⟩, ⟨.indent, 3⟩, ⟨.name "pass", 3⟩, ⟨.newline, 3⟩, ⟨.dedent, 4⟩, ⟨.dedent, 4⟩,
      ⟨.endMarker, 4⟩]
    WholeLines before ∧ kindsOf inline = before ++ (s.inline ++ after) ∧
      kindsOf indented = before ++ (s.indented ++ after) ∧
      (∃ stmts, statements inline = .ok stmts) ∧ ∃ stmts, statements indented = .ok stmts := by
  intro s before after inline indented
  have hbefore : WholeLines before :=
    .line (l := [.name "while", .name "a", .symbol .colon]) (by decide) (.layout rfl .nil)
  have hiff : (∃ stmts, statements inline = .ok stmts) ↔ ∃ stmts, statements indented = .ok stmts :=
    accepted_inline_iff s hbefore after rfl rfl
  have accepted : ∃ stmts, statements inline = .ok stmts := ⟨_, rfl⟩
  exact ⟨hbefore, rfl, rfl, accepted, hiff.mp accepted⟩

/-- A `case` is no keyword, and with a body behind its colon it is not taken for a header. -/
theorem inline_case_is_refused :
    let pattern : HeaderLine :=
      ⟨⟨[⟨.name "case", 2⟩, ⟨.number "1", 2⟩, ⟨.symbol .colon, 2⟩], 2, by decide, by decide⟩,
        by decide⟩
    let body : SimpleLine := ⟨⟨[⟨.name "pass", 2⟩], 2, by decide, by decide⟩, by decide⟩
    let choice : List Token := [⟨.name "match", 1⟩, ⟨.name "x", 1⟩, ⟨.symbol .colon, 1⟩,
      ⟨.newline, 1⟩, ⟨.indent, 2⟩]
    pattern.Checked ∧ body.Checked ∧
      (∃ stmts, statements (choice ++ (pattern.tokens ++ ⟨.newline, 2⟩ :: ⟨.indent, 3⟩ ::
        (body.tokens ++ [⟨.newline, 3⟩, ⟨.dedent, 4⟩, ⟨.dedent, 4⟩, ⟨.endMarker, 4⟩]))) =
          .ok stmts) ∧
      ¬ ∃ stmts, statements (choice ++ (pattern.tokens ++ (body.tokens ++
        [⟨.newline, 2⟩, ⟨.dedent, 3⟩, ⟨.endMarker, 3⟩]))) = .ok stmts := by
  refine ⟨rfl, rfl, ⟨_, rfl⟩, ?_⟩
  rintro ⟨stmts, ⟨⟩⟩

end Texts

end ShortClause

end DeclaredSchema.Source
