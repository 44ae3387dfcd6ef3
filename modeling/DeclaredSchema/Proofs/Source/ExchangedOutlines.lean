import DeclaredSchema.Proofs.Source.Accepted
import DeclaredSchema.Proofs.Source.InlineBodies

/-! # Outlines exchanged for others

An outline can be told from its tokens (`Outline.printedAll_inj`). So where some of the outlines in
a text are exchanged for others that begin with the same clause, the text is accepted as before, and
its statements are those of the new outlines in the place of the old (`Exchanged.statements`).
-/

namespace DeclaredSchema.Source

/-- A line can be told from the tokens that begin with it. -/
theorem LogicalLine.printed_inj {l l' : LogicalLine} {ts us : List Token}
    (h : l.printed ++ ts = l'.printed ++ us) : l = l' ∧ ts = us := by
  have hfront (l : LogicalLine) (ts : List Token) :
      (l.printed ++ ts).takeWhile (!·.isLayout) = l.tokens := by
    rw [printed, List.append_assoc,
      List.takeWhile_append_of_pos fun t ht => by rw [l.plain t ht]; rfl]
    exact List.append_nil _
  have htokens : l.tokens = l'.tokens := by rw [← hfront l ts, h, hfront]
  rw [printed, printed, htokens, List.append_assoc, List.append_assoc,
    List.append_cancel_left_eq] at h
  obtain ⟨hends, rfl⟩ := List.cons.inj h
  obtain ⟨tokens, ends, _, _⟩ := l
  obtain rfl : tokens = l'.tokens := htokens
  obtain rfl : ends = l'.ends := congrArg Token.line hends
  exact ⟨rfl, rfl⟩

theorem LogicalLine.printed_ne_nil (l : LogicalLine) : l.printed ≠ [] := by
  simp [printed]

/-- No line begins with a mark of indentation. -/
theorem LogicalLine.printed_ne (l : LogicalLine) {t : Token} (ht : t.isLayout = true)
    (ts us : List Token) : l.printed ++ ts ≠ t :: us := by
  obtain ⟨u, rest, hl⟩ := List.exists_cons_of_ne_nil l.nonempty
  have hu := l.plain u (hl ▸ List.mem_cons_self)
  rw [printed, hl]
  intro h
  rw [(List.cons.inj h).1, ht] at hu
  cases hu

namespace Outline

theorem printed_line (l : SimpleLine) (ts : List Token) :
    (line l).printed ++ ts = l.printed ++ ts := by
  rw [printed]

theorem printed_block (header : HeaderLine) (opens : Nat) (body : List Outline) (closes : Nat)
    (ts : List Token) : (block header opens body closes).printed ++ ts =
      header.printed ++ ⟨.indent, opens⟩ :: (printedAll body ++ ⟨.dedent, closes⟩ :: ts) := by
  simp [printed]

theorem printedAll_cons (o : Outline) (others : List Outline) (ts : List Token) :
    printedAll (o :: others) ++ ts = o.printed ++ (printedAll others ++ ts) := by
  rw [printedAll, List.append_assoc]

theorem printed_ne_nil (o : Outline) : o.printed ≠ [] := by
  cases o <;> simp [printed, LogicalLine.printed]

theorem printed_ne (o : Outline) {t : Token} (ht : t.isLayout = true) (ts us : List Token) :
    o.printed ++ ts ≠ t :: us := by
  cases o with
  | line l =>
      rw [printed_line]
      exact l.printed_ne ht _ _
  | block header opens body closes =>
      rw [printed_block]
      exact header.printed_ne ht _ _

/-- A line that opens a block is none that does not. -/
theorem header_ne_line {header : HeaderLine} {l : SimpleLine} :
    header.toLogicalLine ≠ l.toLogicalLine := by
  intro h
  have hopens := header.opens
  rw [h, l.closed] at hopens
  cases hopens

mutual

/-- An outline can be told from the tokens that begin with it. -/
theorem printed_inj (o o' : Outline) {ts us : List Token}
    (h : o.printed ++ ts = o'.printed ++ us) : o = o' ∧ ts = us := by
  match o, o' with
  | .line ⟨l, _⟩, .line l' =>
      rw [printed_line, printed_line] at h
      obtain ⟨rfl, rfl⟩ := LogicalLine.printed_inj h
      exact ⟨rfl, rfl⟩
  | .line l, .block header opens body closes =>
      rw [printed_line, printed_block] at h
      exact absurd (LogicalLine.printed_inj h).1.symm header_ne_line
  | .block header opens body closes, .line l =>
      rw [printed_line, printed_block] at h
      exact absurd (LogicalLine.printed_inj h).1 header_ne_line
  | .block ⟨l, _⟩ opens body closes, .block header' opens' body' closes' =>
      rw [printed_block, printed_block] at h
      obtain ⟨rfl, hbehind⟩ := LogicalLine.printed_inj h
      obtain ⟨⟨⟩, hbody⟩ := List.cons.inj hbehind
      obtain ⟨rfl, rfl, rfl⟩ := printedAll_inj body body' hbody
      exact ⟨rfl, rfl⟩

/-- A block can be told from the tokens up to its end. -/
theorem printedAll_inj (os os' : List Outline) {m n : Nat} {ts us : List Token}
    (h : printedAll os ++ ⟨.dedent, m⟩ :: ts = printedAll os' ++ ⟨.dedent, n⟩ :: us) :
    os = os' ∧ m = n ∧ ts = us := by
  match os, os' with
  | [], [] =>
      obtain ⟨⟨⟩, rfl⟩ := List.cons.inj h
      exact ⟨rfl, rfl, rfl⟩
  | [], o :: others =>
      rw [printedAll_cons] at h
      exact absurd h.symm (o.printed_ne rfl _ _)
  | o :: others, [] =>
      rw [printedAll_cons] at h
      exact absurd h (o.printed_ne rfl _ _)
  | o :: others, o' :: others' =>
      rw [printedAll_cons, printedAll_cons] at h
      obtain ⟨rfl, hothers⟩ := printed_inj o o' h
      obtain ⟨rfl, hends⟩ := printedAll_inj others others' hothers
      exact ⟨rfl, hends⟩

end

end Outline

/-! ## Texts and outlines with something exchanged -/

/-- The tokens of two texts that are the same, but for outlines that are exchanged for others. -/
inductive Exchanged (R : Outline → Outline → Prop) : List Token → List Token → Prop
  | nil : Exchanged R [] []
  | layout {t u : Token} {ts us : List Token} (ht : t.isLayout = true) (same : u.kind = t.kind)
      (h : Exchanged R ts us) : Exchanged R (t :: ts) (u :: us)
  | line {l l' : LogicalLine} {ts us : List Token} (same : kindsOf l'.tokens = kindsOf l.tokens)
      (h : Exchanged R ts us) : Exchanged R (l.printed ++ ts) (l'.printed ++ us)
  | here {o o' : Outline} {ts us : List Token} (ho : R o o') (h : Exchanged R ts us) :
      Exchanged R (o.printed ++ ts) (o'.printed ++ us)

/-- Outlines that are the same, but for those that are exchanged for others. -/
inductive Alike (R : Outline → Outline → Prop) : List Outline → List Outline → Prop
  | nil : Alike R [] []
  | line {l l' : SimpleLine} {os os' : List Outline} (same : kindsOf l'.tokens = kindsOf l.tokens)
      (h : Alike R os os') : Alike R (.line l :: os) (.line l' :: os')
  | block {header header' : HeaderLine} {opens opens' closes closes' : Nat}
      {body body' os os' : List Outline} (same : kindsOf header'.tokens = kindsOf header.tokens)
      (hbody : Alike R body body') (h : Alike R os os') :
      Alike R (.block header opens body closes :: os) (.block header' opens' body' closes' :: os')
  | here {o o' : Outline} {os os' : List Outline} (ho : R o o') (h : Alike R os os') :
      Alike R (o :: os) (o' :: os')

variable {R : Outline → Outline → Prop}

namespace Exchanged

variable {ts us : List Token}

theorem swap (h : Exchanged R ts us) : Exchanged (Function.swap R) us ts := by
  induction h with
  | nil => exact .nil
  | layout ht same _ ih => exact .layout (by rw [← isLayout_kind, same]; exact ht) same.symm ih
  | line same _ ih => exact .line same.symm ih
  | here ho _ ih => exact .here ho ih

/-- Behind a mark of indentation the texts go on alike. -/
theorem behind_layout {t : Token} (ht : t.isLayout = true) (h : Exchanged R (t :: ts) us) :
    ∃ u rest, us = u :: rest ∧ u.kind = t.kind ∧ Exchanged R ts rest := by
  generalize hts : t :: ts = ts' at h
  cases h with
  | nil => cases hts
  | layout _ same h =>
      obtain ⟨rfl, rfl⟩ := List.cons.inj hts
      exact ⟨_, _, rfl, same, h⟩
  | line same h => exact absurd hts.symm (LogicalLine.printed_ne _ ht _ _)
  | here ho h => exact absurd hts.symm (Outline.printed_ne _ ht _ _)

/-- Behind a line they go on alike, if no outline is exchanged that begins with it. -/
theorem behind_line {l : LogicalLine} (h : Exchanged R (l.printed ++ ts) us) :
    (∃ (l' : LogicalLine) (rest : List Token), us = l'.printed ++ rest ∧
      kindsOf l'.tokens = kindsOf l.tokens ∧ Exchanged R ts rest) ∨
    ∃ o o' behind rest, R o o' ∧ l.printed ++ ts = o.printed ++ behind ∧
      us = o'.printed ++ rest ∧ Exchanged R behind rest := by
  generalize hts : l.printed ++ ts = ts' at h
  cases h with
  | nil => exact absurd (List.append_eq_nil_iff.mp hts).1 l.printed_ne_nil
  | layout ht _ _ => exact absurd hts (l.printed_ne ht _ _)
  | line same h =>
      obtain ⟨rfl, rfl⟩ := LogicalLine.printed_inj hts
      exact .inl ⟨_, _, rfl, same, h⟩
  | here ho h => exact .inr ⟨_, _, _, _, ho, rfl, rfl, h⟩

end Exchanged

namespace Outline

/-- The outlines of the second text, by recursion over those of the first. -/
theorem exists_alike (os : List Outline) {tail us : List Token}
    (h : Exchanged R (printedAll os ++ tail) us) :
    ∃ os' tail', us = printedAll os' ++ tail' ∧ Alike R os os' ∧ Exchanged R tail tail' := by
  have hhere {o : Outline} {others : List Outline}
      (hexchanged : ∃ o₁ o' behind rest, R o₁ o' ∧ o.printed ++ (printedAll others ++ tail) =
        o₁.printed ++ behind ∧ us = o'.printed ++ rest ∧ Exchanged R behind rest)
      (ih : ∀ {us}, Exchanged R (printedAll others ++ tail) us →
        ∃ os' tail', us = printedAll os' ++ tail' ∧ Alike R others os' ∧ Exchanged R tail tail') :
      ∃ os' tail', us = printedAll os' ++ tail' ∧ Alike R (o :: others) os' ∧
        Exchanged R tail tail' := by
    obtain ⟨o₁, o', behind, rest, ho, hprinted, rfl, hbehind⟩ := hexchanged
    obtain ⟨rfl, rfl⟩ := printed_inj o o₁ hprinted
    obtain ⟨os', tail', rfl, halike, htail⟩ := ih hbehind
    exact ⟨o' :: os', tail', (printedAll_cons o' os' tail').symm, .here ho halike, htail⟩
  match os with
  | [] => exact ⟨[], us, rfl, .nil, h⟩
  | .line l :: others =>
      rw [printedAll_cons, printed_line] at h
      obtain ⟨l', rest, rfl, same, hrest⟩ | hexchanged := h.behind_line
      · obtain ⟨os', tail', rfl, halike, htail⟩ := exists_alike others hrest
        have hclosed := (ShortClause.opensBlock_of_kinds same).trans l.closed
        refine ⟨.line ⟨l', hclosed⟩ :: os', tail', ?_, .line same halike, htail⟩
        rw [printedAll_cons, printed_line]
      · exact hhere (by rwa [printed_line]) fun h => exists_alike others h
  | .block header opens body closes :: others =>
      rw [printedAll_cons, printed_block] at h
      obtain ⟨l', rest, rfl, same, hrest⟩ | hexchanged := h.behind_line
      · obtain ⟨⟨kind, opens'⟩, inner, rfl, hkind, hinner⟩ := hrest.behind_layout rfl
        obtain rfl : kind = .indent := hkind
        obtain ⟨body', between, rfl, hbody, hbetween⟩ := exists_alike body hinner
        obtain ⟨⟨kind, closes'⟩, behind, rfl, hkind, hbehind⟩ := hbetween.behind_layout rfl
        obtain rfl : kind = .dedent := hkind
        obtain ⟨os', tail', rfl, halike, htail⟩ := exists_alike others hbehind
        have hopens := (ShortClause.opensBlock_of_kinds same).trans header.opens
        refine ⟨.block ⟨l', hopens⟩ opens' body' closes' :: os', tail', ?_,
          .block same hbody halike, htail⟩
        rw [printedAll_cons, printed_block]
      · exact hhere (by rwa [printed_block]) fun h => exists_alike others h

end Outline

/-! ## Whole lines -/

theorem plain_kindsOf {ts : List Token} (h : ∀ t ∈ ts, t.isLayout = false) :
    ∀ k ∈ kindsOf ts, k.isLayout = false := by
  intro k hk
  obtain ⟨t, ht, rfl⟩ := List.mem_map.mp hk
  exact h t ht

/-- A line that is given by the kinds of its tokens. -/
theorem LogicalLine.exists_of_kinds {ts : List Token} {line ks : List Token.Kind}
    (h : kindsOf ts = line ++ .newline :: ks) (plain : ∀ k ∈ line, k.isLayout = false)
    (nonempty : line ≠ []) : ∃ (l : LogicalLine) (rest : List Token),
      ts = l.printed ++ rest ∧ kindsOf l.tokens = line ∧ kindsOf rest = ks := by
  obtain ⟨tokens, behind, rfl, hline, hbehind⟩ := List.map_eq_append_iff.mp h
  obtain ⟨n, rest, rfl, hrest⟩ := exists_of_kindsOf_cons hbehind
  have hne : tokens ≠ [] := by
    rintro rfl
    exact nonempty hline.symm
  refine ⟨⟨tokens, n, hne, fun t ht => ?_⟩, rest, ?_, hline, hrest⟩
  · exact plain t.kind (hline ▸ List.mem_map_of_mem ht)
  · rw [printed, List.append_assoc]
    rfl

namespace WholeLines

variable {ks ks' line : List Token.Kind} {k : Token.Kind}

theorem behind_line (plain : ∀ k ∈ line, k.isLayout = false)
    (h : WholeLines (line ++ .newline :: ks)) : WholeLines ks := by
  have hdrop {line : List Token.Kind} (plain : ∀ k ∈ line, k.isLayout = false)
      (ks : List Token.Kind) :
      (line ++ .newline :: ks).dropWhile (!·.isLayout) = .newline :: ks := by
    rw [List.dropWhile_append_of_pos fun k hk => by rw [plain k hk]; rfl]
    rfl
  generalize hall : line ++ .newline :: ks = all at h
  cases h with
  | nil => simp at hall
  | layout hk h =>
      cases line with
      | nil => exact (List.cons.inj hall).2 ▸ h
      | cons first line =>
          rw [← (List.cons.inj hall).1, plain first List.mem_cons_self] at hk
          cases hk
  | line hl h =>
      have hbehind := hdrop plain ks
      rw [hall, hdrop hl] at hbehind
      exact (List.cons.inj hbehind).2 ▸ h

theorem behind_layout (hk : k.isLayout = true) (h : WholeLines (k :: ks)) : WholeLines ks := by
  generalize hall : k :: ks = all at h
  cases h with
  | nil => cases hall
  | layout _ h => exact (List.cons.inj hall).2 ▸ h
  | @line l _ hl h =>
      cases l with
      | nil => exact (List.cons.inj hall).2 ▸ h
      | cons first l =>
          rw [(List.cons.inj hall).1, hl first List.mem_cons_self] at hk
          cases hk

/-- Whole lines are left of whole lines. -/
theorem behind (h : WholeLines ks) (hall : WholeLines (ks ++ ks')) : WholeLines ks' := by
  induction h with
  | nil => exact hall
  | layout hk _ ih => exact ih (hall.behind_layout hk)
  | line hl _ ih =>
      rw [List.append_assoc] at hall
      exact ih (hall.behind_line hl)

theorem append (h : WholeLines ks) (h' : WholeLines ks') : WholeLines (ks ++ ks') := by
  induction h with
  | nil => exact h'
  | layout hk _ ih => exact .layout hk ih
  | line hl _ ih =>
      rw [List.append_assoc]
      exact .line hl ih

/-- The tokens of whole lines begin with a mark of indentation or with a line. -/
theorem tokens_cases {ts : List Token} (h : WholeLines (kindsOf ts)) :
    ts = [] ∨ (∃ t rest, ts = t :: rest ∧ t.isLayout = true ∧ WholeLines (kindsOf rest)) ∨
      ∃ (l : LogicalLine) (rest : List Token), ts = l.printed ++ rest ∧
        WholeLines (kindsOf rest) := by
  generalize hks : kindsOf ts = ks at h
  cases h with
  | nil => exact .inl (List.map_eq_nil_iff.mp hks)
  | layout hk h =>
      obtain ⟨n, rest, rfl, rfl⟩ := exists_of_kindsOf_cons hks
      exact .inr (.inl ⟨_, rest, rfl, hk, h⟩)
  | @line l _ hl h =>
      cases l with
      | nil =>
          obtain ⟨n, rest, rfl, rfl⟩ := exists_of_kindsOf_cons hks
          exact .inr (.inl ⟨_, rest, rfl, rfl, h⟩)
      | cons first l =>
          obtain ⟨line, rest, rfl, -, rfl⟩ :=
            LogicalLine.exists_of_kinds hks hl (List.cons_ne_nil first l)
          exact .inr (.inr ⟨line, rest, rfl, h⟩)

end WholeLines

/-- Whole lines that are the same in front of texts that go on alike. -/
theorem Exchanged.behind_wholeLines {ks : List Token.Kind} (hks : WholeLines ks)
    {front front' ts us : List Token} (same : kindsOf front = ks) (same' : kindsOf front' = ks)
    (h : Exchanged R ts us) : Exchanged R (front ++ ts) (front' ++ us) := by
  induction hks generalizing front front' with
  | nil =>
      obtain rfl := List.map_eq_nil_iff.mp same
      obtain rfl := List.map_eq_nil_iff.mp same'
      exact h
  | layout hk _ ih =>
      obtain ⟨n, front, rfl, hfront⟩ := exists_of_kindsOf_cons same
      obtain ⟨m, front', rfl, hfront'⟩ := exists_of_kindsOf_cons same'
      exact .layout hk rfl (ih hfront hfront')
  | @line l ks hl _ ih =>
      cases l with
      | nil =>
          obtain ⟨n, front, rfl, hfront⟩ := exists_of_kindsOf_cons same
          obtain ⟨m, front', rfl, hfront'⟩ := exists_of_kindsOf_cons same'
          exact .layout rfl rfl (ih hfront hfront')
      | cons first l =>
          have hne := List.cons_ne_nil first l
          obtain ⟨line, front, rfl, hline, hfront⟩ := LogicalLine.exists_of_kinds same hl hne
          obtain ⟨line', front', rfl, hline', hfront'⟩ := LogicalLine.exists_of_kinds same' hl hne
          rw [List.append_assoc, List.append_assoc]
          exact .line (hline'.trans hline.symm) (ih hfront hfront')

theorem Laid.wholeLines {a b : Nat} {ts : List Token} (h : Laid a b ts) :
    WholeLines (kindsOf ts) := by
  induction h with
  | nil => exact .nil
  | indent n _ ih | dedent n _ ih => exact .layout rfl ih
  | @line _ _ ts l _ _ ih =>
      have hline := WholeLines.line (plain_kindsOf l.plain) ih
      simpa [LogicalLine.printed] using hline

theorem wholeLines_of_tokenize {text : String} {ts : List Token} (h : tokenize text = .ok ts) :
    WholeLines (kindsOf ts) := by
  obtain ⟨lines, last, rfl, hlaid⟩ := laid_of_tokenize h
  rw [kindsOf_append]
  exact hlaid.wholeLines.append (.layout rfl .nil)

/-- A line that opens no block, with a mark behind it that one opens, stands nowhere in outlines. By
recursion over these. -/
theorem Outline.exists_behind (os : List Outline) {tail front behind : List Token}
    {l : SimpleLine} {n : Nat} (hfront : WholeLines (kindsOf front))
    (htail : ∀ t ∈ tail.head?, t.kind ≠ .indent)
    (h : printedAll os ++ tail = front ++ (l.printed ++ ⟨.indent, n⟩ :: behind)) :
    ∃ rest, WholeLines (kindsOf rest) ∧ tail = rest ++ (l.printed ++ ⟨.indent, n⟩ :: behind) := by
  match os with
  | [] => exact ⟨front, hfront, h⟩
  | .line l₀ :: others =>
      rw [printedAll_cons, printed_line] at h
      obtain rfl | ⟨t, rest, rfl, ht, -⟩ | ⟨l₁, rest, rfl, hrest⟩ := hfront.tokens_cases
      · obtain ⟨-, hothers⟩ := LogicalLine.printed_inj h
        cases others with
        | nil =>
            obtain rfl : tail = ⟨.indent, n⟩ :: behind := hothers
            exact absurd rfl (htail _ rfl)
        | cons o others =>
            rw [printedAll_cons] at hothers
            exact absurd hothers (o.printed_ne rfl _ _)
      · exact absurd h (l₀.printed_ne ht _ _)
      · rw [List.append_assoc] at h
        exact exists_behind others hrest htail (LogicalLine.printed_inj h).2
  | .block header opens body closes :: others =>
      rw [printedAll_cons, printed_block] at h
      have hmark {t : Token} (ht : t.isLayout = true) {ts rest : List Token}
          (hrest : WholeLines (kindsOf rest))
          (h : t :: ts = rest ++ (l.printed ++ ⟨.indent, n⟩ :: behind)) :
          ∃ more, WholeLines (kindsOf more) ∧
            ts = more ++ (l.printed ++ ⟨.indent, n⟩ :: behind) := by
        cases rest with
        | nil => exact absurd h.symm (l.printed_ne ht _ _)
        | cons u more =>
            obtain ⟨rfl, hts⟩ := List.cons.inj h
            exact ⟨more, hrest.behind_layout ht, hts⟩
      obtain rfl | ⟨t, rest, rfl, ht, -⟩ | ⟨l₁, rest, rfl, hrest⟩ := hfront.tokens_cases
      · exact absurd (LogicalLine.printed_inj h).1 header_ne_line
      · exact absurd h (header.printed_ne ht _ _)
      · rw [List.append_assoc] at h
        obtain ⟨inner, hinner, hbody⟩ := hmark rfl hrest (LogicalLine.printed_inj h).2
        obtain ⟨rest, hrest, hends⟩ := exists_behind body hinner (by rintro t ⟨⟩ ⟨⟩) hbody
        obtain ⟨more, hmore, hothers⟩ := hmark rfl hrest hends
        exact exists_behind others hmore htail hothers

/-- In an accepted text no block opens behind a line that opens none. -/
theorem Outline.printedAll_ne (os : List Outline) {front behind : List Token} {l : SimpleLine}
    {m n : Nat} (hfront : WholeLines (kindsOf front)) :
    printedAll os ++ [⟨.endMarker, m⟩] ≠ front ++ (l.printed ++ ⟨.indent, n⟩ :: behind) := by
  intro h
  obtain ⟨rest, -, hend⟩ := exists_behind os hfront (by rintro t ⟨⟩ ⟨⟩) h
  have hlength := congrArg List.length hend
  have hline := List.length_pos_of_ne_nil l.nonempty
  simp only [LogicalLine.printed, List.length_append, List.length_cons, List.length_nil]
    at hlength
  omega

/-! ## Accepted texts -/

theorem Outline.checked_cons {o : Outline} {others : List Outline} :
    Checked (o :: others) ↔ Checked [o] ∧ Checked others := by
  simp [Checked, linesOf, or_imp, forall_and]

theorem Outline.bodiesAccepted_cons {o : Outline} {others : List Outline} :
    BodiesAccepted (o :: others) ↔ BodiesAccepted [o] ∧ BodiesAccepted others := by
  simp [BodiesAccepted, bodiesOf, or_imp, forall_and]

/-- What is put in the place of an outline is accepted there. -/
structure Fitting (R : Outline → Outline → Prop) : Prop where
  clause {o o' : Outline} : R o o' → clauseOf? o'.lead.tokens = clauseOf? o.lead.tokens
  checked {o o' : Outline} : R o o' → Outline.Checked [o']
  bodies {o o' : Outline} : R o o' → Outline.BodiesAccepted [o']

namespace Alike

variable {os os' : List Outline}

theorem clauses (hR : Fitting R) (h : Alike R os os') :
    Outline.clauses os' = Outline.clauses os := by
  induction h with
  | nil => rfl
  | line same _ ih => exact congrArg₂ List.cons (clauseOf?_of_kinds same) ih
  | block same _ _ _ ih => exact congrArg₂ List.cons (clauseOf?_of_kinds same) ih
  | here ho _ ih => exact congrArg₂ List.cons (hR.clause ho) ih

theorem checked_of_kinds {l l' : LogicalLine} (same : kindsOf l'.tokens = kindsOf l.tokens)
    (h : l.Checked) : l'.Checked := by
  rw [LogicalLine.Checked, ShortClause.opensBlock_of_kinds same]
  exact checkLine_of_kinds same h

theorem checked (hR : Fitting R) (h : Alike R os os') (hos : Outline.Checked os) :
    Outline.Checked os' := by
  induction h with
  | nil => exact hos
  | line same _ ih =>
      obtain ⟨hl, hothers⟩ := Outline.checked_line.mp hos
      exact Outline.checked_line.mpr ⟨checked_of_kinds same hl, ih hothers⟩
  | block same _ _ ihbody ih =>
      obtain ⟨hheader, hbody, hothers⟩ := Outline.checked_block.mp hos
      exact Outline.checked_block.mpr ⟨checked_of_kinds same hheader, ihbody hbody, ih hothers⟩
  | here ho _ ih =>
      obtain ⟨-, hothers⟩ := Outline.checked_cons.mp hos
      exact Outline.checked_cons.mpr ⟨hR.checked ho, ih hothers⟩

theorem bodies (hR : Fitting R) (h : Alike R os os') (hos : Outline.BodiesAccepted os) :
    Outline.BodiesAccepted os' := by
  induction h with
  | nil => exact hos
  | line _ _ ih => exact Outline.bodiesAccepted_line.mpr (ih (Outline.bodiesAccepted_line.mp hos))
  | block _ hbody _ ihbody ih =>
      obtain ⟨⟨haccepts, hbodies⟩, hothers⟩ := Outline.bodiesAccepted_block.mp hos
      refine Outline.bodiesAccepted_block.mpr ⟨⟨?_, ihbody hbodies⟩, ih hothers⟩
      rwa [hbody.clauses hR]
  | here ho _ ih =>
      obtain ⟨-, hothers⟩ := Outline.bodiesAccepted_cons.mp hos
      exact Outline.bodiesAccepted_cons.mpr ⟨hR.bodies ho, ih hothers⟩

end Alike

namespace Exchanged

variable {ts us : List Token}

theorem eq_nil (h : Exchanged R [] us) : us = [] := by
  generalize hts : ([] : List Token) = ts at h
  cases h with
  | nil => rfl
  | layout => cases hts
  | @line l => exact absurd (List.append_eq_nil_iff.mp hts.symm).1 l.printed_ne_nil
  | @here o => exact absurd (List.append_eq_nil_iff.mp hts.symm).1 o.printed_ne_nil

/-- With fitting outlines a text is accepted as it was, and its outlines are the same but for
them. -/
theorem statements (hR : Fitting R) (h : Exchanged R ts us) {text : String}
    (htokens : tokenize text = .ok ts) {stmts : List Statement}
    (hstmts : Source.statements ts = .ok stmts) :
    ∃ os os', Alike R os os' ∧ stmts = Outline.statementsOf os ∧
      Source.statements us = .ok (Outline.statementsOf os') := by
  obtain ⟨os, last, rfl, haccepted, rfl⟩ := exists_outline htokens hstmts
  obtain ⟨os', tail, rfl, halike, htail⟩ := Outline.exists_alike os h
  obtain ⟨⟨kind, n⟩, rest, rfl, hkind, hrest⟩ := htail.behind_layout rfl
  obtain rfl : kind = .endMarker := hkind
  obtain rfl := hrest.eq_nil
  have hchecked : Outline.Checked os := fun l hl => (haccepted l hl).checked
  obtain ⟨hsequenced, -⟩ := ((Outline.statements_tokens_iff os hchecked last).1 _).mp hstmts
  obtain ⟨hblock, hbodies⟩ := Outline.sequenced_iff_accepts.mp hsequenced
  have hsequenced' : Outline.Sequenced true os' :=
    Outline.sequenced_iff_accepts.mpr ⟨halike.clauses hR ▸ hblock, halike.bodies hR hbodies⟩
  refine ⟨os, os', halike, rfl, ?_⟩
  exact ((Outline.statements_tokens_iff os' (halike.checked hR hchecked) n).1 _).mpr
    ⟨hsequenced', rfl⟩

end Exchanged

end DeclaredSchema.Source
