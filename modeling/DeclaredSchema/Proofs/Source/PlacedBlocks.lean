import DeclaredSchema.Proofs.Source.PlacedCuts
import DeclaredSchema.Proofs.Source.PlacedLines
import DeclaredSchema.Proofs.Source.Outlines

/-! # Blocks read by places

The statements of a text by the places of its tokens. A line is the slice up to the token that ends
it and holds at least the token that it begins with; an indentation is looked at only where one has
been found. Each round takes a token, so a round for each is enough, and the statements are those of
the tokens (`statementsAt_eq`).
-/

namespace DeclaredSchema.Source.ByPlace

/-! ## The reader -/

/-- The statements of a line without a block. None of the parts between semicolons is empty when its
first token is looked at. -/
def simpleLinesAt (tokens : List Token) (line : Nat) : Checked (List Statement) :=
  if (clauseOf? tokens).isSome then some [.simple ⟨tokens, line⟩]
  else do
    let parts ← partsAt .semicolon tokens
    (parts.filter (!·.isEmpty)).mapM fun part => do
      let first ← at? part 0
      some (.simple ⟨part, first.line⟩)

/-- Statements and the place behind them, or why there are none. -/
abbrev PlacedBlock := Checked (Except SyntaxError (List Statement × Nat))

def isKindAt (tokens : List Token) (kind : Token.Kind) (place : Nat) : Bool :=
  tokens[place]?.any (·.kind = kind)

/-- The place behind the end of a line that ends at a place. -/
def behindEndAt (tokens : List Token) (last : Nat) : Nat :=
  if isKindAt tokens .newline last then last + 1 else last

/-- The statements behind a line, which `block` reads, with the line in front of them. -/
def readBehindAt (tokens : List Token) (block : Bool → ClauseOrder → Nat → PlacedBlock)
    (nested : Bool) (order : ClauseOrder) (line : Line) (behind : Nat) : PlacedBlock :=
  if opensBlock line.tokens then
    if isKindAt tokens .indent behind then
      unlessError (block true .start (behind + 1)) fun (body, behind) =>
        unlessError (block nested order behind) fun (others, behind) =>
          some (.ok (.compound line body :: others, behind))
    else some (.error ⟨line.line, .missingBlock⟩)
  else if isKindAt tokens .indent behind then do
    let below ← at? tokens behind
    some (.error ⟨below.line, .unexpectedIndent⟩)
  else do
    let statements ← simpleLinesAt line.tokens line.line
    unlessError (block nested order behind) fun (others, behind) =>
      some (.ok (statements ++ others, behind))

/-- The statements from a place on where a line begins, which `line` is the number of. -/
def readLineAt (before : Nat) (tokens : List Token)
    (block : Bool → ClauseOrder → Nat → PlacedBlock) (nested : Bool) (order : ClauseOrder)
    (line place : Nat) : PlacedBlock := do
  let last := pastWhile (!endsLine ·) tokens place
  let text ← slice? tokens place last
  unlessError (checkLineAt before text (opensBlock text)) fun _ =>
    unlessError (some (order.next text line)) fun order =>
      readBehindAt tokens block nested order ⟨text, line⟩ (behindEndAt tokens last)

/-- The statements from a place up to the end of a block, and the place behind it. -/
def readBlockAt (before : Nat) (tokens : List Token) :
    Nat → Bool → ClauseOrder → Nat → PlacedBlock
  | 0, _, _, _ => none
  | fuel + 1, nested, order, place =>
    match tokens[place]? with
    | none => some (order.finish.map fun _ => ([], place))
    | some t => match t.kind with
      | .endMarker => some (order.finish.map fun _ => ([], place))
      | .dedent =>
        if nested then some (order.finish.map fun _ => ([], place + 1))
        else readBlockAt before tokens fuel nested order (place + 1)
      | .newline => readBlockAt before tokens fuel nested order (place + 1)
      | .indent => some (.error ⟨t.line, .unexpectedIndent⟩)
      | _ => readLineAt before tokens (readBlockAt before tokens fuel) nested order t.line place

/-- The statements of a whole text. -/
def statementsAt (before : Nat) (tokens : List Token) :
    Checked (Except SyntaxError (List Statement)) :=
  unlessError (readBlockAt before tokens (tokens.length + 1) false .start 0) fun (body, _) =>
    some (.ok body)

/-! ## The same statements -/

/-- A block that is read from a place on is the block of what stands there, and what is told is a
place behind. -/
def ReadsFrom (tokens : List Token) (place : Nat) (x : PlacedBlock)
    (y : Except SyntaxError (List Statement × List Token)) : Prop :=
  ∃ outcome, x = some outcome ∧
    outcome.map (fun (body, behind) => (body, tokens.drop behind)) = y ∧
    ∀ body behind, outcome = .ok (body, behind) → place ≤ behind ∧ behind ≤ tokens.length

section Blocks

variable {tokens rest : List Token} {place before : Nat} {x : PlacedBlock}
  {y : Except SyntaxError (List Statement × List Token)}

/-- A part has a first token exactly if it is not empty. -/
theorem simpleStatementsAt_eq (parts : List (List Token)) :
    (parts.filter (!·.isEmpty)).mapM (fun part => do
      let first ← at? part 0
      some (Statement.simple ⟨part, first.line⟩)) =
    some (parts.filterMap fun part => part.head?.map fun first => .simple ⟨part, first.line⟩) := by
  induction parts with
  | nil => rfl
  | cons part parts ih =>
      cases part with
      | nil => exact ih
      | cons t ts =>
          rw [List.filter_cons_of_pos rfl, List.mapM_cons, ih]
          rfl

theorem simpleLinesAt_eq (tokens : List Token) (line : Nat) :
    simpleLinesAt tokens line = some (simpleLines tokens line) := by
  rw [simpleLinesAt, simpleLines]
  split
  · rfl
  rw [partsAt_eq]
  exact simpleStatementsAt_eq _

theorem ReadsFrom.error (e : SyntaxError) : ReadsFrom tokens place (some (.error e)) (.error e) :=
  ⟨.error e, rfl, rfl, nofun⟩

theorem ReadsFrom.mono (h : ReadsFrom tokens place x y) {earlier : Nat} (hle : earlier ≤ place) :
    ReadsFrom tokens earlier x y := by
  obtain ⟨outcome, hx, hy, hbounds⟩ := h
  refine ⟨outcome, hx, hy, fun body behind hok => ?_⟩
  obtain ⟨hfirst, hlast⟩ := hbounds body behind hok
  exact ⟨Nat.le_trans hle hfirst, hlast⟩

/-- What goes on behind a block goes on from its place. -/
theorem ReadsFrom.bind (h : ReadsFrom tokens place x y) {next : List Statement × Nat → PlacedBlock}
    {goOn : List Statement × List Token → Except SyntaxError (List Statement × List Token)}
    (hnext : ∀ body behind, place ≤ behind → behind ≤ tokens.length →
      ReadsFrom tokens place (next (body, behind)) (goOn (body, tokens.drop behind))) :
    ReadsFrom tokens place (unlessError x next) (y >>= goOn) := by
  obtain ⟨outcome, rfl, rfl, hbounds⟩ := h
  cases outcome with
  | error e => exact .error e
  | ok read =>
      obtain ⟨body, behind⟩ := read
      obtain ⟨hfirst, hlast⟩ := hbounds body behind rfl
      exact hnext body behind hfirst hlast

theorem ReadsFrom.ok (body : List Statement) {behind : Nat} (hfirst : place ≤ behind)
    (hlast : behind ≤ tokens.length) :
    ReadsFrom tokens place (some (.ok (body, behind))) (.ok (body, tokens.drop behind)) :=
  ⟨_, rfl, rfl, fun _ _ h => by cases h; exact ⟨hfirst, hlast⟩⟩

/-- Where the block may end, its clauses are finished. -/
theorem ReadsFrom.finish (order : ClauseOrder) {behind : Nat} (hfirst : place ≤ behind)
    (hlast : behind ≤ tokens.length) (hrest : tokens.drop behind = rest) :
    ReadsFrom tokens place (some (order.finish.map fun _ => ([], behind)))
      (do order.finish; .ok ([], rest)) := by
  subst hrest
  cases order.finish with
  | error e => exact .error e
  | ok _ => exact .ok [] hfirst hlast

theorem readsFrom_behind {fuel : Nat} {block : Bool → ClauseOrder → Nat → PlacedBlock}
    (hblock : ∀ nested order place', place ≤ place' → place' ≤ tokens.length →
      ReadsFrom tokens place' (block nested order place')
        (readBlock fuel nested order (tokens.drop place')))
    (nested : Bool) (order : ClauseOrder) (line : Line) (hplace : place ≤ tokens.length)
    (hrest : tokens.drop place = rest) :
    ReadsFrom tokens place (readBehindAt tokens block nested order line place)
      (readBehind fuel nested order line (opensBlock line.tokens) rest) := by
  rw [readBehindAt]
  by_cases hindent : ∃ n inner, rest = ⟨.indent, n⟩ :: inner
  · obtain ⟨n, inner, rfl⟩ := hindent
    have hat : tokens[place]? = some ⟨.indent, n⟩ := getElem?_of_drop hrest
    have hkind : isKindAt tokens .indent place = true := by simp [isKindAt, hat]
    rw [hkind]
    cases opensBlock line.tokens with
    | true =>
        have hinner : tokens.drop (place + 1) = inner := drop_succ_of_drop hrest
        have hlt : place < tokens.length := lt_length_of_drop hrest
        subst hinner
        rw [readBehind_opens]
        refine ReadsFrom.bind ((hblock true .start (place + 1) (Nat.le_succ place) hlt).mono
          (Nat.le_succ place)) fun body behind hfirst hlast => ?_
        refine ReadsFrom.bind ((hblock nested order behind hfirst hlast).mono hfirst)
          fun others last hmore hend => ?_
        exact .ok _ hmore hend
    | false =>
        have hlook : at? tokens place = some ⟨.indent, n⟩ := hat
        rw [hlook]
        exact .error _
  · have hkind : isKindAt tokens .indent place = false := by
      rw [isKindAt, ← List.head?_drop, hrest]
      cases rest with
      | nil => rfl
      | cons t ts =>
          obtain ⟨kind, n⟩ := t
          have hne : kind ≠ .indent := fun h => hindent ⟨n, ts, by rw [h]⟩
          simp [hne]
    have flat : ∀ t ∈ rest.head?, t.kind ≠ .indent := by
      intro t ht hkind
      obtain ⟨inner, rfl⟩ := List.head?_eq_some_iff.mp ht
      exact hindent ⟨t.line, inner, by rw [← hkind]⟩
    rw [hkind]
    cases opensBlock line.tokens with
    | true =>
        rw [readBehind_missing flat]
        exact .error _
    | false =>
        subst hrest
        rw [readBehind_flat flat, simpleLinesAt_eq]
        refine ReadsFrom.bind (hblock nested order place (Nat.le_refl place) hplace)
          fun others last hmore hend => ?_
        exact .ok _ hmore hend

theorem behindEndAt_eq (hplace : place ≤ tokens.length) (hrest : tokens.drop place = rest) :
    tokens.drop (behindEndAt tokens place) = behindEnd rest ∧
      place ≤ behindEndAt tokens place ∧ behindEndAt tokens place ≤ tokens.length := by
  rw [behindEndAt, isKindAt, ← List.head?_drop, hrest]
  cases rest with
  | nil => exact ⟨hrest, Nat.le_refl place, hplace⟩
  | cons t ts =>
      obtain ⟨kind, n⟩ := t
      cases kind with
      | newline =>
          exact ⟨drop_succ_of_drop hrest, Nat.le_succ place, lt_length_of_drop hrest⟩
      | _ => exact ⟨hrest, Nat.le_refl place, hplace⟩

theorem readsFrom_line {fuel : Nat} {block : Bool → ClauseOrder → Nat → PlacedBlock}
    (before : Nat) (nested : Bool) (order : ClauseOrder) {t : Token} {ts : List Token}
    (hrest : tokens.drop place = t :: ts) (ht : t.isLayout = false)
    (hblock : ∀ nested order place', place < place' → place' ≤ tokens.length →
      ReadsFrom tokens place' (block nested order place')
        (readBlock fuel nested order (tokens.drop place'))) :
    ReadsFrom tokens place (readLineAt before tokens block nested order t.line place)
      (readBlock (fuel + 1) nested order (t :: ts)) := by
  have hplace : place < tokens.length := lt_length_of_drop hrest
  obtain ⟨hslice, htail, -, hlast⟩ :=
    slice?_pastWhile (!endsLine ·) hrest (Nat.le_of_lt hplace)
  obtain ⟨hbehind, hend, hbound⟩ := behindEndAt_eq hlast htail
  have hfirst : (t :: ts).takeWhile (!endsLine ·) = t :: ts.takeWhile (!endsLine ·) :=
    List.takeWhile_cons_of_pos (by rw [not_endsLine ht]; rfl)
  have hlater : place < pastWhile (!endsLine ·) tokens place := by
    rw [pastWhile_eq, hrest, hfirst, List.length_cons]
    omega
  have hread : readBlock (fuel + 1) nested order (t :: ts) = (do
      checkLine (t :: ts.takeWhile (!endsLine ·)) (opensBlock (t :: ts.takeWhile (!endsLine ·)))
      let order ← order.next (t :: ts.takeWhile (!endsLine ·)) t.line
      readBehind fuel nested order ⟨t :: ts.takeWhile (!endsLine ·), t.line⟩
        (opensBlock (t :: ts.takeWhile (!endsLine ·)))
        (behindEnd ((t :: ts).dropWhile (!endsLine ·)))) := by
    have hline : ∀ u ∈ t :: ts.takeWhile (!endsLine ·), endsLine u = false := by
      rw [← hfirst]
      exact fun u hu => by simpa using List.mem_takeWhile_imp hu
    have hends : ∀ u ∈ ((t :: ts).dropWhile (!endsLine ·)).head?, endsLine u = true := by
      intro u hu
      have hnot := List.head?_dropWhile_not (!endsLine ·) (t :: ts)
      rw [Option.mem_def.mp hu] at hnot
      simpa using hnot
    rw [← readBlock_text ht hline hends, ← hfirst, List.takeWhile_append_dropWhile]
  rw [hread, readLineAt, hslice, hfirst]
  simp only [Option.bind_eq_bind, Option.bind_some]
  rw [checkLineAt_eq before _ (List.cons_ne_nil _ _)]
  cases checkLine (t :: ts.takeWhile (!endsLine ·))
      (opensBlock (t :: ts.takeWhile (!endsLine ·))) with
  | error e => exact .error e
  | ok _ =>
      cases order.next (t :: ts.takeWhile (!endsLine ·)) t.line with
      | error e => exact .error e
      | ok order =>
          have hmore := readsFrom_behind (fun nested order place' hle hbound =>
            hblock nested order place' (by omega) hbound) nested order
            ⟨t :: ts.takeWhile (!endsLine ·), t.line⟩ hbound hbehind
          exact hmore.mono (by omega)

/-- By induction on the number of rounds, of which each goes on to a later place. -/
theorem readsFrom_block (before : Nat) {fuel : Nat} (nested : Bool) (order : ClauseOrder)
    (hplace : place ≤ tokens.length) (enough : tokens.length - place < fuel) :
    ReadsFrom tokens place (readBlockAt before tokens fuel nested order place)
      (readBlock fuel nested order (tokens.drop place)) := by
  induction fuel generalizing nested order place with
  | zero => omega
  | succ fuel ih =>
      cases hrest : tokens.drop place with
      | nil =>
          rw [readBlockAt, getElem?_of_drop_nil hrest]
          exact .finish order (Nat.le_refl place) hplace hrest
      | cons t ts =>
          have hat : tokens[place]? = some t := getElem?_of_drop hrest
          have hnext : tokens.drop (place + 1) = ts := drop_succ_of_drop hrest
          have hlt : place < tokens.length := lt_length_of_drop hrest
          have later (nested : Bool) (order : ClauseOrder) :
              ReadsFrom tokens place (readBlockAt before tokens fuel nested order (place + 1))
                (readBlock fuel nested order ts) := by
            have hread := ih nested order hlt (by omega)
            rw [hnext] at hread
            exact hread.mono (Nat.le_succ place)
          have line (ht : t.isLayout = false) := readsFrom_line before nested order hrest ht
            fun nested order place' hlater hbound => ih nested order hbound (by omega)
          rw [readBlockAt, hat]
          obtain ⟨kind, n⟩ := t
          cases kind with
          | name | number | str | symbol => exact line rfl
          | newline => exact later nested order
          | indent => exact .error _
          | endMarker => exact .finish order (Nat.le_refl place) hplace hrest
          | dedent =>
              cases nested with
              | true => exact .finish order (Nat.le_succ place) hlt hnext
              | false => exact later false order

end Blocks

/-- Of all tokens the statements are read without a look, a slice or a step back that fails. -/
theorem statementsAt_eq (before : Nat) (tokens : List Token) :
    statementsAt before tokens = some (statements tokens) := by
  obtain ⟨outcome, hread, hview, -⟩ := readsFrom_block before false .start
    (Nat.zero_le tokens.length) (Nat.lt_succ_self tokens.length)
  rw [List.drop_zero] at hview
  rw [statementsAt, statements, hread, ← hview]
  cases outcome with
  | error e => rfl
  | ok read => rfl

end DeclaredSchema.Source.ByPlace
