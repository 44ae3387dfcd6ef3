import DeclaredSchema.Proofs.Source.LexerMoves

/-! # Token streams are well formed

What may follow the tokens that have been read depends on the last of them, on the open brackets and
on the open blocks (`MayFollow`). Every move of the lexer keeps to it, with the open brackets and
blocks of the lexer being those of its tokens (`Lexer.Sound`). So the tokens of every text nest their
brackets and their blocks, and have their layout where lines end.
-/

namespace DeclaredSchema.Source

/-! ## Nesting -/

/-- The open brackets behind a token, innermost first; nothing if it closes what is not open. -/
def Token.openBehind? (t : Token) (opened : List Bracket) : Option (List Bracket) :=
  match t.opens?, t.closes? with
  | some b, _ => some (b :: opened)
  | none, some b => match opened with
    | [] => none
    | inner :: outer => if inner = b then some outer else none
  | none, none => some opened

/-- The open brackets behind some tokens, of which each was closed by one of its kind. -/
def openBehind? (ts : List Token) : Option (List Bracket) :=
  ts.foldlM (fun opened t => t.openBehind? opened) []

theorem openBehind?_concat (ts : List Token) (t : Token) :
    openBehind? (ts ++ [t]) = (openBehind? ts).bind t.openBehind? := by
  simp [openBehind?, List.foldlM_append]

/-- The marks that end lines and that open and close blocks. -/
def layoutMarks : List Token.Kind := [.newline, .indent, .dedent]

def Token.isMark (t : Token) : Bool := layoutMarks.contains t.kind

def blocksOpened (ts : List Token) : Nat := ts.countP (·.kind = .indent)

def blocksClosed (ts : List Token) : Nat := ts.countP (·.kind = .dedent)

/-- The tokens of a text. -/
structure WellFormed (ts : List Token) : Prop where
  /-- The end is marked by the last token and by no other. -/
  ended : ∃ body last, ts = body ++ [⟨.endMarker, last⟩] ∧ ∀ t ∈ body, t.kind ≠ .endMarker
  /-- Every bracket is closed by one of its kind, the innermost first. -/
  nested : openBehind? ts = some []
  /-- No prefix closes more blocks than it opens. -/
  blocks : ∀ front, front <+: ts → blocksClosed front ≤ blocksOpened front
  blocks_closed : blocksClosed ts = blocksOpened ts
  /-- Marks stand outside of all brackets. -/
  outside : ∀ front t rest, ts = front ++ t :: rest → t.isMark = true →
    openBehind? front = some []
  /-- Blocks are opened and closed where no line has begun. -/
  shifts : ∀ front t rest, ts = front ++ t :: rest → t.kind = .indent ∨ t.kind = .dedent →
    ∀ u ∈ front.getLast?, u.isMark = true
  /-- Lines that end have begun. -/
  newlines : ∀ front t rest, ts = front ++ t :: rest → t.kind = .newline →
    ∃ u ∈ front.getLast?, u.isMark = false
  /-- Strings side by side are one. -/
  strings : ∀ front t u rest, ts = front ++ t :: u :: rest →
    ¬ (t.isString = true ∧ u.isString = true)
  /-- Every line has ended where the text ends. -/
  settled : ∀ body last, ts = body ++ [last] → ∀ t ∈ body.getLast?, t.isMark = true

/-! ## What may follow -/

/-- The token may follow some tokens, which are listed latest first. -/
structure MayFollow (before : List Token) (t : Token) : Prop where
  inside : t.kind ≠ .endMarker
  outside : t.isMark = true → openBehind? before.reverse = some []
  shifts : t.kind = .indent ∨ t.kind = .dedent → ∀ u ∈ before.head?, u.isMark = true
  newlines : t.kind = .newline → ∃ u ∈ before.head?, u.isMark = false
  strings : t.isString = true → ∀ u ∈ before.head?, u.isString = false
  blocks : t.kind = .dedent → blocksClosed before < blocksOpened before

/-- Tokens, latest first, each of which may follow those before it. -/
inductive Grown : List Token → Prop
  | nil : Grown []
  | cons {t : Token} {before : List Token} (follows : MayFollow before t) (h : Grown before) :
      Grown (t :: before)

namespace Grown

variable {ts before : List Token} {t : Token}

theorem suffix (h : Grown ts) (hsuffix : before <:+ ts) : Grown before := by
  induction h with
  | nil =>
      rw [List.suffix_nil.mp hsuffix]
      exact .nil
  | cons follows h ih =>
      rcases List.suffix_cons_iff.mp hsuffix with rfl | hsuffix
      · exact .cons follows h
      · exact ih hsuffix

theorem follows {front rest : List Token} (h : Grown ts) (hts : ts.reverse = front ++ t :: rest) :
    MayFollow front.reverse t := by
  have hsuffix : t :: front.reverse <:+ ts := by
    refine ⟨rest.reverse, ?_⟩
    rw [← List.reverse_reverse ts, hts]
    simp
  cases h.suffix hsuffix with
  | cons follows _ => exact follows

theorem ne_endMarker (h : Grown ts) (ht : t ∈ ts) : t.kind ≠ .endMarker := by
  obtain ⟨front, rest, hts⟩ := List.append_of_mem (List.mem_reverse.mpr ht)
  exact (h.follows hts).inside

theorem blocks (h : Grown ts) : blocksClosed ts ≤ blocksOpened ts := by
  induction h with
  | nil => exact Nat.le_refl 0
  | @cons t before follows _ ih =>
      rw [blocksClosed, blocksOpened, List.countP_cons, List.countP_cons]
      change blocksClosed before + _ ≤ blocksOpened before + _
      by_cases hdedent : t.kind = .dedent
      · have := follows.blocks hdedent
        simp [hdedent]
        omega
      · simp [hdedent]
        omega

end Grown

namespace Lexer

variable {s t : Lexer}

/-- The open brackets and blocks of the lexer are those of its tokens. -/
structure Sound (s : Lexer) : Prop where
  grown : Grown s.done
  brackets : openBehind? s.done.reverse = some (s.brackets.map (·.1))
  blocks : blocksClosed s.done + s.indents.length = blocksOpened s.done

theorem Sound.lineIsEmpty_iff (h : s.Sound) :
    s.lineIsEmpty = true ↔ ∀ u ∈ s.done.head?, u.isMark = true := by
  unfold lineIsEmpty
  cases hdone : s.done with
  | nil => simp
  | cons u rest =>
      have hu := h.grown.ne_endMarker (hdone ▸ List.mem_cons_self)
      obtain ⟨kind, line⟩ := u
      cases kind <;> simp_all [Token.isLayout, Token.isMark, layoutMarks]

/-- A token behind which other brackets may be open. -/
theorem Sound.token (h : s.Sound) {token : Token} (hmark : token.isLayout = false)
    (hstring : token.isString = true → ∀ u ∈ s.done.head?, u.isString = false)
    (hdone : t.done = token :: s.done) (hindents : t.indents = s.indents)
    (hbrackets : token.openBehind? (s.brackets.map (·.1)) = some (t.brackets.map (·.1))) :
    t.Sound := by
  have hmarks : token.kind ≠ .endMarker ∧ token.isMark = false ∧ token.kind ≠ .indent ∧
      token.kind ≠ .dedent ∧ token.kind ≠ .newline := by
    obtain ⟨kind, line⟩ := token
    cases kind <;> simp_all [Token.isLayout, Token.isMark, layoutMarks]
  obtain ⟨hend, hmark, hindent, hdedent, hnewline⟩ := hmarks
  refine ⟨?_, ?_, ?_⟩
  · rw [hdone]
    refine .cons ⟨hend, ?_, ?_, fun hn => absurd hn hnewline, hstring,
      fun hd => absurd hd hdedent⟩ h.grown
    · rw [hmark]
      nofun
    · rintro (hk | hk)
      · exact absurd hk hindent
      · exact absurd hk hdedent
  · rw [hdone, List.reverse_cons, openBehind?_concat, h.brackets]
    exact hbrackets
  · have hblocks := h.blocks
    rw [hdone, hindents]
    simpa [blocksClosed, blocksOpened, List.countP_cons, hindent, hdedent] using hblocks

/-- A literal in place of the one it goes on with. -/
theorem Sound.joined (h : s.Sound) {first : Nat} {before value : String} {p q : Bool}
    {rest : List Token} (hs : s.done = ⟨.str before p, first⟩ :: rest)
    (hdone : t.done = ⟨.str value q, first⟩ :: rest) (hindents : t.indents = s.indents)
    (hbrackets : t.brackets = s.brackets) : t.Sound := by
  have hgrown := h.grown
  have hopen := h.brackets
  have hblocks := h.blocks
  rw [hs] at hgrown hopen hblocks
  cases hgrown with
  | cons follows hrest =>
      refine ⟨?_, ?_, ?_⟩
      · rw [hdone]
        exact .cons ⟨nofun, nofun, nofun, nofun, follows.strings, nofun⟩ hrest
      · rw [hdone, hbrackets, ← hopen, List.reverse_cons, List.reverse_cons, openBehind?_concat,
          openBehind?_concat]
        rfl
      · rw [hdone, hindents]
        simpa [blocksClosed, blocksOpened, List.countP_cons] using hblocks

/-- A mark is read outside of all brackets. -/
theorem Sound.mark (h : s.Sound) (outside : s.brackets = []) {kind : Token.Kind} {line : Nat}
    (hkind : kind ∈ layoutMarks)
    (shifts : kind = .indent ∨ kind = .dedent → s.lineIsEmpty = true)
    (newlines : kind = .newline → s.lineIsEmpty = false)
    (hblocks : kind = .dedent → s.indents ≠ [])
    (hcount : t.indents.length + (if kind = .dedent then 1 else 0) =
      s.indents.length + (if kind = .indent then 1 else 0))
    (hdone : t.done = ⟨kind, line⟩ :: s.done) (hbrackets : t.brackets = []) : t.Sound := by
  have hopen := h.brackets
  rw [outside] at hopen
  refine ⟨?_, ?_, ?_⟩
  · rw [hdone]
    refine .cons ⟨?_, fun _ => hopen, fun hk => h.lineIsEmpty_iff.mp (shifts hk), fun hk => ?_, ?_,
      fun hk => ?_⟩ h.grown
    · rintro rfl
      exact absurd hkind (by decide)
    · have hbegun := newlines hk
      rw [Bool.eq_false_iff, Ne, h.lineIsEmpty_iff] at hbegun
      simpa using hbegun
    · intro hstring
      obtain rfl | rfl | rfl : kind = .newline ∨ kind = .indent ∨ kind = .dedent := by
        simpa [layoutMarks] using hkind
      all_goals cases hstring
    · have hpos := List.length_pos_iff.mpr (hblocks hk)
      have := h.blocks
      omega
  · rw [hdone, hbrackets, List.reverse_cons, openBehind?_concat, hopen]
    obtain rfl | rfl | rfl : kind = .newline ∨ kind = .indent ∨ kind = .dedent := by
      simpa [layoutMarks] using hkind
    all_goals rfl
  · have hblocks := h.blocks
    rw [blocksClosed, blocksOpened] at hblocks ⊢
    rw [hdone, List.countP_cons, List.countP_cons]
    simp only [decide_eq_true_eq]
    omega

theorem openBehind?_ordinary {kind : Token.Kind} (h : isOrdinary kind = true) (line : Nat)
    (opened : List Bracket) : Token.openBehind? ⟨kind, line⟩ opened = some opened := by
  cases kind with
  | symbol symbol =>
      rw [isOrdinary, Bool.and_eq_true, Option.isNone_iff_eq_none, Option.isNone_iff_eq_none] at h
      simp [Token.openBehind?, Token.opens?, Token.closes?, h]
  | name | number => rfl
  | _ => cases h

/-- Every move of the lexer keeps its tokens well formed. -/
theorem Sound.move (h : s.Sound) (hmove : Move s t) : t.Sound := by
  cases hmove with
  | skip done indents brackets _ =>
      exact ⟨done ▸ h.grown, by rw [done, brackets, h.brackets], by rw [done, indents, h.blocks]⟩
  | token kind line ordinary done indents brackets _ =>
      refine h.token ?_ ?_ done indents ?_
      · cases kind <;> first | rfl | cases ordinary
      · intro hstring
        cases kind <;> simp_all [isOrdinary, Token.isString]
      · rw [brackets, openBehind?_ordinary ordinary]
  | literal value plain line done indents brackets _ =>
      rcases pushString_cases s.done value plain line with
        ⟨hown, happart⟩ | ⟨before, p, first, rest, value', q, hs, hjoined⟩
      · exact h.token rfl (fun _ => happart) (done.trans hown) indents (by rw [brackets]; rfl)
      · exact h.joined hs (done.trans hjoined) indents brackets
  | opens symbol b line opening done indents brackets _ =>
      refine h.token rfl (fun hstring => by cases hstring) done indents ?_
      rw [brackets]
      simp [Token.openBehind?, Token.opens?, opening]
  | closes symbol b line opened closing plain done indents brackets _ =>
      refine h.token rfl (fun hstring => by cases hstring) done indents ?_
      rw [brackets]
      simp [Token.openBehind?, Token.opens?, Token.closes?, closing, plain]
  | newline line outside begun done indents brackets =>
      exact h.mark outside (by decide : Token.Kind.newline ∈ _) (by simp) (fun _ => begun) (by simp)
        (by simp [indents]) done brackets
  | indent width line outside empty done indents brackets _ =>
      exact h.mark outside (by decide : Token.Kind.indent ∈ _) (fun _ => empty) (by simp) (by simp)
        (by simp [indents]) done brackets
  | dedent width line outside empty done indents brackets _ =>
      exact h.mark outside (by decide : Token.Kind.dedent ∈ _) (fun _ => empty) (by simp)
        (fun _ => by simp [indents]) (by simp [indents]) done brackets

theorem Sound.moves (h : s.Sound) (hmoves : Moves s t) : t.Sound := by
  induction hmoves with
  | refl => exact h
  | tail _ hmove ih => exact ih.move hmove

theorem sound_start (cs : List Char) : (start cs).Sound := ⟨.nil, rfl, rfl⟩

end Lexer

/-! ## The tokens of a text -/

/-- A token of a text is the mark of its end, or it follows the tokens before it. -/
theorem Grown.cases {done : List Token} (h : Grown done) {last : Nat} {front : List Token}
    {t : Token} {rest : List Token}
    (hts : done.reverse ++ [⟨.endMarker, last⟩] = front ++ t :: rest) :
    (front = done.reverse ∧ t = ⟨.endMarker, last⟩ ∧ rest = []) ∨ MayFollow front.reverse t := by
  rcases List.eq_nil_or_concat rest with rfl | ⟨more, u, rfl⟩
  · obtain ⟨hfront, ht⟩ := List.append_inj' hts rfl
    obtain ⟨rfl⟩ := List.cons.inj ht
    exact .inl ⟨hfront.symm, by simp_all, rfl⟩
  · rw [List.concat_eq_append, ← List.cons_append, ← List.append_assoc] at hts
    exact .inr (h.follows (List.append_inj' hts rfl).1)

theorem wellFormed_of_grown {done : List Token} (h : Grown done) (last : Nat)
    (hnested : openBehind? done.reverse = some [])
    (hblocks : blocksClosed done = blocksOpened done)
    (hsettled : ∀ u ∈ done.head?, u.isMark = true) :
    WellFormed (done.reverse ++ [⟨.endMarker, last⟩]) where
  ended := ⟨done.reverse, last, rfl, fun t ht => h.ne_endMarker (List.mem_reverse.mp ht)⟩
  nested := by
    rw [openBehind?_concat, hnested]
    rfl
  blocks front hfront := by
    rcases List.prefix_concat_iff.mp hfront with rfl | hfront
    · simpa [blocksClosed, blocksOpened] using Nat.le_of_eq hblocks
    · have hsuffix : front.reverse <:+ done := by
        rwa [← List.reverse_prefix, List.reverse_reverse]
      have hgrown := h.suffix hsuffix
      simpa [blocksClosed, blocksOpened] using hgrown.blocks
  blocks_closed := by simpa [blocksClosed, blocksOpened] using hblocks
  outside front t rest hts ht := by
    rcases h.cases hts with ⟨-, rfl, -⟩ | hfollows
    · cases ht
    · simpa using hfollows.outside ht
  shifts front t rest hts ht := by
    rcases h.cases hts with ⟨-, rfl, -⟩ | hfollows
    · simp at ht
    · simpa using hfollows.shifts ht
  newlines front t rest hts ht := by
    rcases h.cases hts with ⟨-, rfl, -⟩ | hfollows
    · cases ht
    · simpa using hfollows.newlines ht
  strings front t u rest hts := by
    rintro ⟨ht, hu⟩
    have hnext : done.reverse ++ [⟨.endMarker, last⟩] = (front ++ [t]) ++ u :: rest := by simp [hts]
    rcases h.cases hnext with ⟨-, rfl, -⟩ | hfollows
    · cases hu
    · have := hfollows.strings hu t (by simp)
      rw [ht] at this
      cases this
  settled body t hts := by
    obtain ⟨rfl, -⟩ := List.append_inj' hts rfl
    simpa using hsettled

/-- The tokens of every text that can be read are well formed. -/
theorem wellFormed_of_tokenize {text : String} {ts : List Token} (h : tokenize text = .ok ts) :
    WellFormed ts := by
  obtain ⟨s, last, hmoves, hbrackets, hindents, hempty, rfl⟩ := Lexer.moves_of_tokenize h
  have hs := (Lexer.sound_start text.toList).moves hmoves
  refine wellFormed_of_grown hs.grown last ?_ ?_ (hs.lineIsEmpty_iff.mp hempty)
  · rw [hs.brackets, hbrackets]
    rfl
  · have hblocks := hs.blocks
    rwa [hindents] at hblocks

/-- A list that goes over lines inside a block, and a line behind the block. -/
theorem wellFormed_of_tokenize_list :
    let ts : List Token := [⟨.name "class", 1⟩, ⟨.name "A", 1⟩, ⟨.symbol .colon, 1⟩, ⟨.newline, 1⟩,
      ⟨.indent, 2⟩, ⟨.name "b", 2⟩, ⟨.symbol .assign, 2⟩, ⟨.symbol .openSquare, 2⟩,
      ⟨.str "cd" true, 2⟩, ⟨.symbol .closeSquare, 3⟩, ⟨.newline, 3⟩, ⟨.dedent, 5⟩, ⟨.name "e", 5⟩,
      ⟨.newline, 5⟩, ⟨.endMarker, 6⟩]
    tokenize "class A:\n  b = ['c' # d\n'd']\n\ne\n" = .ok ts ∧ WellFormed ts := by
  intro ts
  have htokens : tokenize "class A:\n  b = ['c' # d\n'd']\n\ne\n" = .ok ts := by
    rw [tokenize_eq_steps]
    with_unfolding_all rfl
  exact ⟨htokens, wellFormed_of_tokenize htokens⟩

end DeclaredSchema.Source
