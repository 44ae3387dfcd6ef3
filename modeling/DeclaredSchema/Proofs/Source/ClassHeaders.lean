import DeclaredSchema.Proofs.Source.Enclosures
import DeclaredSchema.Proofs.Source.StatementParts

/-! # Headers of classes

The header of a class is read twice: by the grammar, and by the reader that looks for the name of
the class and for what stands behind the colon. The second one counts brackets only. It finds a
header wherever the grammar does, and both find the same tokens behind it.
-/

namespace DeclaredSchema.Source

open Cursor Line Crossing

/-! ## Groups in brackets -/

/-- What the grammar skips in brackets is a group. -/
theorem bracketedFrom?_of_skipBracketsFrom {ts : List Token} {line depth : Nat} {d : Cursor}
    (h : skipBracketsFrom line (depth + 1) ts = .ok d) :
    ∃ inside, bracketedFrom? depth ts = some (inside, d.rest) := by
  induction ts generalizing line depth with
  | nil => cases h
  | cons t ts ih =>
      rw [skipBracketsFrom] at h
      rw [bracketedFrom?]
      by_cases hopens : t.opens = true
      · rw [if_pos hopens] at h ⊢
        obtain ⟨inside, hinside⟩ := ih h
        exact ⟨t :: inside, by rw [hinside]; rfl⟩
      rw [if_neg hopens] at h ⊢
      by_cases hcloses : t.closes = true
      · rw [if_pos hcloses] at h ⊢
        cases depth with
        | zero =>
            obtain rfl : (⟨t.line, ts⟩ : Cursor) = d := by simpa using h
            exact ⟨[], rfl⟩
        | succ depth =>
            obtain ⟨inside, hinside⟩ := ih (by simpa using h)
            rw [if_neg (Nat.succ_ne_zero depth), Nat.add_sub_cancel, hinside]
            exact ⟨t :: inside, rfl⟩
      · rw [if_neg hcloses] at h ⊢
        obtain ⟨inside, hinside⟩ := ih h
        exact ⟨t :: inside, by rw [hinside]; rfl⟩

theorem afterGroup?_of_skipBrackets {c d : Cursor} (hopen : startsWith .openSquare c.rest = true)
    (h : c.skipBrackets = .ok d) : afterGroup? c.rest = some d.rest := by
  obtain ⟨line, - | ⟨t, ts⟩⟩ := c
  · cases hopen
  have ht : t.kind = .symbol .openSquare := by simpa [startsWith, Token.isSymbol] using hopen
  have hopens : t.opens = true := Token.opens_of_symbol ht
  rw [skipBrackets, skipBracketsFrom, if_pos hopens] at h
  obtain ⟨inside, hinside⟩ := bracketedFrom?_of_skipBracketsFrom h
  rw [afterGroup?, if_pos hopens, bracketed?, hinside]
  rfl

/-- The arguments of a class end at the parenthesis that closes them. -/
theorem bracketed?_of_arguments {c d : Cursor} (h : Rule.arguments.pass c = .ok d) :
    ∃ inside, bracketed? c.rest = some (inside, d.rest) := by
  rw [pass_eq_run] at h
  obtain ⟨⟨shape, i⟩, hread, h⟩ := bind_eq_ok.mp h
  cases h
  obtain ⟨e, close, ⟨inside, hinside, hwithin⟩, hrest, hcloses⟩ := encloses_read rfl hread
  refine ⟨inside, ?_⟩
  rw [hinside, hrest]
  exact bracketedFrom?_of_depth (depthBehind?_of_within hwithin) hcloses _

/-! ## From `class` to the colon -/

/-- The name of the class that a header begins. -/
def className (header : List Token) : String := (header.tail.head?.bind (·.name?)).getD ""

/-- The bases of a class, if it has any. -/
def bases (c : Cursor) : Except SyntaxError Cursor :=
  match c.eat? .openParen with
  | some c => Rule.arguments.pass c
  | none => .ok c

theorem classHeader_eq (c : Cursor) :
    classHeader c = c.identifier >>= fun c => c.skipTypeParameters >>= bases := rfl

theorem startsWith_eq (s : Symbol) (c : Cursor) : startsWith s c.rest = c.atSymbol s := rfl

theorem afterGroup?_of_bases {c d : Cursor} (h : bases c = .ok d) :
    (if c.atSymbol .openParen then afterGroup? c.rest else some c.rest) = some d.rest := by
  rw [bases, eat?] at h
  split
  · next hopen =>
      obtain ⟨t, ts, hc, ht⟩ := exists_of_atSymbol hopen
      have hopens : t.opens = true := Token.opens_of_symbol ht
      rw [if_pos hopen] at h
      obtain ⟨inside, hinside⟩ := bracketed?_of_arguments h
      rw [rest_advance, hc, List.tail_cons] at hinside
      rw [hc, afterGroup?, if_pos hopens, hinside]
      rfl
  · next hopen =>
      rw [if_neg hopen] at h
      rw [Except.ok.inj h]

/-- What stands behind the groups of a header, for the reader that counts brackets. -/
def behindGroups? (rest : List Token) : Option (List Token) :=
  if startsWith .openParen rest || startsWith .openSquare rest then do
    let rest ← afterGroup? rest
    if startsWith .openParen rest then afterGroup? rest else some rest
  else some rest

theorem classHeader?_eq (l m : Nat) (n : String) (rest : List Token) :
    classHeader? (⟨.name "class", l⟩ :: ⟨.name n, m⟩ :: rest) =
      (behindGroups? rest).bind fun rest => match rest with
        | ⟨.symbol .colon, _⟩ :: inlineBody => some ⟨n, inlineBody⟩
        | _ => none := by
  rw [classHeader?, behindGroups?]
  split
  · cases afterGroup? rest with
    | none => rfl
    | some others =>
        dsimp only [Option.bind_eq_bind, Option.bind_some]
        split <;> rfl
  · rfl

/-- Both readers find the colon behind the same groups. -/
theorem behindGroups?_of_colon {c d e : Cursor} (hskip : c.skipTypeParameters = .ok d)
    (hbases : bases d = .ok e) (hcolon : e.atSymbol .colon = true) :
    behindGroups? c.rest = some e.rest := by
  have hgroups := afterGroup?_of_bases hbases
  have hclosed : e.atSymbol .openParen = false := by
    obtain ⟨t, ts, he, ht⟩ := exists_of_atSymbol hcolon
    simp [atSymbol, he, Token.isSymbol, ht]
  rw [behindGroups?, startsWith_eq, startsWith_eq]
  rw [skipTypeParameters] at hskip
  split at hskip
  · next hopen =>
      rw [hopen, Bool.or_true, if_pos rfl, afterGroup?_of_skipBrackets hopen hskip]
      exact hgroups
  · next hopen =>
      obtain rfl := Except.ok.inj hskip
      rw [Bool.eq_false_iff.mpr hopen, Bool.or_false]
      split at hgroups
      · next hparen =>
          rw [if_pos hparen, hgroups]
          exact if_neg (by rw [startsWith_eq, hclosed]; exact Bool.false_ne_true)
      · next hparen => rw [if_neg hparen, hgroups]

/-- A class has a header wherever the grammar reads one, with the name behind `class` and what the
grammar leaves behind the colon. -/
theorem classHeader?_of_compoundHeader {tokens : List Token} {behind : Cursor}
    (hclass : tokens.head?.any (·.isName "class") = true)
    (h : compoundHeader (start tokens) = .ok behind) :
    classHeader? tokens = some ⟨className tokens, behind.rest⟩ := by
  obtain - | ⟨⟨kind, l⟩, ts⟩ := tokens
  · cases hclass
  obtain rfl : kind = .name "class" := by simpa [Token.isName] using hclass
  rw [compoundHeader_eq] at h
  obtain ⟨e, he, hcolon⟩ := bind_eq_ok.mp h
  change classHeader ⟨l, ts⟩ = .ok e at he
  rw [classHeader_eq] at he
  obtain ⟨c, hname, he⟩ := bind_eq_ok.mp he
  obtain ⟨d, hskip, hbases⟩ := bind_eq_ok.mp he
  obtain ⟨⟨kind, m⟩, word, hts, hkind⟩ := identifier_eq_ok hname
  obtain ⟨colon, hrest, ht, -⟩ := expect_eq_ok hcolon
  obtain rfl : kind = .name word := hkind
  obtain rfl : ts = ⟨.name word, m⟩ :: c.rest := hts
  have hat : e.atSymbol .colon = true := by simp [atSymbol, hrest, Token.isSymbol, ht]
  obtain ⟨kind, n⟩ := colon
  obtain rfl : kind = .symbol .colon := ht
  rw [classHeader?_eq, behindGroups?_of_colon hskip hbases hat, hrest]
  rfl

end DeclaredSchema.Source
