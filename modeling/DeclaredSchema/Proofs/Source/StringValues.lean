import DeclaredSchema.Proofs.Source.SpelledIntegers
import Mathlib.Data.Nat.Digits.Defs

/-! # What the body of a string literal stands for

The body of a literal is decoded from the left, one character or one escape at a time. `Decodes`
says what it stands for, given what counts as the code of a character behind `\x`, `\u` and `\U`:
hexadecimal digits (`HexCode`), or digits whose first place a plus sign takes as well (`LaxCode`),
which is how the lexer reads them. The two readings of a body are the same exactly if no escape in
it has a signed code (`Decodes.compare`).
-/

namespace DeclaredSchema.Source

/-! ## Codes of characters -/

/-- Exactly `count` hexadecimal digits that give the code of a character. -/
def HexCode (count : Nat) (code : List Char) (c : Char) : Prop :=
  code.length = count ∧
    ∃ ds, List.Forall₂ (IsDigit 16) code ds ∧ c.toNat = Nat.ofDigits 16 ds.reverse

/-- A plus sign and digits, `count` places together. -/
def SignedCode (count : Nat) (code : List Char) (c : Char) : Prop :=
  code.length = count ∧ ∃ digits, code = '+' :: digits ∧ digits ≠ [] ∧
    HexCode digits.length digits c

/-- A code with a plus sign or without. -/
def LaxCode (count : Nat) (code : List Char) (c : Char) : Prop :=
  HexCode count code c ∨ SignedCode count code c

theorem ascii_hexDigits : ∀ n < 128, Text.isHexDigit (Char.ofNat n) = true →
    Text.hexDigitValue (Char.ofNat n) < 16 ∧
      Text.asciiLower (Char.ofNat n) = Nat.digitChar (Text.hexDigitValue (Char.ofNat n)) := by
  decide +kernel

theorem digitChar_injOn : ∀ d < 16, ∀ e < 16, Nat.digitChar d = Nat.digitChar e → d = e := by
  decide

theorem toNat_lt_of_isHexDigit {c : Char} (h : Text.isHexDigit c = true) : c.toNat < 128 := by
  simp only [Text.isHexDigit, Text.isAsciiDigit, Bool.or_eq_true, Bool.and_eq_true,
    decide_eq_true_eq, Char.le_def, UInt32.le_iff_toNat_le] at h
  have : c.toNat = c.val.toNat := rfl
  simp at h
  omega

/-- The digits of the base sixteen and their values. -/
theorem isDigit_sixteen_iff {c : Char} {d : Nat} :
    IsDigit 16 c d ↔ Text.isHexDigit c = true ∧ Text.hexDigitValue c = d := by
  have hvalue (h : Text.isHexDigit c = true) := ascii_hexDigits c.toNat (toNat_lt_of_isHexDigit h)
  rw [Char.ofNat_toNat] at hvalue
  constructor
  · intro h
    have hhex : Text.isHexDigit c = true := h.isHexDigit (by decide)
    obtain ⟨hlt, hchar⟩ := hvalue hhex hhex
    exact ⟨hhex, digitChar_injOn _ hlt d h.1 (hchar.symm.trans h.2)⟩
  · rintro ⟨hhex, rfl⟩
    exact hvalue hhex hhex

theorem forall₂_isDigit_iff {code : List Char} {ds : List Nat} :
    List.Forall₂ (IsDigit 16) code ds ↔
      (∀ c ∈ code, Text.isHexDigit c = true) ∧ ds = code.map Text.hexDigitValue := by
  constructor
  · intro h
    induction h with
    | nil => simp
    | cons hd _ ih =>
        obtain ⟨hhex, hvalue⟩ := isDigit_sixteen_iff.mp hd
        exact ⟨List.forall_mem_cons.mpr ⟨hhex, ih.1⟩, by rw [List.map_cons, hvalue, ih.2]⟩
  · rintro ⟨hall, rfl⟩
    induction code with
    | nil => exact .nil
    | cons c code ih =>
        obtain ⟨hc, hcode⟩ := List.forall_mem_cons.mp hall
        exact .cons (isDigit_sixteen_iff.mpr ⟨hc, rfl⟩) (ih hcode)

theorem foldl_hexDigitValue (code : List Char) :
    code.foldl (fun n c => 16 * n + Text.hexDigitValue c) 0 =
      Nat.ofDigits 16 (code.map Text.hexDigitValue).reverse := by
  rw [Nat.ofDigits_eq_foldr, List.foldr_reverse, List.foldl_map]
  congr 1
  funext n c
  exact Nat.add_comm _ _

theorem hexCode_iff {count : Nat} {code : List Char} {c : Char} :
    HexCode count code c ↔ code.length = count ∧ (∀ d ∈ code, Text.isHexDigit d = true) ∧
      c.toNat = code.foldl (fun n c => 16 * n + Text.hexDigitValue c) 0 := by
  unfold HexCode
  simp only [forall₂_isDigit_iff, foldl_hexDigitValue]
  constructor
  · rintro ⟨hlength, ds, ⟨hall, rfl⟩, hc⟩
    exact ⟨hlength, hall, hc⟩
  · rintro ⟨hlength, hall, hc⟩
    exact ⟨hlength, _, ⟨hall, rfl⟩, hc⟩

theorem not_hexCode_plus {count : Nat} {digits : List Char} {c : Char} :
    ¬ HexCode count ('+' :: digits) c := by
  rw [hexCode_iff]
  rintro ⟨-, hall, -⟩
  exact absurd (hall '+' List.mem_cons_self) (by decide)

/-- Nothing but a hexadecimal digit or a plus sign stands in a code. -/
theorem LaxCode.mem {count : Nat} {code : List Char} {c : Char} (h : LaxCode count code c) :
    ∀ d ∈ code, d = '+' ∨ Text.isHexDigit d = true := by
  rcases h with h | ⟨-, digits, rfl, -, h⟩
  · exact fun d hd => .inr ((hexCode_iff.mp h).2.1 d hd)
  · intro d hd
    rcases List.mem_cons.mp hd with rfl | hd
    · exact .inl rfl
    · exact .inr ((hexCode_iff.mp h).2.1 d hd)

theorem LaxCode.length {count : Nat} {code : List Char} {c : Char} (h : LaxCode count code c) :
    code.length = count := by
  rcases h with h | h <;> exact h.1

theorem HexCode.unique {count : Nat} {code : List Char} {c d : Char} (hc : HexCode count code c)
    (hd : HexCode count code d) : c = d := by
  apply Char.toNat_inj.mp
  rw [(hexCode_iff.mp hc).2.2, (hexCode_iff.mp hd).2.2]

theorem LaxCode.unique {count : Nat} {code : List Char} {c d : Char} (hc : LaxCode count code c)
    (hd : LaxCode count code d) : c = d := by
  rcases hc with hc | ⟨-, digits, rfl, -, hc⟩ <;> rcases hd with hd | ⟨-, digits', he, -, hd⟩
  · exact hc.unique hd
  · exact absurd (he ▸ hc) not_hexCode_plus
  · exact absurd hd not_hexCode_plus
  · obtain rfl := (List.cons.inj he).2
    exact hc.unique hd

theorem charOfNat_eq_some {n : Nat} {c : Char} :
    (if n.isValidChar then some (Char.ofNat n) else none) = some c ↔ c.toNat = n := by
  constructor
  · intro h
    split at h
    · next hn =>
        obtain rfl := Option.some.inj h
        rw [Char.ofNat, dif_pos hn]
        rfl
    · cases h
  · rintro rfl
    have hvalid : c.toNat.isValidChar := c.valid
    rw [if_pos hvalid, Char.ofNat_toNat]

/-- A code is read from its digits, once they are set apart from the sign. -/
theorem Lexer.codeOf_eq_some {fits : Bool} {digits : List Char} {c : Char} :
    (if fits && !digits.isEmpty && digits.all Text.isHexDigit then
        if (digits.foldl (fun n c => 16 * n + Text.hexDigitValue c) 0).isValidChar then
          some (Char.ofNat (digits.foldl (fun n c => 16 * n + Text.hexDigitValue c) 0))
        else none
      else none) = some c ↔
      fits = true ∧ digits ≠ [] ∧ HexCode digits.length digits c := by
  rw [hexCode_iff]
  split
  · next h =>
      simp only [Bool.and_eq_true, Bool.not_eq_true', List.isEmpty_eq_false_iff,
        List.all_eq_true] at h
      rw [charOfNat_eq_some]
      exact ⟨fun hc => ⟨h.1.1, h.1.2, rfl, h.2, hc⟩, fun hc => hc.2.2.2.2⟩
  · next h =>
      simp only [Bool.and_eq_true, Bool.not_eq_true', List.isEmpty_eq_false_iff,
        List.all_eq_true] at h
      simp only [reduceCtorEq, false_iff]
      exact fun hc => h ⟨⟨hc.1, hc.2.1⟩, hc.2.2.2.1⟩

/-- The lexer reads signed and unsigned codes. -/
theorem Lexer.codePoint?_eq_some {count : Nat} (hcount : 0 < count) {cs : List Char} {c : Char} :
    codePoint? count cs = some c ↔ LaxCode count (cs.take count) c := by
  unfold codePoint?
  generalize cs.take count = code
  dsimp only
  split
  · next digits =>
      rw [codeOf_eq_some, decide_eq_true_eq]
      constructor
      · rintro ⟨hlength, hdigits, hcode⟩
        exact .inr ⟨hlength, digits, rfl, hdigits, hcode⟩
      · rintro (hcode | ⟨hlength, digits', he, hdigits, hcode⟩)
        · exact absurd hcode not_hexCode_plus
        · obtain rfl := (List.cons.inj he).2
          exact ⟨hlength, hdigits, hcode⟩
  · next hplus =>
      rw [codeOf_eq_some, decide_eq_true_eq]
      constructor
      · rintro ⟨rfl, -, hcode⟩
        exact .inl hcode
      · rintro (hcode | ⟨-, digits, rfl, -⟩)
        · obtain rfl := hcode.1
          exact ⟨rfl, List.length_pos_iff.mp hcount, hcode⟩
        · exact absurd rfl (hplus digits)

/-! ## Decoding -/

/-- The escapes of a single character. -/
def shortEscapes : List (Char × Char) :=
  [('n', '\n'), ('t', '\t'), ('r', '\r'), ('0', '\x00'), ('\\', '\\'), ('\'', '\''), ('"', '"')]

/-- The escapes that a code follows, and how many places it has. -/
def codeMarks : List (Char × Nat) := [('x', 2), ('u', 4), ('U', 8)]

/-- What a backslash and the character `next` stand for where `body` follows them, and what is left
of it. -/
inductive Escape (Code : Nat → List Char → Char → Prop) (next : Char) (body : List Char) :
    List Char → List Char → Prop
  | lineEnd (line : next = '\n') : Escape Code next body [] body
  | short {image : Char} (known : (next, image) ∈ shortEscapes) : Escape Code next body [image] body
  | code {count : Nat} {c : Char} (known : (next, count) ∈ codeMarks)
      (code : Code count (body.take count) c) : Escape Code next body [c] (body.drop count)
  /-- Any other escape is none. -/
  | other (line : next ≠ '\n') (short : ∀ image, (next, image) ∉ shortEscapes)
      (code : ∀ count c, (next, count) ∈ codeMarks → ¬ Code count (body.take count) c) :
      Escape Code next body ['\\', next] body

/-- What a body stands for, from left to right. -/
inductive Decodes (Code : Nat → List Char → Char → Prop) : List Char → List Char → Prop
  | nil : Decodes Code [] []
  | char {c : Char} {body value : List Char} (plain : c ≠ '\\') (rest : Decodes Code body value) :
      Decodes Code (c :: body) (c :: value)
  | escape {next : Char} {body image behind value : List Char}
      (escape : Escape Code next body image behind) (rest : Decodes Code behind value) :
      Decodes Code ('\\' :: next :: body) (image ++ value)

/-- A code stands for one character, and no character of it begins an escape or ends a literal. -/
structure IsCode (Code : Nat → List Char → Char → Prop) : Prop where
  unique : ∀ {count code c d}, Code count code c → Code count code d → c = d
  length : ∀ {count code c}, Code count code c → code.length = count
  mem : ∀ {count code c}, Code count code c → ∀ d ∈ code, d = '+' ∨ Text.isHexDigit d = true

theorem isCode_laxCode : IsCode LaxCode := ⟨LaxCode.unique, LaxCode.length, LaxCode.mem⟩

theorem isCode_hexCode : IsCode HexCode :=
  ⟨HexCode.unique, fun h => h.1, fun h => LaxCode.mem (.inl h)⟩

section Escapes

variable {Code : Nat → List Char → Char → Prop} {next : Char} {body image behind value : List Char}

/-- The escapes do not overlap. -/
theorem escapes_apart :
    (∀ p ∈ shortEscapes, p.1 ≠ '\n' ∧ (∀ q ∈ codeMarks, p.1 ≠ q.1) ∧
        ∀ q ∈ shortEscapes, p.1 = q.1 → p = q) ∧
      ∀ p ∈ codeMarks, p.1 ≠ '\n' ∧ ∀ q ∈ codeMarks, p.1 = q.1 → p = q := by
  decide

theorem Escape.unique (isCode : IsCode Code) (h : Escape Code next body image behind)
    {image' behind' : List Char} (h' : Escape Code next body image' behind') :
    image = image' ∧ behind = behind' := by
  obtain ⟨hshort, hcode⟩ := escapes_apart
  cases h with
  | lineEnd line =>
      cases h' with
      | lineEnd => exact ⟨rfl, rfl⟩
      | short known => exact absurd line (hshort _ known).1
      | code known => exact absurd line (hcode _ known).1
      | other line' => exact absurd line line'
  | short known =>
      cases h' with
      | lineEnd line => exact absurd line (hshort _ known).1
      | short known' =>
          obtain rfl := (Prod.mk.inj ((hshort _ known).2.2 _ known' rfl)).2
          exact ⟨rfl, rfl⟩
      | code known' => exact absurd rfl ((hshort _ known).2.1 _ known')
      | other _ short => exact absurd known (short _)
  | code known code =>
      cases h' with
      | lineEnd line => exact absurd line (hcode _ known).1
      | short known' => exact absurd rfl ((hshort _ known').2.1 _ known)
      | code known' code' =>
          obtain rfl := (Prod.mk.inj ((hcode _ known).2 _ known' rfl)).2
          rw [isCode.unique code code']
          exact ⟨rfl, rfl⟩
      | other _ _ none => exact absurd code (none _ _ known)
  | other line short none =>
      cases h' with
      | lineEnd line' => exact absurd line' line
      | short known => exact absurd known (short _)
      | code known code => exact absurd code (none _ _ known)
      | other => exact ⟨rfl, rfl⟩

theorem Escape.total (Code : Nat → List Char → Char → Prop) (next : Char) (body : List Char) :
    ∃ image behind, Escape Code next body image behind := by
  by_cases line : next = '\n'
  · exact ⟨_, _, .lineEnd line⟩
  by_cases short : ∃ image, (next, image) ∈ shortEscapes
  · obtain ⟨image, known⟩ := short
    exact ⟨_, _, .short known⟩
  by_cases code : ∃ count c, (next, count) ∈ codeMarks ∧ Code count (body.take count) c
  · obtain ⟨count, c, known, code⟩ := code
    exact ⟨_, _, .code known code⟩
  exact ⟨_, _, .other line (not_exists.mp short) fun count c known h => code ⟨count, c, known, h⟩⟩

/-- What an escape leaves of the body stands behind its code. -/
theorem Escape.exists_code (isCode : IsCode Code) (h : Escape Code next body image behind) :
    ∃ code, body = code ++ behind ∧ ∀ d ∈ code, d = '+' ∨ Text.isHexDigit d = true := by
  cases h with
  | code known code => exact ⟨_, (List.take_append_drop _ _).symm, isCode.mem code⟩
  | _ => exact ⟨[], rfl, by simp⟩

theorem Decodes.unique (isCode : IsCode Code) (h : Decodes Code body value) {value' : List Char}
    (h' : Decodes Code body value') : value = value' := by
  induction h generalizing value' with
  | nil =>
      cases h'
      rfl
  | char plain _ ih =>
      cases h' with
      | char _ rest => rw [ih rest]
      | escape => exact absurd rfl plain
  | escape escape _ ih =>
      cases h' with
      | char plain => exact absurd rfl plain
      | escape escape' rest =>
          obtain ⟨rfl, rfl⟩ := escape.unique isCode escape'
          rw [ih rest]

/-- A character that begins no escape stands for itself. -/
theorem Decodes.cons_iff {c : Char} (plain : c ≠ '\\') :
    Decodes Code (c :: body) value ↔ ∃ behind, value = c :: behind ∧ Decodes Code body behind := by
  constructor
  · intro h
    cases h with
    | char _ rest => exact ⟨_, rfl, rest⟩
    | escape => exact absurd rfl plain
  · rintro ⟨behind, rfl, h⟩
    exact .char plain h

theorem Decodes.append_iff {front : List Char} (plain : ∀ c ∈ front, c ≠ '\\') :
    Decodes Code (front ++ body) value ↔
      ∃ behind, value = front ++ behind ∧ Decodes Code body behind := by
  induction front generalizing value with
  | nil => simp
  | cons c front ih =>
      obtain ⟨hc, hfront⟩ := List.forall_mem_cons.mp plain
      simp only [List.cons_append, cons_iff hc, ih hfront]
      constructor
      · rintro ⟨_, rfl, behind, rfl, h⟩
        exact ⟨behind, rfl, h⟩
      · rintro ⟨behind, rfl, h⟩
        exact ⟨_, rfl, behind, rfl, h⟩

end Escapes

/-! ## Signed codes -/

/-- The escape that begins with a backslash and `next` has a signed code. -/
def SignedAt (next : Char) (body : List Char) : Prop :=
  ∃ count c, (next, count) ∈ codeMarks ∧ SignedCode count (body.take count) c

/-- Some escape of a body has a signed code. -/
inductive HasSigned : List Char → Prop
  | here {next : Char} {body : List Char} (signed : SignedAt next body) :
      HasSigned ('\\' :: next :: body)
  | behindEscape (next : Char) {body : List Char} (rest : HasSigned body) :
      HasSigned ('\\' :: next :: body)
  | behindChar {c : Char} {body : List Char} (plain : c ≠ '\\') (rest : HasSigned body) :
      HasSigned (c :: body)

section Signs

variable {next : Char} {body value strict : List Char}

theorem not_hasSigned_nil : ¬ HasSigned [] := nofun

theorem hasSigned_cons_iff {c : Char} (plain : c ≠ '\\') :
    HasSigned (c :: body) ↔ HasSigned body := by
  constructor
  · intro h
    cases h with
    | behindChar _ rest => exact rest
    | _ => exact absurd rfl plain
  · exact .behindChar plain

theorem hasSigned_append_iff {front : List Char} (plain : ∀ c ∈ front, c ≠ '\\') :
    HasSigned (front ++ body) ↔ HasSigned body := by
  induction front with
  | nil => rfl
  | cons c front ih =>
      obtain ⟨hc, hfront⟩ := List.forall_mem_cons.mp plain
      rw [List.cons_append, hasSigned_cons_iff hc, ih hfront]

theorem hasSigned_escape_iff :
    HasSigned ('\\' :: next :: body) ↔ SignedAt next body ∨ HasSigned body := by
  constructor
  · intro h
    cases h with
    | here signed => exact .inl signed
    | behindEscape _ rest => exact .inr rest
    | behindChar plain => exact absurd rfl plain
  · rintro (signed | rest)
    · exact .here signed
    · exact .behindEscape next rest

theorem not_backslash {code : List Char}
    (h : ∀ d ∈ code, d = '+' ∨ Text.isHexDigit d = true) : ∀ d ∈ code, d ≠ '\\' := by
  rintro d hd rfl
  rcases h _ hd with he | he
  · cases he
  · exact absurd he (by decide)

/-- Without a sign both readings take an escape for the same. -/
theorem Escape.lax_of_hex {image behind : List Char} (h : Escape HexCode next body image behind)
    (unsigned : ¬ SignedAt next body) : Escape LaxCode next body image behind := by
  cases h with
  | lineEnd line => exact .lineEnd line
  | short known => exact .short known
  | code known code => exact .code known (.inl code)
  | other line short none =>
      refine .other line short fun count c known code => ?_
      rcases code with code | code
      · exact none count c known code
      · exact unsigned ⟨count, c, known, code⟩

/-- With a sign one reading makes a character of an escape and the other leaves it as it is. -/
theorem SignedAt.escapes (h : SignedAt next body) :
    ∃ c code behind, body = code ++ behind ∧ code ≠ [] ∧ (∀ d ∈ code, d ≠ '\\') ∧
      Escape LaxCode next body [c] behind ∧ Escape HexCode next body ['\\', next] body := by
  obtain ⟨count, c, known, signed⟩ := h
  obtain ⟨hline, happart⟩ := escapes_apart.2 _ known
  obtain ⟨hlength, digits, hcode, -, -⟩ := id signed
  refine ⟨c, body.take count, body.drop count, (List.take_append_drop _ _).symm, ?_,
    not_backslash (LaxCode.mem (.inr signed)), .code known (.inr signed), .other hline ?_ ?_⟩
  · rw [hcode]
    exact List.cons_ne_nil _ _
  · exact fun image short => (escapes_apart.1 _ short).2.1 _ known rfl
  · intro count' d known' code
    obtain rfl := (Prod.mk.inj (happart _ known' rfl)).2
    rw [hcode] at code
    exact not_hexCode_plus code

/-- A signed code makes what is read shorter than what the body stands for. -/
theorem Decodes.compare (read : Decodes LaxCode body value) (stands : Decodes HexCode body strict) :
    value.length ≤ strict.length ∧ (HasSigned body → value.length < strict.length) ∧
      (¬ HasSigned body → value = strict) := by
  induction read generalizing strict with
  | nil =>
      cases stands
      exact ⟨Nat.le_refl _, fun h => absurd h not_hasSigned_nil, fun _ => rfl⟩
  | char plain _ ih =>
      obtain ⟨behind, rfl, hbehind⟩ := (cons_iff plain).mp stands
      obtain ⟨hle, hlt, heq⟩ := ih hbehind
      simp only [hasSigned_cons_iff plain, List.length_cons, Nat.add_le_add_iff_right,
        Nat.add_lt_add_iff_right]
      exact ⟨hle, hlt, fun h => by rw [heq h]⟩
  | @escape next body image behind value escape _ ih =>
      cases stands with
      | char plain => exact absurd rfl plain
      | escape escape' rest =>
      rw [hasSigned_escape_iff]
      by_cases signed : SignedAt next body
      · obtain ⟨c, code, behind', hbody, hcode, hplain, hlax, hhex⟩ := signed.escapes
        obtain ⟨rfl, rfl⟩ := escape.unique isCode_laxCode hlax
        obtain ⟨rfl, rfl⟩ := escape'.unique isCode_hexCode hhex
        rw [hbody] at rest
        obtain ⟨value', rfl, hvalue⟩ := (append_iff hplain).mp rest
        have hle := (ih hvalue).1
        have hpos := List.length_pos_iff.mpr hcode
        simp only [List.length_append, List.length_cons, List.length_nil]
        refine ⟨by omega, fun _ => by omega, fun h => absurd (.inl signed) h⟩
      · obtain ⟨rfl, rfl⟩ := escape.unique isCode_laxCode (escape'.lax_of_hex signed)
        obtain ⟨code, hbody, hcode⟩ := escape.exists_code isCode_laxCode
        obtain ⟨hle, hlt, heq⟩ := ih rest
        have hsame : HasSigned body ↔ HasSigned behind := by
          conv_lhs => rw [hbody]
          exact hasSigned_append_iff (not_backslash hcode)
        simp only [signed, false_or, hsame, List.length_append, Nat.add_le_add_iff_left,
          Nat.add_lt_add_iff_left]
        exact ⟨hle, hlt, fun h => by rw [heq h]⟩

end Signs

end DeclaredSchema.Source
