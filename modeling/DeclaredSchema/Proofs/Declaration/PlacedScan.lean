import DeclaredSchema.Proofs.Declaration.ClassStatements
import DeclaredSchema.Proofs.Declaration.ForwardTexts
import DeclaredSchema.Proofs.Source.PlacedBlocks
import DeclaredSchema.Proofs.Source.PlacedFields
import DeclaredSchema.Proofs.Source.PlacedLexer

/-! # Scans by places

A whole scan by places: the tokens of the text, its statements, the headers and fields in them and
the annotations of the fields, which may be texts of their own. None of them looks where nothing
stands, cuts a slice that is not there or takes a number from a smaller one, whatever the text is.
So a scan by places is the scan, and it ends in a syntax error or in the classes that have fields
(`scan_keeps_within`).
-/

namespace DeclaredSchema.Source.ByPlace

/-! ## Annotations -/

mutual

/-- Whether an annotation is optional, given how annotations written as strings are answered. -/
def isOptionalWithAt (forward : String → Checked Bool) : Expr → Checked Bool
  | .subscript value (.tuple members) => match value.tailName? with
    | some "Optional" => some true
    | some "Union" => anyOptionalAt forward members
    | some "Annotated" => firstOptionalAt forward members
    | _ => some false
  | .subscript value index => match value.tailName? with
    | some "Optional" => some true
    | some "Union" => some index.isNone
    | some "Annotated" => isOptionalWithAt forward index
    | _ => some false
  | .union members => anyOptionalAt forward members
  | .literal (.str s) => forward s
  | _ => some false

/-- Members are asked up to the first that is `None` or optional. -/
def anyOptionalAt (forward : String → Checked Bool) : List Expr → Checked Bool
  | [] => some false
  | e :: rest =>
    if e.isNone then some true
    else do
      if ← isOptionalWithAt forward e then some true else anyOptionalAt forward rest

def firstOptionalAt (forward : String → Checked Bool) : List Expr → Checked Bool
  | [] => some false
  | e :: _ => isOptionalWithAt forward e

end

/-- Whether an annotation is optional, looking into less than `depth` strings within each other. -/
def isOptionalWithinAt : Nat → Expr → Checked Bool
  | 0, _ => none
  | depth + 1, e => isOptionalWithAt (fun text => do
      match ← tokenizeAt text with
      | .error _ => some false
      | .ok tokens =>
        let inner ← ofTokensAt (tokens.filter fun t => t.kind ≠ .newline && t.kind ≠ .endMarker)
        isOptionalWithinAt depth inner) e

/-- Whether an annotation admits `None`. -/
def isOptionalAt (e : Expr) : Checked Bool := isOptionalWithinAt (e.longestText + 2) e

section Annotations

theorem isOptionalWithAt_subscript (forward : String → Checked Bool) (value : Expr) {index : Expr}
    (h : ∀ items, index ≠ .tuple items) :
    isOptionalWithAt forward (.subscript value index) = match value.tailName? with
      | some "Optional" => some true
      | some "Union" => some index.isNone
      | some "Annotated" => isOptionalWithAt forward index
      | _ => some false := by
  cases index with
  | tuple items => exact absurd rfl (h items)
  | _ => rfl

variable {forward : String → Checked Bool} {f : String → Bool}

mutual

/-- An annotation is answered if the strings in it are. -/
theorem isOptionalWithAt_eq {e : Expr}
    (h : ∀ s : String, s.length ≤ e.longestText → forward s = some (f s)) :
    isOptionalWithAt forward e = some (isOptionalWith f e) := by
  cases e with
  | literal l =>
      cases l with
      | str s => exact h s (Nat.le_refl _)
      | _ => rfl
  | union members => exact anyOptionalAt_eq h
  | subscript value index =>
      have hindex : ∀ s : String, s.length ≤ index.longestText → forward s = some (f s) :=
        fun s hs => h s (Nat.le_trans hs (Nat.le_max_right _ _))
      by_cases htuple : ∃ items, index = .tuple items
      · obtain ⟨items, rfl⟩ := htuple
        rw [isOptionalWithAt, isOptionalWith, anyOptionalAt_eq hindex, firstOptionalAt_eq hindex]
        split <;> simp [*]
      · rw [isOptionalWithAt_subscript forward value (not_exists.mp htuple),
          isOptionalWith_subscript f value (not_exists.mp htuple), isOptionalWithAt_eq hindex]
        split <;> simp [*]
  | _ => rfl

theorem anyOptionalAt_eq {es : List Expr}
    (h : ∀ s : String, s.length ≤ longestTextOf es → forward s = some (f s)) :
    anyOptionalAt forward es = some (anyOptionalWith f es) := by
  cases es with
  | nil => rfl
  | cons e es =>
      rw [anyOptionalAt, anyOptionalWith,
        isOptionalWithAt_eq fun s hs => h s (Nat.le_trans hs (Nat.le_max_left _ _)),
        anyOptionalAt_eq fun s hs => h s (Nat.le_trans hs (Nat.le_max_right _ _))]
      cases e.isNone <;> cases isOptionalWith f e <;> rfl

theorem firstOptionalAt_eq {es : List Expr}
    (h : ∀ s : String, s.length ≤ longestTextOf es → forward s = some (f s)) :
    firstOptionalAt forward es = some (firstOptionalWith f es) := by
  cases es with
  | nil => rfl
  | cons e es =>
      exact isOptionalWithAt_eq fun s hs => h s (Nat.le_trans hs (Nat.le_max_left _ _))

end

/-- By induction on the number of looks: a text holds only shorter ones. -/
theorem isOptionalWithinAt_eq {n : Nat} {e : Expr} (hn : e.longestText + 1 < n) :
    isOptionalWithinAt n e = some (isOptional e) := by
  induction n generalizing e with
  | zero => omega
  | succ n ih =>
      rw [isOptionalWithinAt, isOptional_eq]
      refine isOptionalWithAt_eq fun s hs => ?_
      rw [tokenizeAt_eq, isOptionalText]
      cases htokens : tokenize s with
      | error e => simp [forwardTokens?, htokens]
      | ok tokens =>
          have hforward : forwardTokens? s =
              some (tokens.filter fun t => t.kind ≠ .newline && t.kind ≠ .endMarker) := by
            rw [forwardTokens?, htokens]
          simp only [Option.bind_eq_bind, Option.bind_some, ofTokensAt_eq, hforward]
          rcases longestText_forward hforward with hshorter | hnothing
          · exact ih (by omega)
          · obtain ⟨n, rfl⟩ : ∃ m, n = m + 1 := ⟨n - 1, by omega⟩
            rw [hnothing]
            rfl

/-- Of all expressions it is told without a failure whether they are optional. -/
theorem isOptionalAt_eq (e : Expr) : isOptionalAt e = some (isOptional e) :=
  isOptionalWithinAt_eq (Nat.lt_succ_self _)

end Annotations

/-! ## Fields and classes -/

/-- The declaration that an assignment on some line makes. -/
def declaredAt (line : Nat) (assigned : AnnotatedAssignment) : Checked (Option FieldDeclaration) :=
  match assigned.value with
  | .call (.name declarator) args =>
    if Kind.looksLikeDeclarator declarator then do
      let optional ← isOptionalAt assigned.typeHint
      some (some {
        field := assigned.target
        key := keyOf assigned.target (keywordArguments args)
        declarator
        args := keywordArguments args
        optional
        line })
    else some none
  | _ => some none

/-- The declaration that a statement makes. -/
def fieldDeclarationAt (tokens : List Token) : Checked (Option FieldDeclaration) :=
  match tokens[0]? with
  | none => some none
  | some first => whenFound (annotatedAssignmentAt tokens) (declaredAt first.line)

/-- The declaration of a class whose body has the given simple statements. -/
def classDeclarationAt (path name : String) (line : Nat) (body : List (List Token)) :
    Checked (Option ClassDeclaration) :=
  if Kind.isMarkerClass name then some none
  else do
    let read ← body.mapM fieldDeclarationAt
    let fields := read.filterMap id
    some (if fields.isEmpty then none else some ⟨name, path, line, fields⟩)

def blockClassAt (path : String) (header : Line) (body : List Statement) :
    Checked (Option ClassDeclaration) :=
  whenFound (classHeaderAt header.tokens) fun h =>
    classDeclarationAt path h.name header.line (body.filterMap simpleTokens?)

def inlineClassAt (path : String) (line : Line) : Checked (Option ClassDeclaration) :=
  whenFound (classHeaderAt line.tokens) fun h => do
    let parts ← partsAt .semicolon h.inlineBody
    classDeclarationAt path h.name line.line parts

mutual

def classesInAt (path : String) : Statement → Checked (List ClassDeclaration)
  | .simple line => (inlineClassAt path line).map (·.toList)
  | .compound header body => do
    let outer ← blockClassAt path header body
    let inner ← classesInBlockAt path body
    some (outer.toList ++ inner)

def classesInBlockAt (path : String) : List Statement → Checked (List ClassDeclaration)
  | [] => some []
  | s :: rest => do
    let first ← classesInAt path s
    let others ← classesInBlockAt path rest
    some (first ++ others)

end

/-- The declarations of a source text by its places. -/
def scanSourceAt (before : Nat) (path text : String) :
    Checked (Except SyntaxError (List ClassDeclaration)) :=
  unlessError (tokenizeAt text) fun tokens =>
    unlessError (statementsAt before tokens) fun body =>
      (classesInBlockAt path body).map .ok

/-- A statement makes its declaration, or none, without a failure. -/
theorem fieldDeclarationAt_eq (tokens : List Token) :
    fieldDeclarationAt tokens = some (fieldDeclaration? tokens) := by
  cases tokens with
  | nil => rfl
  | cons t ts =>
      have hread : fieldDeclarationAt (t :: ts) =
          whenFound (annotatedAssignmentAt (t :: ts)) (declaredAt t.line) := rfl
      rw [hread, annotatedAssignmentAt_eq, fieldDeclaration?]
      cases annotatedAssignment? (t :: ts) with
      | none => rfl
      | some assigned =>
          obtain ⟨target, typeHint, value⟩ := assigned
          cases value with
          | call callee args =>
              cases callee with
              | name declarator =>
                  simp only [whenFound, declaredAt, isOptionalAt_eq, List.head?_cons,
                    Option.bind_eq_bind, Option.bind_some]
                  split <;> rfl
              | _ => rfl
          | _ => rfl

theorem classDeclarationAt_eq (path name : String) (line : Nat) (body : List (List Token)) :
    classDeclarationAt path name line body = some (classDeclaration? path name line body) := by
  have hfields : body.mapM fieldDeclarationAt = some (body.map fieldDeclaration?) :=
    mapM_eq_some fun tokens _ => fieldDeclarationAt_eq tokens
  have hfound : (body.map fieldDeclaration?).filterMap id = body.filterMap fieldDeclaration? := by
    rw [List.filterMap_map]
    rfl
  rw [classDeclarationAt, classDeclaration?, hfields]
  simp only [Option.bind_eq_bind, Option.bind_some, hfound]
  cases Kind.isMarkerClass name <;> rfl

theorem blockClassAt_eq (path : String) (header : Line) (body : List Statement) :
    blockClassAt path header body = some (blockClass? path header body) := by
  rw [blockClassAt, blockClass?, classHeaderAt_eq]
  cases classHeader? header.tokens with
  | none => rfl
  | some h => exact classDeclarationAt_eq path h.name header.line _

theorem inlineClassAt_eq (path : String) (line : Line) :
    inlineClassAt path line = some (inlineClass? path line) := by
  rw [inlineClassAt, inlineClass?, classHeaderAt_eq]
  cases classHeader? line.tokens with
  | none => rfl
  | some h =>
      simp only [whenFound, Option.bind_eq_bind, Option.bind_some, partsAt_eq,
        classDeclarationAt_eq]

mutual

theorem classesInAt_eq (path : String) : ∀ s : Statement,
    classesInAt path s = some (classesIn path s)
  | .simple line => by
      rw [classesInAt, inlineClassAt_eq, classesIn]
      rfl
  | .compound header body => by
      rw [classesInAt, blockClassAt_eq, classesInBlockAt_eq path body, classesIn]
      rfl

theorem classesInBlockAt_eq (path : String) : ∀ body : List Statement,
    classesInBlockAt path body = some (classesInBlock path body)
  | [] => rfl
  | s :: rest => by
      rw [classesInBlockAt, classesInAt_eq path s, classesInBlockAt_eq path rest, classesInBlock]
      rfl

end

/-- A text is scanned by its places without a failure. -/
theorem scanSourceAt_eq (before : Nat) (path text : String) :
    scanSourceAt before path text = some (scanSource path text) := by
  have hbody (tokens : List Token) : unlessError (statementsAt before tokens) (fun body =>
      (classesInBlockAt path body).map .ok) =
        some (statements tokens >>= fun body => .ok (classesInBlock path body)) := by
    rw [statementsAt_eq]
    cases statements tokens with
    | error e => rfl
    | ok body =>
        change (classesInBlockAt path body).map Except.ok = _
        rw [classesInBlockAt_eq]
        rfl
  rw [scanSourceAt, scanSource, tokenizeAt_eq]
  cases tokenize text with
  | error e => rfl
  | ok tokens => exact hbody tokens

/-! ## What a scan ends in -/

/-- Every field has been read from a statement, and there is one at least. -/
def HasFields (c : ClassDeclaration) : Prop :=
  c.fields ≠ [] ∧ ∀ f ∈ c.fields, ∃ tokens, fieldDeclarationAt tokens = some (some f)

theorem hasFields_of_classDeclaration? {path name : String} {line : Nat} {body : List (List Token)}
    {c : ClassDeclaration} (h : classDeclaration? path name line body = some c) : HasFields c := by
  rw [classDeclaration?] at h
  split at h
  · cases h
  · next hkept =>
    cases h
    refine ⟨fun hempty => hkept ?_, fun f hf => ?_⟩
    · rw [show body.filterMap fieldDeclaration? = [] from hempty]
      exact Bool.or_true _
    · obtain ⟨tokens, -, hfield⟩ := List.mem_filterMap.mp hf
      exact ⟨tokens, by rw [fieldDeclarationAt_eq, hfield]⟩

mutual

theorem hasFields_of_mem_classesIn {path : String} {c : ClassDeclaration} :
    ∀ s : Statement, c ∈ classesIn path s → HasFields c
  | .simple line, hc => by
      rw [classesIn, Option.mem_toList] at hc
      obtain ⟨h, -, hclass⟩ := Option.bind_eq_some_iff.mp hc
      exact hasFields_of_classDeclaration? hclass
  | .compound header body, hc => by
      rw [classesIn, List.mem_append, Option.mem_toList] at hc
      rcases hc with hc | hc
      · obtain ⟨h, -, hclass⟩ := Option.bind_eq_some_iff.mp hc
        exact hasFields_of_classDeclaration? hclass
      · exact hasFields_of_mem_classesInBlock body hc

theorem hasFields_of_mem_classesInBlock {path : String} {c : ClassDeclaration} :
    ∀ body : List Statement, c ∈ classesInBlock path body → HasFields c
  | [], hc => by cases hc
  | s :: rest, hc => by
      rw [classesInBlock, List.mem_append] at hc
      exact hc.elim (hasFields_of_mem_classesIn s) (hasFields_of_mem_classesInBlock rest)

end

/-- Whatever a text is, none of the looks, slices and differences of a scan fails: not those of its
tokens, of the statements in any tokens, of the header or field in a statement, or of an annotation.
Nothing in front of the first token of a line is told of either. The scan ends in a syntax error or
in classes, whose fields are the ones that could be read. -/
theorem scan_keeps_within :
    (∀ text, tokenizeAt text = some (tokenize text)) ∧
    (∀ before tokens, statementsAt before tokens = some (statements tokens)) ∧
    (∀ tokens, classHeaderAt tokens = some (classHeader? tokens)) ∧
    (∀ tokens, fieldDeclarationAt tokens = some (fieldDeclaration? tokens)) ∧
    (∀ e, isOptionalAt e = some (isOptional e)) ∧
    ∀ before path text, scanSourceAt before path text = some (scanSource path text) ∧
      ((∃ e, scanSourceAt before path text = some (.error e)) ∨
        ∃ classes, scanSourceAt before path text = some (.ok classes) ∧
          ∀ c ∈ classes, HasFields c) := by
  refine ⟨tokenizeAt_eq, statementsAt_eq, classHeaderAt_eq, fieldDeclarationAt_eq, isOptionalAt_eq,
    fun before path text => ⟨scanSourceAt_eq before path text, ?_⟩⟩
  rw [scanSourceAt_eq]
  cases hscan : scanSource path text with
  | error e => exact .inl ⟨e, rfl⟩
  | ok classes =>
      refine .inr ⟨classes, rfl, fun c hc => ?_⟩
      obtain ⟨tokens, body, -, -, rfl⟩ := scanSource_eq_ok.mp hscan
      exact hasFields_of_mem_classesInBlock body hc

end DeclaredSchema.Source.ByPlace
