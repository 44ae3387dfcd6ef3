import Mathlib
import DeclaredSchema.Declaration.Files
import DeclaredSchema.Proofs.Source.Lexing

/-! # Scans that are called off

Every file of a scan stands for itself: what it gives depends on its own text and on nothing else. So
a scan that is called off while a file is announced has done with the files up to that one what the
whole scan does with them, and the rest is missing from it.
-/

namespace DeclaredSchema

/-! ## What one file gives -/

/-- What a file gives whose text could be read, or could not. -/
def scanRead (path : String) (read : Except FileFault String) :
    Except SourceFault (List ClassDeclaration) :=
  match read with
  | .error e => .error ⟨path, .unreadable e⟩
  | .ok text => (scanSource path text).mapError fun e => ⟨path, .badSyntax e⟩

theorem scanFile_eq (t : FileTree) (path : String) :
    scanFile t path = scanRead path (t.readText path) := rfl

/-- The classes that a file adds. -/
def classesGiven (result : Except SourceFault (List ClassDeclaration)) : List ClassDeclaration :=
  match result with
  | .ok classes => classes
  | .error _ => []

/-- The faults that a file adds: none beside classes, and otherwise one. -/
def faultsGiven (result : Except SourceFault (List ClassDeclaration)) : List SourceFault :=
  match result with
  | .ok _ => []
  | .error fault => [fault]

/-- The announcements of files, the first one being the `number`-th of `total`. -/
def announcements (total : Nat) : Nat → List String → List ProgressEvent
  | _, [] => []
  | number, path :: rest => .scanning path number total :: announcements total (number + 1) rest

/-- The outcome of files that are all scanned, the first one being the `number`-th of `total`. -/
def completed (t : FileTree) (total number : Nat) (files : List String) (cancelled : Bool) :
    ScanOutcome where
  classes := files.flatMap fun path => classesGiven (scanFile t path)
  faults := files.flatMap fun path => faultsGiven (scanFile t path)
  filesScanned := files.length
  cancelled := cancelled
  events := announcements total number files

/-- One file in front of those that have been scanned. -/
theorem addFile_completed (t : FileTree) (total number : Nat) (path : String)
    (files : List String) (cancelled : Bool) :
    (completed t total (number + 1) files cancelled).addFile (.scanning path number total)
        (scanFile t path) = completed t total number (path :: files) cancelled := by
  simp only [completed, List.flatMap_cons, ScanOutcome.addFile]
  cases scanFile t path <;> rfl

theorem announcements_take (total number n : Nat) (files : List String) :
    announcements total number (files.take n) = (announcements total number files).take n := by
  induction files generalizing number n with
  | nil => rw [List.take_nil, announcements, List.take_nil]
  | cons path rest ih =>
      cases n with
      | zero => rfl
      | succ n => rw [List.take_succ_cons, announcements, announcements, ih, List.take_succ_cons]

/-- The announcement of each file has its path, its number from one on and the same total. -/
theorem getElem?_announcements (total number i : Nat) (files : List String) :
    (announcements total number files)[i]? =
      files[i]?.map fun path => .scanning path (number + i) total := by
  induction files generalizing number i with
  | nil => rfl
  | cons path rest ih =>
      cases i with
      | zero => rfl
      | succ i =>
          rw [announcements, List.getElem?_cons_succ, List.getElem?_cons_succ, ih,
            Nat.add_assoc, Nat.add_comm 1 i]

/-! ## When a scan is called off -/

namespace Cancellation

/-- The scan is called off before it starts, if `k` is zero, or first while the `k`-th file is
announced. -/
structure RaisedAt (c : Cancellation) (k : Nat) : Prop where
  beforeStart : c.beforeStart = decide (k = 0)
  notBefore : ∀ n, 0 < n → n < k → c.whileAnnouncing n = false
  raised : 0 < k → c.whileAnnouncing k = true

theorem raisedAt_atFile (k : Nat) : (atFile k).RaisedAt k where
  beforeStart := rfl
  notBefore _ _ hlt := beq_false_of_ne (Nat.ne_of_lt hlt)
  raised _ := beq_self_eq_true k

end Cancellation

section Runs

variable {t : FileTree} {c : Cancellation} {total : Nat}

/-- By induction on the files. As long as the scan goes on, `k` is not yet behind it, and so it ends
behind the `k`-th file. -/
theorem scanFrom_raisedAt {k : Nat} (h : c.RaisedAt k) {number : Nat} (hnumber : 0 < number)
    (files : List String) :
    scanFrom t c total (decide (k < number)) number files =
      completed t total number (files.take (k + 1 - number))
        (decide (k + 1 - number < files.length)) := by
  induction files generalizing number with
  | nil => rw [List.take_nil]; rfl
  | cons path rest ih =>
      by_cases hstop : k < number
      · have hnone : k + 1 - number = 0 := by omega
        rw [decide_eq_true hstop, hnone]
        rfl
      · have hsome : k + 1 - number = k + 1 - (number + 1) + 1 := by omega
        have hraised : c.whileAnnouncing number = decide (k < number + 1) := by
          rcases Nat.lt_or_eq_of_le (Nat.le_of_not_lt hstop) with hlt | rfl
          · rw [h.notBefore number hnumber hlt, decide_eq_false (by omega)]
          · rw [h.raised hnumber, decide_eq_true (Nat.lt_succ_self _)]
        rw [decide_eq_false hstop, scanFrom, hraised, ih (Nat.succ_pos number), hsome,
          List.take_succ_cons, addFile_completed, List.length_cons]
        simp only [Nat.add_lt_add_iff_right]

theorem scanFiles_raisedAt {k : Nat} (h : c.RaisedAt k) (files : List String) :
    scanFiles t c files =
      completed t files.length 1 (files.take k) (decide (k < files.length)) := by
  have hstart : decide (k = 0) = decide (k < 1) := by simp only [Nat.lt_one_iff]
  rw [scanFiles, h.beforeStart, hstart, scanFrom_raisedAt h Nat.one_pos, Nat.add_sub_cancel]

/-- A scan that is not called off comes to all files. -/
theorem scanFrom_never (number : Nat) (files : List String) :
    scanFrom t .never total false number files = completed t total number files false := by
  induction files generalizing number with
  | nil => rfl
  | cons path rest ih => rw [scanFrom, ← addFile_completed, ← ih]; rfl

theorem scanFiles_never (files : List String) :
    scanFiles t .never files = completed t files.length 1 files false :=
  scanFrom_never 1 files

end Runs

/-! ## A part of the whole scan -/

/-- A scan that is called off while its `k`-th file is announced, or before it starts if `k` is zero,
is the beginning of the whole scan: it has scanned so many files, announced them and no others, and
has the classes and faults that they give to the whole scan. In that one every file gives its classes
or one fault, whatever the other files hold. -/
theorem cancelled_scan_is_beginning (t : FileTree) (files : List String) {c : Cancellation} {k : Nat}
    (h : c.RaisedAt k) :
    let whole := scanFiles t .never files
    let outcome := scanFiles t c files
    let given (path : String) := scanRead path (t.readText path)
    (outcome.filesScanned = min k files.length ∧
      outcome.classes = (scanFiles t .never (files.take k)).classes ∧
      outcome.faults = (scanFiles t .never (files.take k)).faults ∧
      outcome.classes <+: whole.classes ∧ outcome.faults <+: whole.faults ∧
      outcome.events = whole.events.take k ∧
      (outcome.cancelled = true ↔ k < files.length)) ∧
    (whole.filesScanned = files.length ∧ whole.cancelled = false ∧
      (∀ i : Nat, whole.events[i]? =
        files[i]?.map fun path => .scanning path (i + 1) files.length) ∧
      whole.classes = files.flatMap (fun path => classesGiven (given path)) ∧
      whole.faults = files.flatMap fun path => faultsGiven (given path)) ∧
    ∀ settings root, filesOfRoot t settings root = .ok files →
      scanTree t settings .never root = .ok whole ∧ scanTree t settings c root = .ok outcome := by
  intro whole outcome given
  have hwhole : whole = completed t files.length 1 files false := scanFiles_never files
  have houtcome : outcome = _ := scanFiles_raisedAt h files
  have hprefix {α : Type} (f : String → List α) : (files.take k).flatMap f <+: files.flatMap f := by
    conv => rhs; rw [← List.take_append_drop k files, List.flatMap_append]
    exact List.prefix_append _ _
  refine ⟨?_, ?_, ?_⟩
  · rw [houtcome, hwhole, scanFiles_never]
    refine ⟨List.length_take .., rfl, rfl, hprefix _, hprefix _, ?_, decide_eq_true_iff⟩
    exact announcements_take files.length 1 k files
  · rw [hwhole]
    refine ⟨rfl, rfl, fun i => ?_, rfl, rfl⟩
    rw [Nat.add_comm i 1]
    exact getElem?_announcements files.length 1 i files
  · intro settings root hfiles
    simp only [scanTree, hfiles]
    exact ⟨rfl, rfl⟩

/-- Of three files the first one has a class, the second one is missing and the third one is no
longer looked at. -/
theorem cancelled_scan_is_beginning_of_three :
    let t : FileTree := ⟨[], [(["a"], .file "class A: b: T = EnumAttribute()".toUTF8)]⟩
    let files := ["a", "b", "c"]
    let outcome := scanFiles t (.atFile 2) files
    (Cancellation.atFile 2).RaisedAt 2 ∧ outcome.filesScanned = 2 ∧
      outcome.classes = [⟨"A", "a", 1, [⟨"b", "b", "EnumAttribute", [], false, 1⟩]⟩] ∧
      outcome.faults = [⟨"b", .unreadable .missing⟩] ∧
      outcome.events = [.scanning "a" 1 3, .scanning "b" 2 3] ∧ outcome.cancelled = true := by
  intro t files outcome
  have hclass : scanFile t "a" =
      .ok [⟨"A", "a", 1, [⟨"b", "b", "EnumAttribute", [], false, 1⟩]⟩] := by
    have hread : t.readText "a" = .ok "class A: b: T = EnumAttribute()" := by cbv
    have htokens : Source.tokenize "class A: b: T = EnumAttribute()" = .ok [⟨.name "class", 1⟩,
        ⟨.name "A", 1⟩, ⟨.symbol .colon, 1⟩, ⟨.name "b", 1⟩, ⟨.symbol .colon, 1⟩, ⟨.name "T", 1⟩,
        ⟨.symbol .assign, 1⟩, ⟨.name "EnumAttribute", 1⟩, ⟨.symbol .openParen, 1⟩,
        ⟨.symbol .closeParen, 1⟩, ⟨.newline, 1⟩, ⟨.endMarker, 1⟩] := by
      rw [Source.tokenize_eq_steps]
      rfl
    rw [scanFile_eq, hread, scanRead, scanSource, htokens]
    with_unfolding_all rfl
  have hmissing : scanFile t "b" = .error ⟨"b", .unreadable .missing⟩ := by
    have hread : t.readText "b" = .error .missing := by cbv
    rw [scanFile_eq, hread]
    rfl
  have hraised := Cancellation.raisedAt_atFile 2
  obtain ⟨⟨hscanned, hclasses, hfaults, -, -, hevents, hcancelled⟩, -, -⟩ :=
    cancelled_scan_is_beginning t files hraised
  refine ⟨hraised, hscanned, ?_, ?_, ?_, hcancelled.mpr (by decide)⟩
  · refine hclasses.trans ?_
    simp [scanFiles_never, completed, files, hclass, hmissing, classesGiven]
  · refine hfaults.trans ?_
    simp [scanFiles_never, completed, files, hclass, hmissing, faultsGiven]
  · refine hevents.trans ?_
    simp [scanFiles_never, completed, files, announcements]

end DeclaredSchema
