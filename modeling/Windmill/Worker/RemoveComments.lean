import Windmill.Sql.Builder

/-!
# `remove_comments`: the statement slice of a SQL script

The worker strips the comments around a single SQL statement with `remove_comments`
(`windmill-worker/src/sql_utils.rs`).  One pass over `stmt.char_indices()` keeps a few flags
(inside a line comment, a block comment, a quoted string), the byte where the statement starts
and the byte just past its first `;`, and the function returns `&stmt[start..end]`.

The loop body is modelled block by block (`trackString`, `trackComments`, `trackBoundary`), and
the `while let` loop is `scan`, structurally recursive over the remaining characters; the extra
`char_indices.next()` taken when a block comment closes consumes a second character.  Rust's
slice `&stmt[a..b]` panics unless `a ≤ b ≤ stmt.len()` and both are character boundaries;
`slice` returns `none` exactly then.

The main result is that the slice never panics: whatever the input, the scan ends with both
offsets on character boundaries of `stmt` and in order.  The last section sets beside the code a
lexer that reads `--` and block comments and backslash-escaped quotes, and shows where the two
part ways: a statement that starts with a quote loses its first literal.
-/

namespace Windmill.Worker

open Windmill.Sql String

/-! ## The loop state -/

/-- The local variables of `remove_comments` that the loop updates. -/
structure CommentScan where
  inStmt : Bool := false
  inLineComment : Bool := false
  inBlockComment : Bool := false
  inString : Bool := false
  stringDelimiter : Char := '\x00'
  startByte : Option Nat := none
  endByte : Nat
  prevChar : Char := '\x00'
deriving DecidableEq, Repr

/-- How one run of the loop body ends: on to the next character, past the next character as
well (the `char_indices.next(); continue` of a closing block comment), or out of the loop (the
`break` at the statement's `;`). -/
inductive Step where
  | next (s : CommentScan)
  | skip (s : CommentScan)
  | stop (s : CommentScan)
deriving DecidableEq, Repr

/-- The state a step leaves behind, however the loop goes on. -/
def Step.state : Step → CommentScan
  | .next s | .skip s | .stop s => s

@[simp] theorem Step.state_next (s : CommentScan) : (Step.next s).state = s := rfl
@[simp] theorem Step.state_skip (s : CommentScan) : (Step.skip s).state = s := rfl
@[simp] theorem Step.state_stop (s : CommentScan) : (Step.stop s).state = s := rfl

/-! ## The loop body -/

namespace CommentScan

/-- The string-literal block: a quote not preceded by a backslash opens a string, or closes the
one its own delimiter opened. -/
def trackString (s : CommentScan) (c : Char) : CommentScan :=
  if !s.inLineComment && !s.inBlockComment then
    if (c == '\'' || c == '"') && s.prevChar != '\\' then
      if s.inString && c == s.stringDelimiter then
        { s with inString := false, stringDelimiter := '\x00' }
      else if !s.inString then
        { s with inString := true, stringDelimiter := c }
      else s
    else s
  else s

/-- The comment block, an `else if` chain run outside strings.  Its `.next` goes on with the
rest of the loop body; `.skip` is the closing `*/`, which jumps over the `/`. -/
def trackComments (s : CommentScan) (c nextChar : Char) : Step :=
  if !s.inString then
    if !s.inBlockComment && c == '-' && nextChar == '-' then .next { s with inLineComment := true }
    else if s.inLineComment && c == '\n' then .next { s with inLineComment := false }
    else if !s.inLineComment && c == '/' && nextChar == '*' then
      .next { s with inBlockComment := true }
    else if s.inBlockComment && c == '*' && nextChar == '/' then
      .skip { s with inBlockComment := false, prevChar := '/' }
    else .next s
  else .next s

/-- The statement-boundary block and the final `prev_char = c`: outside comments and strings the
first non-whitespace character starts the statement, and a `;` inside it ends the loop with
`end_byte` just past it. -/
def trackBoundary (s : CommentScan) (bytePos : Nat) (c : Char) : Step :=
  if !s.inLineComment && !s.inBlockComment && !s.inString then
    let s := if !s.inStmt && !isWhitespace c then
      { s with startByte := some bytePos, inStmt := true } else s
    if s.inStmt && c == ';' then .stop { s with endByte := bytePos + c.utf8Size }
    else .next { s with prevChar := c }
  else .next { s with prevChar := c }

/-- One run of the loop body at byte `bytePos` on `c`, with `nextChar` the peeked character
(`'\0'` at the end). -/
def step (s : CommentScan) (bytePos : Nat) (c nextChar : Char) : Step :=
  match (s.trackString c).trackComments c nextChar with
  | .next s => s.trackBoundary bytePos c
  | other => other

end CommentScan

/-- The `while let Some((byte_pos, c)) = char_indices.next()` loop over the characters left. -/
def scan (s : CommentScan) (bytePos : Nat) : List Char → CommentScan
  | [] => s
  | c :: rest =>
    match s.step bytePos c (rest.headD '\x00') with
    | .next s => scan s (bytePos + c.utf8Size) rest
    | .skip s =>
      match rest with
      | [] => s
      | d :: rest => scan s (bytePos + c.utf8Size + d.utf8Size) rest
    | .stop s => s

/-- The state when the loop of `remove_comments stmt` ends. -/
def finalScan (stmt : String) : CommentScan :=
  scan { endByte := stmt.utf8ByteSize } 0 stmt.data

/-- `&s[start..stop]`, `none` where Rust panics: the range must be in order and both ends must be
character boundaries of `s` (which puts them within `s.len()`). -/
def slice (s : String) (start stop : Nat) : Option String :=
  if start ≤ stop ∧ Pos.isValid s ⟨start⟩ ∧ Pos.isValid s ⟨stop⟩ then
    some (s.extract ⟨start⟩ ⟨stop⟩)
  else none

/-- `remove_comments(stmt)`, `none` if its final slice panics. -/
def removeComments (stmt : String) : Option String :=
  slice stmt ((finalScan stmt).startByte.getD 0) (finalScan stmt).endByte

example : removeComments "-- header\n  SELECT 1; -- trailer" = some "SELECT 1;" := by decide

/-! ## What one step can change -/

/-- Whether a step leaves the loop. -/
def Step.stops : Step → Bool
  | .stop _ => true
  | _ => false

@[simp] theorem Step.stops_next (s : CommentScan) : (Step.next s).stops = false := rfl
@[simp] theorem Step.stops_skip (s : CommentScan) : (Step.skip s).stops = false := rfl
@[simp] theorem Step.stops_stop (s : CommentScan) : (Step.stop s).stops = true := rfl

namespace CommentScan

variable (s : CommentScan) (bytePos : Nat) (c nextChar : Char)

@[simp] theorem trackString_startByte : (s.trackString c).startByte = s.startByte := by
  unfold trackString
  simp only [apply_ite startByte, ite_self]

@[simp] theorem trackString_endByte : (s.trackString c).endByte = s.endByte := by
  unfold trackString
  simp only [apply_ite endByte, ite_self]

@[simp] theorem trackComments_startByte :
    (s.trackComments c nextChar).state.startByte = s.startByte := by
  unfold trackComments
  simp only [apply_ite Step.state, apply_ite startByte, Step.state_next, Step.state_skip, ite_self]

@[simp] theorem trackComments_endByte :
    (s.trackComments c nextChar).state.endByte = s.endByte := by
  unfold trackComments
  simp only [apply_ite Step.state, apply_ite endByte, Step.state_next, Step.state_skip, ite_self]

@[simp] theorem trackComments_stops : (s.trackComments c nextChar).stops = false := by
  unfold trackComments
  simp only [apply_ite Step.stops, Step.stops_next, Step.stops_skip, ite_self]

theorem trackBoundary_startByte :
    (s.trackBoundary bytePos c).state.startByte = s.startByte ∨
      (s.trackBoundary bytePos c).state.startByte = some bytePos := by
  unfold trackBoundary
  simp only [apply_ite Step.state, apply_ite startByte, Step.state_next, Step.state_stop, ite_self]
  split_ifs <;> simp

theorem trackBoundary_endByte :
    (s.trackBoundary bytePos c).state.endByte =
      if (s.trackBoundary bytePos c).stops then bytePos + c.utf8Size else s.endByte := by
  unfold trackBoundary
  split
  · dsimp only
    split <;> split <;> rfl
  · rfl

/-- A step keeps `start_byte` or sets it to the current byte. -/
theorem step_startByte :
    (s.step bytePos c nextChar).state.startByte = s.startByte ∨
      (s.step bytePos c nextChar).state.startByte = some bytePos := by
  have kept := (s.trackString c).trackComments_startByte c nextChar
  cases h : (s.trackString c).trackComments c nextChar with
  | next s' =>
    simp only [step, h, Step.state_next, trackString_startByte] at kept ⊢
    exact kept ▸ s'.trackBoundary_startByte bytePos c
  | skip s' | stop s' => simp_all [step]

/-- A step keeps `end_byte` unless it leaves the loop, which puts `end_byte` just past `c`. -/
theorem step_endByte :
    (s.step bytePos c nextChar).state.endByte =
      if (s.step bytePos c nextChar).stops then bytePos + c.utf8Size else s.endByte := by
  have kept := (s.trackString c).trackComments_endByte c nextChar
  have goes := (s.trackString c).trackComments_stops c nextChar
  cases h : (s.trackString c).trackComments c nextChar with
  | next s' =>
    simp only [step, h, Step.state_next, trackString_endByte] at kept ⊢
    exact kept ▸ s'.trackBoundary_endByte bytePos c
  | skip s' | stop s' => simp_all [step, Step.stops]

end CommentScan

/-! ## The final slice never panics -/

theorem utf8ByteSize_eq_utf8Len (s : String) : s.utf8ByteSize = utf8Len s.data := rfl

/-- Every prefix of a string ends on a position `String.Pos.isValid` accepts. -/
theorem isValid_go_append (p : Pos) :
    ∀ (cs rest : List Char) (i : Pos), p.byteIdx = i.byteIdx + utf8Len cs →
      Pos.isValid.go p (cs ++ rest) i = true
  | [], rest, i, at_p => by
    have : i = p := Pos.ext (by simpa using at_p.symm)
    cases rest <;> simp [Pos.isValid.go, this]
  | c :: cs, rest, i, at_p => by
    have next := isValid_go_append p cs rest (i + c) (by simp [at_p]; omega)
    simp [Pos.isValid.go, next]

theorem isValid_of_valid {s : String} {p : Pos} (valid : p.Valid s) : Pos.isValid s p = true := by
  obtain ⟨data⟩ := s
  obtain ⟨cs, cs', rfl, at_p⟩ := valid
  exact isValid_go_append p cs cs' 0 (by simpa using at_p)

/-- What `remove_comments` needs of its final state: the slice it takes is in range. -/
structure SliceBounds (stmt : String) (s : CommentScan) : Prop where
  start_le_end : s.startByte.getD 0 ≤ s.endByte
  end_le_len : s.endByte ≤ stmt.utf8ByteSize
  start_valid : Pos.Valid stmt ⟨s.startByte.getD 0⟩
  end_valid : Pos.Valid stmt ⟨s.endByte⟩

/-- A marked start is a character boundary at or before `bytePos`. -/
def StartValid (stmt : String) (s : CommentScan) (bytePos : Nat) : Prop :=
  ∀ p, s.startByte = some p → p ≤ bytePos ∧ Pos.Valid stmt ⟨p⟩

/-- The loop invariant at byte `bytePos`: `end_byte` is still `stmt.len()`, and a marked start
is a character boundary at or before `bytePos`. -/
structure ScanInv (stmt : String) (s : CommentScan) (bytePos : Nat) : Prop where
  endByte_eq : s.endByte = stmt.utf8ByteSize
  start_valid : StartValid stmt s bytePos

section Scan

variable {stmt : String} {s s' : CommentScan} {done rest : List Char}

/-- The byte offset after a prefix of `stmt` is a character boundary. -/
theorem valid_prefix (split : stmt.data = done ++ rest) : Pos.Valid stmt ⟨utf8Len done⟩ :=
  ⟨done, rest, split.symm, rfl⟩

/-- A step keeps the start marked at a boundary, seen from any later byte. -/
theorem StartValid.advance {pos : Nat} (valid : StartValid stmt s (utf8Len done))
    (split : stmt.data = done ++ rest)
    (start : s'.startByte = s.startByte ∨ s'.startByte = some (utf8Len done))
    (later : utf8Len done ≤ pos) : StartValid stmt s' pos := by
  intro p at_p
  rcases start with start | start
  · obtain ⟨le, valid⟩ := valid p (start ▸ at_p)
    exact ⟨by omega, valid⟩
  · obtain rfl : utf8Len done = p := by simpa [start] using at_p
    exact ⟨later, valid_prefix split⟩

theorem SliceBounds.of_startValid (end_le : s.endByte ≤ stmt.utf8ByteSize)
    (end_valid : Pos.Valid stmt ⟨s.endByte⟩) (start_valid : StartValid stmt s s.endByte) :
    SliceBounds stmt s := by
  cases start : s.startByte with
  | none => exact ⟨by simp [start], end_le, by rw [start]; exact Pos.valid_zero, end_valid⟩
  | some p =>
    obtain ⟨le, valid⟩ := start_valid p start
    exact ⟨by simpa [start] using le, end_le, by simpa [start] using valid, end_valid⟩

/-- At the end of the input the invariant gives a slice in range. -/
theorem ScanInv.sliceBounds (inv : ScanInv stmt s stmt.utf8ByteSize) : SliceBounds stmt s :=
  .of_startValid (by rw [inv.endByte_eq]) (by rw [inv.endByte_eq]; exact Pos.valid_endPos)
    (by rw [inv.endByte_eq]; exact inv.start_valid)

/-- A step that goes on keeps the invariant, at any later byte. -/
theorem ScanInv.step (inv : ScanInv stmt s (utf8Len done)) (split : stmt.data = done ++ rest)
    (c nextChar : Char) (goes : (s.step (utf8Len done) c nextChar).stops = false) (pos : Nat)
    (later : utf8Len done ≤ pos) : ScanInv stmt (s.step (utf8Len done) c nextChar).state pos :=
  ⟨by simpa [goes, inv.endByte_eq] using s.step_endByte (utf8Len done) c nextChar,
    inv.start_valid.advance split (s.step_startByte _ c nextChar) later⟩

/-- A step that leaves the loop at `c` leaves a slice in range. -/
theorem ScanInv.stop {c : Char} (inv : ScanInv stmt s (utf8Len done))
    (split : stmt.data = done ++ c :: rest) (nextChar : Char)
    (stops : (s.step (utf8Len done) c nextChar).stops = true) :
    SliceBounds stmt (s.step (utf8Len done) c nextChar).state := by
  have endByte := s.step_endByte (utf8Len done) c nextChar
  rw [stops, if_pos rfl] at endByte
  have split' : stmt.data = (done ++ [c]) ++ rest := by simp [split]
  refine .of_startValid ?_ ?_ (inv.start_valid.advance split (s.step_startByte ..) ?_)
  · rw [endByte, utf8ByteSize_eq_utf8Len, split']
    simp
  · simpa [endByte] using valid_prefix split'
  · omega

/-- Whatever the loop has done before, it ends with a slice in range. -/
theorem scan_sliceBounds (s : CommentScan) (bytePos : Nat) (rest : List Char) :
    ∀ done, stmt.data = done ++ rest → bytePos = utf8Len done → ScanInv stmt s bytePos →
      SliceBounds stmt (scan s bytePos rest) := by
  induction s, bytePos, rest using scan.induct with
  | case1 s pos =>
    rintro done split rfl inv
    have : utf8Len done = stmt.utf8ByteSize := by simp [utf8ByteSize_eq_utf8Len, split]
    exact (this ▸ inv).sliceBounds
  | case2 s pos c rest s' next ih =>
    rintro done split rfl inv
    have inv' := inv.step split c (rest.headD '\x00') (by rw [next]; rfl)
      (utf8Len done + c.utf8Size) (by omega)
    rw [next, Step.state_next] at inv'
    rw [scan, next]
    exact ih (done ++ [c]) (by simp [split]) (by simp) inv'
  | case3 s pos c s' skip =>
    rintro done split rfl inv
    have inv' := inv.step split c ([].headD '\x00') (by rw [skip]; rfl) stmt.utf8ByteSize
      (by simp [utf8ByteSize_eq_utf8Len, split])
    rw [skip, Step.state_skip] at inv'
    rw [scan, skip]
    exact inv'.sliceBounds
  | case4 s pos c s' d rest skip ih =>
    rintro done split rfl inv
    have inv' := inv.step split c ((d :: rest).headD '\x00') (by rw [skip]; rfl)
      (utf8Len done + c.utf8Size + d.utf8Size) (by omega)
    rw [skip, Step.state_skip] at inv'
    rw [scan, skip]
    exact ih (done ++ [c, d]) (by simp [split]) (by simp; omega) inv'
  | case5 s pos c rest s' stop =>
    rintro done split rfl inv
    have bounds := inv.stop split (rest.headD '\x00') (by rw [stop]; rfl)
    rw [stop, Step.state_stop] at bounds
    rw [scan, stop]
    exact bounds

end Scan

/-- `remove_comments` never panics: whatever `stmt` is, the loop ends with
`start_byte.unwrap_or(0) ≤ end_byte ≤ stmt.len()`, both on character boundaries of `stmt`, so
the slice `&stmt[start..end]` is taken. -/
theorem removeComments_never_panics (stmt : String) :
    (finalScan stmt).startByte.getD 0 ≤ (finalScan stmt).endByte ∧
      (finalScan stmt).endByte ≤ stmt.utf8ByteSize ∧
      Pos.Valid stmt ⟨(finalScan stmt).startByte.getD 0⟩ ∧
      Pos.Valid stmt ⟨(finalScan stmt).endByte⟩ ∧
      (removeComments stmt).isSome := by
  obtain ⟨start_le_end, end_le_len, start_valid, end_valid⟩ :
      SliceBounds stmt (finalScan stmt) :=
    scan_sliceBounds _ 0 stmt.data [] rfl rfl ⟨rfl, nofun⟩
  refine ⟨start_le_end, end_le_len, start_valid, end_valid, ?_⟩
  simp only [removeComments, slice]
  rw [if_pos ⟨start_le_end, isValid_of_valid start_valid, isValid_of_valid end_valid⟩]
  rfl

/-! ## Against a lexer of comments and literals

A reading of the function's intent: a lexer that knows `--` comments up to the newline,
non-nested block comments closed by the first `*/` after their opener, and literals quoted by
`'` or `"` in which a backslash escapes the next character.  The statement starts at the first
character outside comments that is not whitespace, and ends just past the first `;` from there
on that is outside comments and literals.
-/

/-- What the lexer makes of one character. -/
inductive Lexeme where
  | code | comment | literal
deriving DecidableEq, Repr

/-- The lexer's modes. -/
inductive LexMode where
  | code | lineComment | blockComment
  | quoted (delimiter : Char)
deriving DecidableEq, Repr

/-- The lexeme of every character, read from the given mode. -/
def lexemes : LexMode → List Char → List Lexeme
  | _, [] => []
  | .code, '-' :: '-' :: rest => .comment :: .comment :: lexemes .lineComment rest
  | .code, '/' :: '*' :: rest => .comment :: .comment :: lexemes .blockComment rest
  | .code, c :: rest =>
    if c = '\'' ∨ c = '"' then .literal :: lexemes (.quoted c) rest
    else .code :: lexemes .code rest
  | .lineComment, c :: rest =>
    if c = '\n' then .code :: lexemes .code rest else .comment :: lexemes .lineComment rest
  | .blockComment, '*' :: '/' :: rest => .comment :: .comment :: lexemes .code rest
  | .blockComment, _ :: rest => .comment :: lexemes .blockComment rest
  | .quoted d, '\\' :: _ :: rest => .literal :: .literal :: lexemes (.quoted d) rest
  | .quoted d, c :: rest => .literal :: lexemes (if c = d then .code else .quoted d) rest

/-- The byte offset of the first character that `p` accepts, given its offset and lexeme. -/
def firstOffset (p : Nat → Char → Lexeme → Bool) (pos : Nat) :
    List Char → List Lexeme → Option Nat
  | c :: cs, l :: ls => if p pos c l then some pos else firstOffset p (pos + c.utf8Size) cs ls
  | _, _ => none

/-- The statement the lexer reading delimits in `stmt`. -/
def lexerSlice (stmt : String) : String :=
  let ls := lexemes .code stmt.data
  let start := (firstOffset (fun _ c l => l != .comment && !isWhitespace c) 0 stmt.data ls).getD 0
  let stop := match firstOffset (fun pos c l => start ≤ pos && c == ';' && l == .code) 0
      stmt.data ls with
    | some p => p + 1
    | none => stmt.utf8ByteSize
  stmt.extract ⟨start⟩ ⟨stop⟩

example : lexerSlice "/* a; */ SELECT ';' -- b;\n;" = "SELECT ';' -- b;\n;" := by decide

/-- A statement that opens with a quoted literal loses it: the quote opens the string before
the boundary block runs, so the start is marked only at the closing quote. -/
theorem removeComments_drops_leading_literal :
    removeComments "'a';" = some "';" ∧ lexerSlice "'a';" = "'a';" := by
  decide

end Windmill.Worker
