import Windmill.Sql.Builder

/-!
# How the generated text is read

A PostgreSQL lexer cut down to what decides the structure of the filters' SQL: string literals
`'...'`, in which `''` stands for one apostrophe (`standard_conforming_strings` is on, so a
backslash is an ordinary character), the two parentheses, and every other character as itself.
`lex` is a fold of the one-character `step`, so the reading of a concatenation is the reading of
its parts; `lexFrom_plain` and `lexFrom_quote` are the two cases the builders need: text the
code writes out, and a `quote`d user string.

`depth` follows the parentheses of a token list; a `Balanced` list closes every parenthesis it
opens and no other.  `conjToks` is the token image of the `(c₁) AND (c₂) AND ...` layout that
`make_wheres` writes, and `conjToks_inj` says that balanced conjuncts can be read back from it in
one way only.
-/

namespace Windmill.Sql

/-- A token of generated SQL: a literal by the string it denotes, a parenthesis, or any other
character. -/
inductive Tok where
  | lit (s : String)
  | lparen
  | rparen
  | sym (c : Char)
  deriving DecidableEq, Repr

/-- The token of a character read outside every literal. -/
def symTok (c : Char) : Tok :=
  if c = '(' then .lparen else if c = ')' then .rparen else .sym c

/-- Where the lexer stands between two characters. -/
inductive Mode where
  /-- Outside every literal. -/
  | out
  /-- Inside a literal that so far denotes `acc`. -/
  | lit (acc : List Char)
  /-- After an apostrophe inside a literal: the literal has ended unless a second apostrophe
  follows. -/
  | quote (acc : List Char)
  deriving DecidableEq, Repr

/-- The tokens read so far and the mode. -/
structure Scan where
  toks : List Tok
  mode : Mode

/-- One character. -/
def step : Scan → Char → Scan
  | ⟨ts, .out⟩, c => if c = '\'' then ⟨ts, .lit []⟩ else ⟨ts ++ [symTok c], .out⟩
  | ⟨ts, .lit a⟩, c => if c = '\'' then ⟨ts, .quote a⟩ else ⟨ts, .lit (a ++ [c])⟩
  | ⟨ts, .quote a⟩, c =>
    if c = '\'' then ⟨ts, .lit (a ++ ['\''])⟩ else ⟨ts ++ [.lit ⟨a⟩, symTok c], .out⟩

/-- The end of the text: a literal still open is a syntax error. -/
def Scan.finish : Scan → Option (List Tok)
  | ⟨ts, .out⟩ => some ts
  | ⟨ts, .quote a⟩ => some (ts ++ [.lit ⟨a⟩])
  | ⟨_, .lit _⟩ => none

/-- The tokens of `cs` after the tokens `ts`, from outside every literal. -/
def lexFrom (ts : List Tok) (cs : List Char) : Option (List Tok) :=
  (cs.foldl step ⟨ts, .out⟩).finish

def lex (s : String) : Option (List Tok) := lexFrom [] s.data

/-- The tokens of text with no apostrophe. -/
def plainToks (s : String) : List Tok := s.data.map symTok

/-- The tokens of the comma-separated literals `'v₁', 'v₂', ...`. -/
def litList : List String → List Tok
  | [] => []
  | [v] => [.lit v]
  | v :: w :: vs => .lit v :: (plainToks ", " ++ litList (w :: vs))

/-! ## Reading the two kinds of text -/

theorem foldl_step_plain : ∀ (ts : List Tok) (t : List Char), '\'' ∉ t →
    t.foldl step ⟨ts, .out⟩ = ⟨ts ++ t.map symTok, .out⟩
  | ts, [], _ => by simp
  | ts, c :: t, absent => by
    have hc : c ≠ '\'' := fun h => absent (h ▸ List.mem_cons_self c t)
    simp [step, hc, foldl_step_plain _ t (fun h => absent (List.mem_cons_of_mem c h))]

/-- Text the code writes out, with no apostrophe, is read character by character. -/
theorem lexFrom_plain (ts : List Tok) (t rest : List Char) (plain : '\'' ∉ t) :
    lexFrom ts (t ++ rest) = lexFrom (ts ++ t.map symTok) rest := by
  simp [lexFrom, List.foldl_append, foldl_step_plain ts t plain]

theorem foldl_step_esc (ts : List Tok) : ∀ (a s : List Char),
    (replaceChars '\'' ['\'', '\''] s).foldl step ⟨ts, .lit a⟩ = ⟨ts, .lit (a ++ s)⟩
  | a, [] => by simp
  | a, c :: s => by
    by_cases hc : c = '\''
    · subst hc
      simp [step, foldl_step_esc ts _ s]
    · simp [step, hc, foldl_step_esc ts _ s]

/-- A quoted string is one literal denoting that string, whatever characters it holds, as long
as the text after it does not start with an apostrophe. -/
theorem lexFrom_quote (ts : List Tok) (s : String) (rest : List Char)
    (next : rest.head? ≠ some '\'') :
    lexFrom ts ((quote s).data ++ rest) = lexFrom (ts ++ [.lit s]) rest := by
  have opened : (quote s).data.foldl step ⟨ts, .out⟩ = ⟨ts, .quote s.data⟩ := by
    simp [quote, esc_data, List.foldl_append, step, foldl_step_esc]
  cases rest with
  | nil => simp [lexFrom, opened, Scan.finish]
  | cons c rest =>
    have hc : c ≠ '\'' := by simpa using next
    simp [lexFrom, List.foldl_append, opened, step, hc]

theorem lexFrom_nil (ts : List Tok) : lexFrom ts [] = some ts := rfl

/-- The literals of an `IN` list. -/
theorem lexFrom_quotes (ts : List Tok) (vs : List String) (rest : List Char)
    (next : rest.head? ≠ some '\'') :
    lexFrom ts ((join ", " (vs.map quote)).data ++ rest) = lexFrom (ts ++ litList vs) rest := by
  induction vs generalizing ts with
  | nil => simp [join, litList]
  | cons v vs ih =>
    cases vs with
    | nil => simp [join, litList, lexFrom_quote ts v rest next]
    | cons w vs =>
      simp only [List.map_cons, join, String.data_append, List.append_assoc] at ih ⊢
      rw [lexFrom_quote _ _ _ (by simp), lexFrom_plain _ _ _ (by decide), ih]
      simp [litList, plainToks]

/-! ## Parentheses -/

/-- The parenthesis depth after reading `ts` from depth `d`, or `none` when a `)` closes
nothing. -/
def depth (d : Nat) : List Tok → Option Nat
  | [] => some d
  | .lparen :: ts => depth (d + 1) ts
  | .rparen :: ts =>
    match d with
    | 0 => none
    | d + 1 => depth d ts
  | .lit _ :: ts => depth d ts
  | .sym _ :: ts => depth d ts

/-- Every parenthesis opened is closed, and none other. -/
def Balanced (ts : List Tok) : Prop := depth 0 ts = some 0

theorem depth_append (b : List Tok) : ∀ (d : Nat) (a : List Tok),
    depth d (a ++ b) = (depth d a).bind fun e => depth e b
  | _, [] => rfl
  | d, .lparen :: a => depth_append b (d + 1) a
  | 0, .rparen :: _ => rfl
  | d + 1, .rparen :: a => depth_append b d a
  | d, .lit _ :: a => depth_append b d a
  | d, .sym _ :: a => depth_append b d a

/-- Depth is read relative to where the list starts. -/
theorem depth_add (k : Nat) {ts : List Tok} :
    ∀ {d e : Nat}, depth d ts = some e → depth (d + k) ts = some (e + k) := by
  induction ts with
  | nil =>
    intro d e h
    simp only [depth, Option.some.injEq] at h ⊢
    omega
  | cons t ts ih =>
    intro d e h
    cases t with
    | lparen =>
      rw [depth, Nat.add_right_comm]
      exact ih h
    | rparen =>
      cases d with
      | zero => simp [depth] at h
      | succ d =>
        rw [show d + 1 + k = d + k + 1 by omega]
        exact ih h
    | lit _ => exact ih h
    | sym _ => exact ih h

theorem Balanced.depth_eq {ts : List Tok} (balanced : Balanced ts) (d : Nat) :
    depth d ts = some d := by
  simpa using depth_add d balanced

/-- A token list with no parenthesis leaves the depth where it is. -/
theorem depth_of_noParen : ∀ {ts : List Tok}, Tok.lparen ∉ ts → Tok.rparen ∉ ts →
    ∀ d, depth d ts = some d
  | [], _, _, _ => rfl
  | .lparen :: _, hl, _, _ => absurd (List.mem_cons_self _ _) hl
  | .rparen :: _, _, hr, _ => absurd (List.mem_cons_self _ _) hr
  | .lit _ :: _, hl, hr, d =>
    depth_of_noParen (fun h => hl (List.mem_cons_of_mem _ h))
      (fun h => hr (List.mem_cons_of_mem _ h)) d
  | .sym _ :: _, hl, hr, d =>
    depth_of_noParen (fun h => hl (List.mem_cons_of_mem _ h))
      (fun h => hr (List.mem_cons_of_mem _ h)) d

theorem litList_noParen : ∀ vs : List String,
    Tok.lparen ∉ litList vs ∧ Tok.rparen ∉ litList vs
  | [] => by simp [litList]
  | [v] => by simp [litList]
  | v :: w :: vs => by
    obtain ⟨hl, hr⟩ := litList_noParen (w :: vs)
    simp only [litList, List.mem_cons, List.mem_append, not_or]
    exact ⟨⟨by simp, by decide, hl⟩, ⟨by simp, by decide, hr⟩⟩

@[simp] theorem depth_litList (vs : List String) (d : Nat) : depth d (litList vs) = some d :=
  depth_of_noParen (litList_noParen vs).1 (litList_noParen vs).2 d

/-! ## The conjunction `make_wheres` writes -/

/-- `(c₁) AND (c₂) AND ...`, token by token. -/
def conjToks : List (List Tok) → List Tok
  | [] => []
  | [c] => .lparen :: (c ++ [.rparen])
  | c :: d :: cs => .lparen :: (c ++ .rparen :: (plainToks " AND " ++ conjToks (d :: cs)))

/-- The tokens of a WHERE clause with the given conjuncts, as `make_wheres` lays them out. -/
def whereToks : List (List Tok) → List Tok
  | [] => []
  | [c] => plainToks " WHERE " ++ c
  | c :: d :: cs => plainToks " WHERE " ++ conjToks (c :: d :: cs)

/-- In `(a) ...` with `a` balanced, the `)` that closes the group is the one after `a`. -/
theorem group_inj {a a' r r' : List Tok} (ha : Balanced a) (ha' : Balanced a')
    (same : a ++ Tok.rparen :: r = a' ++ Tok.rparen :: r') : a = a' ∧ r = r' := by
  have closes : ∀ {x m : List Tok}, Balanced x → ¬ Balanced (x ++ Tok.rparen :: m) := by
    intro x m hx hxm
    unfold Balanced at hx hxm
    simp [depth_append, hx, depth] at hxm
  rcases List.append_eq_append_iff.mp same with ⟨m, rfl, hm⟩ | ⟨m, rfl, hm⟩
  · cases m with
    | nil => simp_all
    | cons t m =>
      simp only [List.cons_append, List.cons.injEq] at hm
      obtain ⟨rfl, rfl⟩ := hm
      exact absurd ha' (closes ha)
  · cases m with
    | nil => simp_all
    | cons t m =>
      simp only [List.cons_append, List.cons.injEq] at hm
      obtain ⟨rfl, rfl⟩ := hm
      exact absurd ha (closes ha')

/-- Balanced conjuncts are read back from their conjunction in one way only. -/
theorem conjToks_inj : ∀ {cs cs' : List (List Tok)}, (∀ c ∈ cs, Balanced c) →
    (∀ c ∈ cs', Balanced c) → cs ≠ [] → conjToks cs = conjToks cs' → cs = cs'
  | [], _, _, _, nonempty, _ => absurd rfl nonempty
  | [c], [], _, _, _, same => by simp [conjToks] at same
  | c :: d :: cs, [], _, _, _, same => by simp [conjToks] at same
  | [c], [c'], hb, hb', _, same => by
    simp only [conjToks, List.cons.injEq] at same
    simpa using (group_inj (hb c (by simp)) (hb' c' (by simp)) same.2).1
  | [c], c' :: d' :: cs', hb, hb', _, same => by
    simp only [conjToks, List.cons.injEq] at same
    have := (group_inj (hb c (by simp)) (hb' c' (by simp)) same.2).2
    simp [plainToks] at this
  | c :: d :: cs, [c'], hb, hb', _, same => by
    simp only [conjToks, List.cons.injEq] at same
    have := (group_inj (hb c (by simp)) (hb' c' (by simp)) same.2).2
    simp [plainToks] at this
  | c :: d :: cs, c' :: d' :: cs', hb, hb', _, same => by
    simp only [conjToks, List.cons.injEq] at same
    obtain ⟨rfl, rest⟩ := group_inj (hb c (by simp)) (hb' c' (by simp)) same.2
    have tail := @conjToks_inj (d :: cs) (d' :: cs')
      (fun x hx => hb x (List.mem_cons_of_mem _ hx))
      (fun x hx => hb' x (List.mem_cons_of_mem _ hx)) (by simp)
      (List.append_cancel_left rest)
    rw [tail]

end Windmill.Sql
