import Windmill.Sql.Builder
import Mathlib.Data.List.DropRight

/-!
# Workspace restrictions of S3 buckets

The variable `S3_BUCKETS_WORKSPACE_RESTRICTIONS` limits which workspaces may reach which buckets
(`windmill-object-store/src/lib.rs`).  `parse_bucket_restrictions_from_str` reads it as
`;`-separated rules `bucket:workspace1,workspace2` into a map from bucket to workspaces.  It skips
blank pieces, pieces without `:` and rules that list no workspace, and a later rule for a bucket
replaces an earlier one.  `check_bucket_workspace_restriction` then refuses every workspace the
bucket's entry does not list, and lets every bucket without an entry through.

The loop trims each piece before it splits it at the first `:`, and trims the bucket and the
workspace names again after the split.  So a rule reads the same from the untrimmed piece
(`bucketRule_eq_some`).  The parsed map gives each bucket the workspaces of the last rule for
it, and no entry to a bucket that no rule names.  Hence a bucket named by a well-formed rule is
never left open, whatever blank, malformed, repeated or padded pieces surround the rule.
-/

namespace Windmill.ObjectStore

open Windmill.Sql (isWhitespace splitChars splitChars_of_not_mem)

/-! ## Rust string operations -/

/-- `str::trim`: the leading and trailing whitespace removed. -/
def trim (cs : List Char) : List Char :=
  (cs.dropWhile isWhitespace).rdropWhile isWhitespace

/-- `s.splitn(2, c)` when it yields two parts: the text before the first `c` and the rest. -/
def splitOnce (c : Char) : List Char → Option (List Char × List Char)
  | [] => none
  | d :: ds => if d = c then some ([], ds) else (splitOnce c ds).map fun r => (d :: r.1, r.2)

/-! ## Parsing the restrictions -/

/-- The `HashMap<String, Vec<String>>` of restrictions, as its entries: `HashMap::get` is
`List.lookup` and `HashMap::is_empty` is `List.isEmpty`. -/
abbrev Restrictions := List (String × List String)

/-- `restrictions.insert(bucket, workspaces)`: the new entry replaces the bucket's old one. -/
def insertRestriction (restrictions : Restrictions) (bucket : String) (workspaces : List String) :
    Restrictions :=
  (bucket, workspaces) :: restrictions.filter (fun e => e.1 != bucket)

/-- `parts[1].split(',').map(|w| w.trim().to_string()).filter(|w| !w.is_empty())`: the
workspaces a rule lists. -/
def workspaceNames (rest : List Char) : List (List Char) :=
  ((splitChars ',' rest).map trim).filter (fun w => !w.isEmpty)

/-- The entry one `;`-separated piece of the configuration inserts, or `none` where the loop of
`parse_bucket_restrictions_from_str` skips it with `continue`: a blank piece, a piece without
`:`, or a rule that lists no workspace. -/
def bucketRule (piece : List Char) : Option (String × List String) :=
  let rule := trim piece
  if rule.isEmpty then none
  else
    match splitOnce ':' rule with
    | none => none
    | some (bucketName, rest) =>
      if (workspaceNames rest).isEmpty then none
      else some (⟨trim bucketName⟩, (workspaceNames rest).map String.mk)

/-- One pass of the loop over `input.split(';')`. -/
def addRule (restrictions : Restrictions) (piece : List Char) : Restrictions :=
  match bucketRule piece with
  | some (bucketName, workspaces) => insertRestriction restrictions bucketName workspaces
  | none => restrictions

/-- `parse_bucket_restrictions_from_str`. -/
def parseBucketRestrictionsFromStr (input : String) : Option Restrictions :=
  if (trim input.data).isEmpty then none
  else
    let restrictions := (splitChars ';' input.data).foldl addRule []
    if restrictions.isEmpty then none else some restrictions

/-- `check_bucket_workspace_restriction`, with the restrictions passed in.  The code reads them
from the static `S3_BUCKET_RESTRICTIONS`, which `parse_bucket_restrictions` fills from
`S3_BUCKETS_WORKSPACE_RESTRICTIONS` through `parse_bucket_restrictions_from_str`.  The error is
the text of its `NotAuthorized` error. -/
def checkBucketWorkspaceRestriction (restrictions : Option Restrictions)
    (bucketName workspaceId : String) : Except String Unit :=
  match restrictions with
  | some restrictions =>
    match restrictions.lookup bucketName with
    | some allowedWorkspaces =>
      if allowedWorkspaces.contains workspaceId then .ok ()
      else .error ("Workspace '" ++ workspaceId ++ "' is not authorized to access bucket '" ++
        bucketName ++ "'")
    | none => .ok ()
  | none => .ok ()

/-- `RuleFor s b names`: some `;`-separated piece of `s` has a part before its first `:` that
trims to `b`, and after it at least one non-blank comma-separated name; `names` are those
names, trimmed. -/
def RuleFor (s b : String) (names : List String) : Prop :=
  ∃ piece ∈ splitChars ';' s.data, ∃ before after,
    splitOnce ':' piece = some (before, after) ∧ trim before = b.data ∧
      names = (workspaceNames after).map String.mk ∧ workspaceNames after ≠ []

/-! ## Trimming -/

section Trim

variable {α : Type} {p : α → Bool} {c : α}

theorem dropWhile_append_of_neg (hc : p c = false) (xs ys : List α) :
    (xs ++ c :: ys).dropWhile p = xs.dropWhile p ++ c :: ys := by
  rw [List.dropWhile_append]
  split
  · rename_i blank
    rw [List.isEmpty_iff.mp blank, List.dropWhile_cons_of_neg (by simp [hc]), List.nil_append]
  · rfl

theorem rdropWhile_append_of_neg (hc : p c = false) (xs ys : List α) :
    (xs ++ c :: ys).rdropWhile p = xs ++ c :: ys.rdropWhile p := by
  simp only [List.rdropWhile, List.reverse_append, List.reverse_cons, List.append_assoc,
    List.singleton_append, dropWhile_append_of_neg hc, List.reverse_reverse]

theorem rdropWhile_append_of_all {ys : List α} (h : ∀ y ∈ ys, p y) (xs : List α) :
    (xs ++ ys).rdropWhile p = xs.rdropWhile p := by
  rw [List.rdropWhile, List.reverse_append, List.dropWhile_append_of_pos (by simpa using h)]
  rfl

theorem rdropWhile_append_rtakeWhile (l : List α) : l.rdropWhile p ++ l.rtakeWhile p = l := by
  rw [List.rdropWhile, List.rtakeWhile, ← List.reverse_append, List.takeWhile_append_dropWhile,
    List.reverse_reverse]

end Trim

theorem trim_sublist (xs : List Char) : (trim xs).Sublist xs :=
  (List.rdropWhile_prefix _ _).sublist.trans (List.dropWhile_sublist _)

theorem trim_eq_nil {xs : List Char} : trim xs = [] ↔ ∀ x ∈ xs, isWhitespace x := by
  rw [trim, List.rdropWhile_eq_nil_iff, ← List.dropWhile_eq_nil_iff, List.dropWhile_idempotent,
    List.dropWhile_eq_nil_iff]

/-- Trimming a text around a non-blank separator trims its two sides apart. -/
theorem trim_sep {c : Char} (hc : isWhitespace c = false) (xs ys : List Char) :
    trim (xs ++ c :: ys) = xs.dropWhile isWhitespace ++ c :: ys.rdropWhile isWhitespace := by
  rw [trim, dropWhile_append_of_neg hc, rdropWhile_append_of_neg hc]

theorem trim_append_blank {ys : List Char} (blank : ∀ y ∈ ys, isWhitespace y) (xs : List Char) :
    trim (xs ++ ys) = trim xs := by
  rw [trim, trim, List.dropWhile_append]
  split
  · rename_i empty
    rw [List.isEmpty_iff.mp empty, List.dropWhile_eq_nil_iff.mpr blank]
  · exact rdropWhile_append_of_all blank _

theorem trim_dropWhile (xs : List Char) : trim (xs.dropWhile isWhitespace) = trim xs := by
  rw [trim, trim, List.dropWhile_idempotent]

/-! ## Splitting -/

@[simp] theorem splitOnce_nil (c : Char) : splitOnce c [] = none := rfl

@[simp] theorem splitOnce_cons (c d : Char) (ds : List Char) :
    splitOnce c (d :: ds) =
      if d = c then some ([], ds) else (splitOnce c ds).map fun r => (d :: r.1, r.2) := rfl

theorem splitOnce_eq_none {c : Char} : ∀ {xs : List Char}, splitOnce c xs = none ↔ c ∉ xs
  | [] => by simp
  | d :: ds => by
    by_cases hd : d = c
    · subst hd
      simp
    · simp [hd, splitOnce_eq_none, Ne.symm hd]

theorem splitOnce_append {c : Char} (after : List Char) :
    ∀ {before : List Char}, c ∉ before → splitOnce c (before ++ c :: after) = some (before, after)
  | [], _ => by simp
  | d :: ds, absent => by
    have hd : d ≠ c := fun h => absent (h ▸ List.mem_cons_self d ds)
    simp [hd, splitOnce_append after (fun h => absent (List.mem_cons_of_mem d h))]

theorem eq_append_of_splitOnce {c : Char} : ∀ {xs before after : List Char},
    splitOnce c xs = some (before, after) → xs = before ++ c :: after ∧ c ∉ before
  | [], _, _, found => by simp at found
  | d :: ds, before, after, found => by
    by_cases hd : d = c
    · simp only [splitOnce_cons, hd, ↓reduceIte, Option.some.injEq, Prod.mk.injEq] at found
      obtain ⟨rfl, rfl⟩ := found
      simp [hd]
    · simp only [splitOnce_cons, hd, ↓reduceIte, Option.map_eq_some'] at found
      obtain ⟨⟨b, a⟩, rest, parts⟩ := found
      simp only [Prod.mk.injEq] at parts
      obtain ⟨rfl, rfl⟩ := parts
      obtain ⟨rfl, absent⟩ := eq_append_of_splitOnce rest
      simp [absent, Ne.symm hd]

theorem subset_of_mem_splitChars {c : Char} :
    ∀ {xs piece : List Char}, piece ∈ splitChars c xs → piece ⊆ xs
  | [], piece, mem => by simp_all [splitChars]
  | d :: ds, piece, mem => by
    unfold splitChars at mem
    split at mem
    · rcases List.mem_cons.mp mem with rfl | mem
      · exact List.nil_subset _
      · exact (subset_of_mem_splitChars mem).trans (List.subset_cons_self d ds)
    · split at mem
      · rename_i p ps pieces
        rcases List.mem_cons.mp mem with rfl | mem
        · exact List.cons_subset_cons d (subset_of_mem_splitChars (pieces ▸ List.mem_cons_self p ps))
        · exact (subset_of_mem_splitChars (pieces ▸ List.mem_cons_of_mem p mem)).trans
            (List.subset_cons_self d ds)
      · simp_all

/-- Text without the separator, appended, only extends the last piece. -/
theorem splitChars_append_of_not_mem {c : Char} {ys : List Char} (absent : c ∉ ys) :
    ∀ xs : List Char, ∃ init last, splitChars c xs = init ++ [last] ∧
      splitChars c (xs ++ ys) = init ++ [last ++ ys]
  | [] => ⟨[], [], rfl, by simp [splitChars_of_not_mem absent]⟩
  | d :: ds => by
    obtain ⟨init, last, pieces, pieces'⟩ := splitChars_append_of_not_mem absent ds
    by_cases hd : d = c
    · exact ⟨[] :: init, last, by simp [splitChars, hd, pieces], by simp [splitChars, hd, pieces']⟩
    · cases init with
      | nil => exact ⟨[], d :: last, by simp [splitChars, hd, pieces], by simp [splitChars, hd, pieces']⟩
      | cons q qs =>
        exact ⟨(d :: q) :: qs, last, by simp [splitChars, hd, pieces], by simp [splitChars, hd, pieces']⟩

/-- Trailing whitespace changes no listed workspace: it only pads the last name. -/
theorem workspaceNames_append_blank {ys : List Char} (blank : ∀ y ∈ ys, isWhitespace y)
    (xs : List Char) : workspaceNames (xs ++ ys) = workspaceNames xs := by
  have absent : ',' ∉ ys := fun mem => absurd (blank ',' mem) (by decide)
  obtain ⟨init, last, pieces, pieces'⟩ := splitChars_append_of_not_mem absent xs
  simp only [workspaceNames, pieces, pieces', List.map_append, List.map_cons, List.map_nil,
    trim_append_blank blank]

theorem workspaceNames_rdropWhile (xs : List Char) :
    workspaceNames (xs.rdropWhile isWhitespace) = workspaceNames xs := by
  conv_rhs => rw [← rdropWhile_append_rtakeWhile (p := isWhitespace) xs]
  exact (workspaceNames_append_blank (fun _ => List.mem_rtakeWhile_imp) _).symm

/-! ## What one piece adds -/

/-- A blank piece adds no rule. -/
theorem bucketRule_of_blank {piece : List Char} (blank : ∀ x ∈ piece, isWhitespace x) :
    bucketRule piece = none := by
  simp [bucketRule, trim_eq_nil.mpr blank]

/-- A piece's rule reads the same from the untrimmed piece: trimming moves no `:`, and the
bucket and the workspaces are trimmed again after the split. -/
theorem bucketRule_eq_some {piece : List Char} {b : String} {names : List String} :
    bucketRule piece = some (b, names) ↔ ∃ before after,
      splitOnce ':' piece = some (before, after) ∧ trim before = b.data ∧
        names = (workspaceNames after).map String.mk ∧ workspaceNames after ≠ [] := by
  cases split : splitOnce ':' piece with
  | none =>
    have absent : ':' ∉ trim piece := fun mem =>
      splitOnce_eq_none.mp split ((trim_sublist piece).subset mem)
    simp [bucketRule, splitOnce_eq_none.mpr absent]
  | some parts =>
    obtain ⟨before, after⟩ := parts
    obtain ⟨rfl, absent⟩ := eq_append_of_splitOnce split
    have absent' : ':' ∉ before.dropWhile isWhitespace := fun mem =>
      absent ((List.dropWhile_sublist _).subset mem)
    have rule : bucketRule (before ++ ':' :: after) =
        if (workspaceNames after).isEmpty then none
        else some (⟨trim before⟩, (workspaceNames after).map String.mk) := by
      simp [bucketRule, trim_sep (by decide : isWhitespace ':' = false), splitOnce_append _ absent',
        workspaceNames_rdropWhile, trim_dropWhile]
    simp only [rule, Option.some.injEq, Prod.mk.injEq, and_assoc, exists_and_left,
      exists_eq_left']
    cases names' : workspaceNames after with
    | nil => simp
    | cons n ns =>
      simp only [List.isEmpty_cons, Bool.false_eq_true, ↓reduceIte, Option.some.injEq,
        Prod.mk.injEq, String.ext_iff, ne_eq, reduceCtorEq, not_false_eq_true, and_true]
      exact and_congr_right fun _ => eq_comm

theorem ruleFor_iff {s b : String} {names : List String} :
    RuleFor s b names ↔ ∃ piece ∈ splitChars ';' s.data, bucketRule piece = some (b, names) := by
  simp only [RuleFor, bucketRule_eq_some]

/-! ## The parsed map -/

theorem lookup_filter_ne {b k : String} (hb : b ≠ k) :
    ∀ restrictions : Restrictions,
      (restrictions.filter (fun e => e.1 != k)).lookup b = restrictions.lookup b
  | [] => rfl
  | (k', v) :: restrictions => by
    by_cases hk : k' = k
    · subst hk
      simp [List.lookup_cons, beq_false_of_ne hb, lookup_filter_ne hb restrictions]
    · simp [List.lookup_cons, hk, lookup_filter_ne hb restrictions]

@[simp] theorem lookup_insertRestriction (restrictions : Restrictions) (bucket b : String)
    (workspaces : List String) :
    (insertRestriction restrictions bucket workspaces).lookup b =
      if b = bucket then some workspaces else restrictions.lookup b := by
  by_cases hb : b = bucket
  · subst hb
    simp [insertRestriction]
  · simp [insertRestriction, List.lookup_cons, hb, beq_false_of_ne hb, lookup_filter_ne hb]

/-- The loop gives a bucket the workspaces of the last rule for it, and keeps the entry it had
before where no rule names it. -/
theorem lookup_foldl_addRule_eq (b : String) :
    ∀ (pieces : List (List Char)) (restrictions : Restrictions),
      (pieces.foldl addRule restrictions).lookup b =
        ((pieces.filterMap bucketRule).reverse.lookup b).or (restrictions.lookup b)
  | [], _ => rfl
  | piece :: pieces, restrictions => by
    rw [List.foldl_cons, lookup_foldl_addRule_eq b pieces, addRule]
    cases rule : bucketRule piece with
    | none => simp [rule]
    | some entry =>
      obtain ⟨bucket, workspaces⟩ := entry
      simp only [List.filterMap_cons_some rule, List.reverse_cons, List.lookup_append,
        Option.or_assoc, lookup_insertRestriction]
      by_cases hb : b = bucket
      · subst hb
        simp
      · simp [List.lookup_cons, hb, beq_false_of_ne hb]

/-- The loop leaves the map empty exactly when it started empty and no piece is a rule. -/
theorem foldl_addRule_eq_nil :
    ∀ (pieces : List (List Char)) (restrictions : Restrictions),
      pieces.foldl addRule restrictions = [] ↔
        restrictions = [] ∧ pieces.filterMap bucketRule = []
  | [], _ => by simp
  | piece :: pieces, restrictions => by
    rw [List.foldl_cons, foldl_addRule_eq_nil pieces, addRule]
    cases rule : bucketRule piece with
    | none => simp [rule]
    | some entry => simp [List.filterMap_cons_some rule, insertRestriction]

/-- What the parsed restrictions give a bucket is what a rule of the configuration lists. -/
theorem ruleFor_of_lookup {s b : String} {restrictions : Restrictions} {names : List String}
    (parsed : parseBucketRestrictionsFromStr s = some restrictions)
    (found : restrictions.lookup b = some names) : RuleFor s b names := by
  unfold parseBucketRestrictionsFromStr at parsed
  split at parsed
  · cases parsed
  · dsimp only at parsed
    split at parsed
    · cases parsed
    · cases parsed
      rw [lookup_foldl_addRule_eq, List.lookup_nil, Option.or_none] at found
      obtain ⟨_, _, rules, -⟩ := List.lookup_eq_some_iff.mp found
      have listed : (b, names) ∈ (splitChars ';' s.data).filterMap bucketRule :=
        List.mem_reverse.mp (rules ▸ List.mem_append_right _ (List.mem_cons_self _ _))
      exact ruleFor_iff.mpr (List.mem_filterMap.mp listed)

/-- A bucket that a rule of the configuration names has an entry in the parsed restrictions. -/
theorem lookup_of_ruleFor {s b : String} {names : List String} (rule : RuleFor s b names) :
    ∃ restrictions allowed, parseBucketRestrictionsFromStr s = some restrictions ∧
      restrictions.lookup b = some allowed := by
  obtain ⟨piece, mem, rule⟩ := ruleFor_iff.mp rule
  have nonblank : trim s.data ≠ [] := fun blank => by
    rw [bucketRule_of_blank fun x inPiece =>
      trim_eq_nil.mp blank x (subset_of_mem_splitChars mem inPiece)] at rule
    cases rule
  have kept : (((splitChars ';' s.data).foldl addRule []).lookup b).isSome := by
    rw [lookup_foldl_addRule_eq, List.lookup_nil, Option.or_none]
    exact List.lookup_isSome_iff.mpr
      ⟨_, List.mem_reverse.mpr (List.mem_filterMap.mpr ⟨piece, mem, rule⟩), by simp⟩
  obtain ⟨allowed, found⟩ := Option.isSome_iff_exists.mp kept
  have entries : ((splitChars ';' s.data).foldl addRule []).isEmpty = false := by
    cases restrictions : (splitChars ';' s.data).foldl addRule [] with
    | nil => rw [restrictions] at found; cases found
    | cons _ _ => rfl
  exact ⟨_, allowed, by simp [parseBucketRestrictionsFromStr, nonblank, entries], found⟩

example : parseBucketRestrictionsFromStr "no-colon; valid : ws1 ,, ;valid:ws2;;" =
    some [("valid", ["ws2"])] := by
  decide

/-! ## Failing closed -/

/-- The check lets a workspace through exactly when the bucket's entry, if any, lists it. -/
theorem checkBucketWorkspaceRestriction_eq_ok {restrictions : Option Restrictions}
    {b w : String} :
    checkBucketWorkspaceRestriction restrictions b w = .ok () ↔
      ∀ entries ∈ restrictions, ∀ allowed ∈ entries.lookup b, w ∈ allowed := by
  unfold checkBucketWorkspaceRestriction
  rcases restrictions with _ | entries
  · simp
  · cases found : entries.lookup b with
    | none => simp [found]
    | some allowed => by_cases mem : w ∈ allowed <;> simp [found, mem]

/-- Bucket restrictions fail closed: where some rule of the configuration names bucket `b`, the
check lets workspace `w` through only if a rule for `b` lists it; where none does, it lets every
workspace through. -/
theorem bucketRestrictions_fail_closed (s b w : String) :
    ((∃ names, RuleFor s b names) →
      checkBucketWorkspaceRestriction (parseBucketRestrictionsFromStr s) b w = .ok () →
        ∃ names, RuleFor s b names ∧ w ∈ names) ∧
    ((¬∃ names, RuleFor s b names) →
      checkBucketWorkspaceRestriction (parseBucketRestrictionsFromStr s) b w = .ok ()) := by
  refine ⟨fun ⟨_, rule⟩ accepted => ?_, fun unnamed => ?_⟩
  · obtain ⟨restrictions, allowed, parsed, found⟩ := lookup_of_ruleFor rule
    exact ⟨allowed, ruleFor_of_lookup parsed found,
      checkBucketWorkspaceRestriction_eq_ok.mp accepted restrictions parsed allowed found⟩
  · exact checkBucketWorkspaceRestriction_eq_ok.mpr fun _ parsed allowed found =>
      absurd ⟨allowed, ruleFor_of_lookup parsed found⟩ unnamed

/-! ## The last rule wins -/

/-- The parsed restrictions are `None` exactly when no piece of the configuration is a rule;
they give each bucket the workspaces of the last rule for it, and no entry to a bucket that no
rule names. -/
theorem parseBucketRestrictions_last_rule_wins (s b : String) :
    (parseBucketRestrictionsFromStr s = none ↔ (splitChars ';' s.data).filterMap bucketRule = []) ∧
    (parseBucketRestrictionsFromStr s).bind (fun restrictions => restrictions.lookup b) =
      ((splitChars ';' s.data).filterMap bucketRule).reverse.lookup b := by
  have fold := lookup_foldl_addRule_eq b (splitChars ';' s.data) []
  rw [List.lookup_nil, Option.or_none] at fold
  have empty := foldl_addRule_eq_nil (splitChars ';' s.data) []
  rw [eq_self_iff_true, true_and] at empty
  unfold parseBucketRestrictionsFromStr
  split
  · rename_i blank
    have rules : (splitChars ';' s.data).filterMap bucketRule = [] :=
      List.filterMap_eq_nil_iff.mpr fun piece mem => bucketRule_of_blank fun x inPiece =>
        trim_eq_nil.mp (List.isEmpty_iff.mp blank) x (subset_of_mem_splitChars mem inPiece)
    simp [rules]
  · dsimp only
    rw [← fold, ← empty]
    cases (splitChars ';' s.data).foldl addRule [] <;> simp

end Windmill.ObjectStore
