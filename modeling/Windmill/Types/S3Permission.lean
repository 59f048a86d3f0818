import Windmill.Sql.Builder

/-!
# The permissions of an advanced S3 permission rule

An `S3PermissionRule` (`windmill-types/src/s3.rs`) grants an `S3Permission` to the paths a
pattern matches.  `S3Permission` is a `bitflags` set over a `u8` with four flags, `READ`, `WRITE`,
`DELETE` and `LIST`, and its serde form is text: `Serialize` writes the names of the flags set,
in that order, joined by commas; `Deserialize` splits the text at its commas and takes the union
of the flags the pieces name, ignoring a piece it does not know.

The text form loses nothing of the four flags: reading back what was written gives the value
with the bits outside them cleared, and what was read from any text is written as a text that
reads back the same (`serialize_round_trip`).  Pieces are read one by one into a union, so the
text of two lists joined by a comma reads as the union of the two (`deserialize_append_sep`),
and only which pieces occur counts, not their order or repeats
(`deserialize_eq_of_same_pieces`).
-/

namespace Windmill.Types

open Windmill.Sql (join join_append splitChars splitChars_append_sep)

/-- `S3Permission`, the `bitflags` struct over a `u8`. -/
structure S3Permission where
  bits : UInt8
  deriving DecidableEq, Repr

namespace S3Permission

def empty : S3Permission := ⟨0⟩
def read : S3Permission := ⟨0b0001⟩
def write : S3Permission := ⟨0b0010⟩
def delete : S3Permission := ⟨0b0100⟩
def list : S3Permission := ⟨0b1000⟩

/-- `|` and `|=`: the union of two sets of flags. -/
instance : OrOp S3Permission := ⟨fun a b => ⟨a.bits ||| b.bits⟩⟩

/-- `contains`: every flag of `other` is set in `self`. -/
def contains (self other : S3Permission) : Bool := self.bits &&& other.bits == other.bits

/-- `Serialize`: the names of the flags set, in declaration order, joined by commas. -/
def serialize (self : S3Permission) : String :=
  join "," ((if self.contains read then ["read"] else []) ++
    (if self.contains write then ["write"] else []) ++
    (if self.contains delete then ["delete"] else []) ++
    (if self.contains list then ["list"] else []))

/-- The `match` of `visit_str` on one piece: the flag it names, none for another text. -/
def ofValue : String → S3Permission
  | "read" => read
  | "write" => write
  | "delete" => delete
  | "list" => list
  | _ => empty

/-- `visit_str` of `Deserialize`: the union of the flags the comma-separated pieces name. -/
def deserialize (v : String) : S3Permission :=
  (splitChars ',' v.data).foldl (fun perms value => perms ||| ofValue ⟨value⟩) empty

/-! ## The union -/

@[simp] theorem toBitVec_or (a b : S3Permission) :
    (a ||| b).bits.toBitVec = a.bits.toBitVec ||| b.bits.toBitVec := rfl

theorem contains_eq (self other : S3Permission) :
    self.contains other =
      (self.bits.toBitVec &&& other.bits.toBitVec == other.bits.toBitVec) := by
  rw [contains, Bool.eq_iff_iff, beq_iff_eq, beq_iff_eq]
  exact ⟨congrArg UInt8.toBitVec, UInt8.eq_of_toBitVec_eq⟩

theorem ext {a b : S3Permission} (bits : a.bits.toBitVec = b.bits.toBitVec) : a = b := by
  obtain ⟨⟨_⟩⟩ := a
  obtain ⟨⟨_⟩⟩ := b
  cases bits
  rfl

theorem or_assoc (a b c : S3Permission) : a ||| b ||| c = a ||| (b ||| c) :=
  ext (BitVec.or_assoc _ _ _)

@[simp] theorem empty_or (a : S3Permission) : empty ||| a = a := ext BitVec.zero_or

@[simp] theorem or_empty (a : S3Permission) : a ||| empty = a := ext BitVec.or_zero

/-- Reading pieces from a set of flags already read is adding their union to it. -/
theorem foldl_ofValue (perms : S3Permission) (values : List (List Char)) :
    values.foldl (fun perms value => perms ||| ofValue ⟨value⟩) perms =
      perms ||| values.foldl (fun perms value => perms ||| ofValue ⟨value⟩) empty := by
  induction values generalizing perms with
  | nil => simp
  | cons value values ih => rw [List.foldl_cons, List.foldl_cons, ih, ih (empty ||| _), empty_or,
      or_assoc]

/-- The text of two lists of pieces joined by a comma reads as the union of the two. -/
theorem deserialize_append_sep (s t : String) :
    deserialize (s ++ "," ++ t) = deserialize s ||| deserialize t := by
  simp only [deserialize, String.data_append, List.append_assoc]
  rw [show (",".data ++ t.data) = ',' :: t.data from rfl, splitChars_append_sep, List.foldl_append,
    foldl_ofValue]

/-! ## Reading back what was written -/

@[simp] theorem deserialize_empty : deserialize "" = empty := rfl

/-- The text of the names of two lists, read back: the union of each read back. -/
theorem deserialize_join_append (l l' : List String) :
    deserialize (join "," (l ++ l')) = deserialize (join "," l) ||| deserialize (join "," l') := by
  cases l with
  | nil => simp [join]
  | cons a l =>
    cases l' with
    | nil => simp [join]
    | cons b l' =>
      rw [join_append "," (List.cons_ne_nil b l') (List.cons_ne_nil a l), deserialize_append_sep]

/-- A flag's part of the written text, read back. -/
theorem deserialize_flag (c : Bool) {name : String} {flag : S3Permission}
    (named : deserialize name = flag) :
    deserialize (join "," (if c then [name] else [])) = if c then flag else empty := by
  cases c
  · rfl
  · exact named

/-- The `if` of a one-bit flag keeps that bit of the set. -/
theorem ite_beq_twoPow (b : BitVec 8) (k : Nat) :
    (if (b &&& BitVec.twoPow 8 k == BitVec.twoPow 8 k) = true then BitVec.twoPow 8 k else 0#8) =
      b &&& BitVec.twoPow 8 k := by
  rw [BitVec.and_twoPow]
  split <;> simp_all

/-- The four flags' bits make up the mask of all flags. -/
theorem or_and_twoPow (b : BitVec 8) :
    b &&& BitVec.twoPow 8 0 ||| b &&& BitVec.twoPow 8 1 ||| b &&& BitVec.twoPow 8 2 |||
      b &&& BitVec.twoPow 8 3 = b &&& 15#8 := by
  apply BitVec.eq_of_toNat_eq
  simp only [BitVec.toNat_or, BitVec.toNat_and, ← Nat.and_or_distrib_left, BitVec.toNat_twoPow]
  rfl

/-- A one-bit flag, kept when the set contains it: that bit of the set. -/
theorem ite_contains (p : S3Permission) {flag : S3Permission} {k : Nat}
    (bit : flag.bits.toBitVec = BitVec.twoPow 8 k) :
    (if p.contains flag then flag else empty).bits.toBitVec = p.bits.toBitVec &&& BitVec.twoPow 8 k := by
  rw [contains_eq, apply_ite (fun p : S3Permission => p.bits.toBitVec), bit]
  exact ite_beq_twoPow _ k

/-- Reading back what `Serialize` writes gives the set with the bits outside the four flags
cleared; a set of flags reads back as itself. -/
theorem deserialize_serialize (p : S3Permission) : deserialize (serialize p) = ⟨p.bits &&& 15⟩ := by
  rw [serialize, deserialize_join_append, deserialize_join_append, deserialize_join_append,
    @deserialize_flag _ "read" read rfl, @deserialize_flag _ "write" write rfl,
    @deserialize_flag _ "delete" delete rfl, @deserialize_flag _ "list" list rfl]
  apply ext
  rw [toBitVec_or, toBitVec_or, toBitVec_or, ite_contains p (rfl : _ = BitVec.twoPow 8 0),
    ite_contains p (rfl : _ = BitVec.twoPow 8 1), ite_contains p (rfl : _ = BitVec.twoPow 8 2),
    ite_contains p (rfl : _ = BitVec.twoPow 8 3), or_and_twoPow]
  rfl

/-! ## Reading depends only on the pieces -/

theorem getLsbD_foldl (i : Nat) (values : List (List Char)) : ∀ perms : S3Permission,
    (values.foldl (fun perms value => perms ||| ofValue ⟨value⟩) perms).bits.toBitVec.getLsbD i =
      (perms.bits.toBitVec.getLsbD i ||
        values.any fun v => (ofValue ⟨v⟩).bits.toBitVec.getLsbD i) := by
  induction values with
  | nil => simp
  | cons v vs ih => intro perms; simp [ih, Bool.or_assoc]

/-- A bit is set in what is read exactly when some piece names a flag with that bit. -/
theorem getLsbD_deserialize (s : String) (i : Nat) :
    (deserialize s).bits.toBitVec.getLsbD i =
      (splitChars ',' s.data).any fun v => (ofValue ⟨v⟩).bits.toBitVec.getLsbD i := by
  rw [deserialize, getLsbD_foldl]
  simp [empty]

/-- Two texts with the same pieces read the same: the order of the pieces and their repeats do
not count. -/
theorem deserialize_eq_of_same_pieces {s t : String}
    (pieces : ∀ v, v ∈ splitChars ',' s.data ↔ v ∈ splitChars ',' t.data) :
    deserialize s = deserialize t := by
  apply ext
  ext i
  rw [getLsbD_deserialize, getLsbD_deserialize, Bool.eq_iff_iff]
  simp only [List.any_eq_true]
  exact exists_congr fun v => and_congr_left fun _ => pieces v

theorem deserialize_eq_of_same_pieces_repeated :
    deserialize "read,list" = deserialize "list,read,read" :=
  deserialize_eq_of_same_pieces fun v => by
    rw [show splitChars ',' "read,list".data = ["read".data, "list".data] from rfl,
      show splitChars ',' "list,read,read".data = ["list".data, "read".data, "read".data] from rfl]
    simp only [List.mem_cons, List.mem_singleton, List.not_mem_nil, or_false]
    tauto

/-! ## Reading what was read, written -/

theorem ofValue_known (v : String) :
    (ofValue v).bits.toBitVec &&& 15#8 = (ofValue v).bits.toBitVec := by
  unfold ofValue
  split <;> decide

/-- What is read holds no bit outside the four flags. -/
theorem deserialize_known (s : String) :
    (deserialize s).bits.toBitVec &&& 15#8 = (deserialize s).bits.toBitVec := by
  ext i
  rw [BitVec.getLsbD_and, getLsbD_deserialize]
  cases outside : (15#8).getLsbD i
  · simp only [Bool.and_false, Bool.false_eq, List.any_eq_false]
    intro v _ bit
    have := congrArg (·.getLsbD i) (ofValue_known ⟨v⟩)
    simp [BitVec.getLsbD_and, outside, bit] at this
  · rw [Bool.and_true]

/-- The text form round-trips: a set written and read back keeps its four flags and loses only
bits outside them, and a set read from any text is written as a text that reads back as the same
set. -/
theorem serialize_round_trip (p : S3Permission) (s : String) :
    deserialize (serialize p) = ⟨p.bits &&& 15⟩ ∧
      deserialize (serialize (deserialize s)) = deserialize s :=
  ⟨deserialize_serialize p, by rw [deserialize_serialize]; exact ext (deserialize_known s)⟩

end S3Permission

end Windmill.Types
