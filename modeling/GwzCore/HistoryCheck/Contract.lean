import GwzCore.Lib.FiniteMap

/-!
# Object access of one repository

The values that cross the object-reading port: typed object ids, the roots a repository
protects or retains, bounded reads and the ways a read fails.
-/
namespace GwzCore.HistoryCheck

/-- The hash function of a repository's object store. -/
inductive ObjectFormat where
  | sha1
  | sha256
  deriving DecidableEq

/-- Digest length in bytes. -/
def ObjectFormat.digestLen : ObjectFormat → ℕ
  | .sha1 => 20
  | .sha256 => 32

/-- A typed object id: the digest bytes and the format that produced them. -/
structure ObjectId where
  format : ObjectFormat
  bytes : List UInt8
  length_eq : bytes.length = format.digestLen
  deriving DecidableEq

namespace ObjectId

/-- The id as numbers, its format told by its length. -/
def digits (oid : ObjectId) : List ℕ := oid.bytes.map UInt8.toNat

lemma digits_injective : Function.Injective digits := by
  rintro ⟨format, bytes, hlength⟩ ⟨format', bytes', hlength'⟩ h
  have hbytes : bytes = bytes' :=
    List.map_injective_iff.mpr (fun a b hab => UInt8.toNat_inj.mp hab) h
  subst hbytes
  have hformat : format = format' := by
    rw [hlength] at hlength'
    cases format <;> cases format' <;> simp [ObjectFormat.digestLen] at hlength' ⊢
  subst hformat
  rfl

instance : Ord ObjectId := ⟨compareOn digits⟩

instance : Std.TransOrd ObjectId := inferInstanceAs (Std.TransCmp (compareOn digits))

instance : Std.LawfulEqOrd ObjectId where
  eq_of_compare h := digits_injective (Std.LawfulEqOrd.eq_of_compare h)

def hexDigit (n : ℕ) : Char := (Nat.toDigits 16 n).headD '0'

def toHex (oid : ObjectId) : String :=
  String.ofList
    (oid.bytes.flatMap fun byte => [hexDigit (byte.toNat / 16), hexDigit (byte.toNat % 16)])

end ObjectId

/-- A repository of the family. -/
inductive RepoKey where
  | root
  | member (id : String)
  deriving DecidableEq

namespace RepoKey

def display : RepoKey → String
  | .root => "@root"
  | .member id => id

/-- The member's id; the root has none and comes first. -/
def memberId? : RepoKey → Option String
  | .root => none
  | .member id => some id

lemma memberId?_injective : Function.Injective memberId? := by
  rintro (_ | id) (_ | id') h
  · rfl
  · cases h
  · cases h
  · cases h
    rfl

instance : Ord RepoKey := ⟨compareOn memberId?⟩

instance : Std.TransOrd RepoKey := inferInstanceAs (Std.TransCmp (compareOn memberId?))

instance : Std.LawfulEqOrd RepoKey where
  eq_of_compare h := memberId?_injective (Std.LawfulEqOrd.eq_of_compare h)

end RepoKey

inductive UnknownKind where
  | unreadable
  | unsupportedIndexFlag
  | unsupportedLayout
  | unsupportedEvidence
  | limitExceeded
  | unimplemented
  | cancelled
  deriving DecidableEq

/-- Why an observation could not be made. The verifier's reasons concern no one path. -/
structure UnknownReason where
  kind : UnknownKind
  detail : String
  deriving DecidableEq

inductive RootSource where
  | ref (name : String)
  | head
  | reflog (reference : String) (index : ℕ)
  | stash (index : ℕ)
  | annotatedTag (name : String)
  | coordinationRecord (record object : String)
  | other (detail : String)
  deriving DecidableEq

structure ProtectedRoot where
  source : RootSource
  oid : ObjectId
  deriving DecidableEq

structure ProtectedRoots where
  roots : List ProtectedRoot
  /-- Roots the inventory could not establish. -/
  unknown : List UnknownReason
  deriving DecidableEq

structure ReadLimits where
  maxObjectBytes : ℕ
  deriving DecidableEq

inductive ObjectKind where
  | commit
  | tree
  | blob
  | tag
  deriving DecidableEq

structure ObjectRecord where
  oid : ObjectId
  kind : ObjectKind
  size : ℕ
  edges : List ObjectId
  deriving DecidableEq

inductive ReadError where
  | missing (oid : ObjectId)
  | limitExceeded (oid : ObjectId) (size limit : ℕ)
  | corrupt (oid : ObjectId) (detail : String)
  | readFailed (detail : String)
  | unimplemented (operation : String)
  deriving DecidableEq

def ReadError.display : ReadError → String
  | .missing oid => s!"object {oid.toHex} is missing"
  | .limitExceeded oid size limit =>
    s!"object {oid.toHex} ({size} bytes) exceeds the read limit {limit}"
  | .corrupt oid detail => s!"object {oid.toHex} is corrupt: {detail}"
  | .readFailed detail => detail
  | .unimplemented operation => s!"{operation} is not implemented"

/-- Bounded read-only object access to one repository's store. -/
structure ObjectReader where
  retainedRoots : Except ReadError ProtectedRoots
  readObject : ObjectId → ReadLimits → Except ReadError ObjectRecord

end GwzCore.HistoryCheck
