import Cuddl.Foundation.Packing
import Cuddl.User.Queries

/-!
# Versions

The macros that take a version code apart, and `cuddl::Version`, which holds a code and compares
codes.
-/

namespace Cuddl

open Foundation

/-- `CUDDLCI_MINOR_VERSION_FROM_CODE` -/
def minorVersionFromCode (code : Int32) : Int32 :=
  (code &&& 0xffff) >>> 8

/-- `CUDDLCI_REVISION_LEVEL_FROM_CODE` -/
def revisionLevelFromCode (code : Int32) : Int32 :=
  code &&& 0xff

/-- `_version_code_is_compat` of a kernel part that was built as `kernelCode`. -/
def versionCodesAreCompat (kernelCode userCode : Int32) : Bool :=
  let user := majorVersionFromCode userCode
  let kernel := majorVersionFromCode kernelCode
  user == kernel || (user == 0 && kernel == 1) || (user == 1 && kernel == 0)

theorem versionCodeIsCompat_eq : versionCodeIsCompat = versionCodesAreCompat kernelVersionCode :=
  rfl

namespace User

/-- `class Version` -/
structure Version where
  code : Int32

/-- The constructor from a major version, a minor version and a revision. -/
def Version.of (maj min rev : Int32) : Version :=
  { code := versionCode maj min rev }

def Version.major (v : Version) : Int32 :=
  majorVersionFromCode v.code

def Version.minor (v : Version) : Int32 :=
  minorVersionFromCode v.code

def Version.revision (v : Version) : Int32 :=
  revisionLevelFromCode v.code

/-- The comparison operators of C++. -/
inductive Operator
  | eq
  | ne
  | lt
  | gt
  | le
  | ge

/-- What an operator says of two elements of an ordered type. -/
def Operator.Relates {α : Type*} [LT α] [LE α] : Operator → α → α → Prop
  | .eq, l, r => l = r
  | .ne, l, r => l ≠ r
  | .lt, l, r => l < r
  | .gt, l, r => r < l
  | .le, l, r => l ≤ r
  | .ge, l, r => r ≤ l

/-- The operators on versions, which are those of `int` on their codes. -/
def Version.compare (op : Operator) (l r : Version) : Bool :=
  match op with
  | .eq => l.code == r.code
  | .ne => l.code != r.code
  | .lt => decide (l.code < r.code)
  | .gt => decide (l.code > r.code)
  | .le => decide (l.code ≤ r.code)
  | .ge => decide (l.code ≥ r.code)

/-- A version that a code can hold. -/
structure VersionNumber where
  major : Int32
  minor : Int32
  revision : Int32
  major_range : 0 ≤ major ∧ major ≤ 32767
  minor_range : 0 ≤ minor ∧ minor ≤ 255
  revision_range : 0 ≤ revision ∧ revision ≤ 255

def VersionNumber.toVersion (v : VersionNumber) : Version :=
  .of v.major v.minor v.revision

/-- Versions are ordered by their major version, then the minor one, then the revision. -/
def VersionNumber.lex (v : VersionNumber) : Int ×ₗ Int ×ₗ Int :=
  toLex (v.major.toInt, toLex (v.minor.toInt, v.revision.toInt))

end User
end Cuddl
