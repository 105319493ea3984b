import Cuddl.Foundation.TextFields
import Cuddl.Kernel.Lookup
import Cuddl.Kernel.Register

/-!
# The class `ResourceID`

`ResourceID` wraps a `cuddl_resource_id`.  Its `full_name` is written and read as a text with four
fields, `group/device/resource/instance`.
-/

namespace Cuddl
namespace User

open Foundation.CString Foundation.TextFields

/-- `'/'` -/
def slash : UInt8 := 47

/-- `"*"` -/
def star : List UInt8 := [42]

/-- `strncpy(dst, s, n)` -/
def strncpy (dst s : List UInt8) (n : Nat) : List UInt8 :=
  text n s ++ List.replicate (n - (text n s).length) 0 ++ dst.drop n

/-- `std::stoi`; `none` is an exception. -/
def stoi (s : List UInt8) : Option Int :=
  (parseInt s).filter fun n => -2147483648 ≤ n && n ≤ 2147483647

namespace ResourceID

/-- `memset(&id, 0, sizeof(id))` -/
def zeroed : ResourceId :=
  { group := List.replicate maxStrLen 0
    device := List.replicate maxStrLen 0
    resource := List.replicate maxStrLen 0
    instanceId := 0 }

section Setters

variable (id : ResourceId)

def setGroup (s : List UInt8) : ResourceId :=
  { id with group := strncpy id.group s (maxStrLen - 1) }

def setDevice (s : List UInt8) : ResourceId :=
  { id with device := strncpy id.device s (maxStrLen - 1) }

def setResource (s : List UInt8) : ResourceId :=
  { id with resource := strncpy id.resource s (maxStrLen - 1) }

def setInstance (i : Int) : ResourceId :=
  { id with instanceId := i }

/-- The C string in a buffer, or `"*"` for an empty one. -/
def orStar (buffer : List UInt8) : List UInt8 :=
  if text maxStrLen buffer = [] then star else text maxStrLen buffer

/-- `ResourceID::full_name() const` -/
def fullName : List UInt8 :=
  orStar id.group ++ slash :: (orStar id.device ++ slash :: (orStar id.resource ++ slash ::
    if id.instanceId ≠ 0 then decimal id.instanceId else star))

end Setters

/-- The last field: `stoi` throws when it finds no number, or one that is no `int`. -/
def setInstanceStr (id : ResourceId) (instanceStr : List UInt8) : ResourceId :=
  if 0 < instanceStr.length then setInstance id ((stoi instanceStr).getD (-1)) else id

/-- `ResourceID::full_name(const std::string &)`, which is also a constructor. -/
def ofFullName (name : List UInt8) : ResourceId :=
  match cut slash name with
  | (device, none) => setDevice zeroed device
  | (group, some rest) =>
      let id := setGroup zeroed group
      match cut slash rest with
      | (device, none) => setDevice id device
      | (device, some rest) =>
          let id := setDevice id device
          match cut slash rest with
          | (resource, none) => setResource id resource
          | (resource, some instanceStr) =>
              setInstanceStr (setResource id resource) instanceStr

end ResourceID

end User
end Cuddl
