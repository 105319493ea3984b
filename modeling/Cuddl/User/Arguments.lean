import Cuddl.User.Claims
import Cuddl.User.ResourceID

/-!
# Claims by name

`cuddl_memregion_claim` and `cuddl_eventsrc_claim` take the three names as arguments and fill the
id of their request from them.  The request is a local variable, so its buffers hold whatever was
on the stack before.
-/

namespace Cuddl
namespace User

open Foundation.CString

/-- A C string of the caller. -/
structure UStr where
  chars : List UInt8
  nonzero : ∀ c ∈ chars, c ≠ 0

/-- The names and the instance of a claim; `none` is `NULL`. -/
structure ClaimArgs where
  group : Option UStr
  device : Option UStr
  resource : Option UStr
  instanceId : Int

/-- An id with whatever was in its place before: three buffers of the right length. -/
structure StackId extends ResourceId where
  length_group : group.length = maxStrLen
  length_device : device.length = maxStrLen
  length_resource : resource.length = maxStrLen

def populateField (field : List UInt8) : Option UStr → List UInt8
  | some s => strncpy field s.chars (maxStrLen - 1)
  | none => field.set 0 0

/-- `populate_id_from_args` -/
def populateIdFromArgs (id : ResourceId) (args : ClaimArgs) : ResourceId :=
  { group := populateField id.group args.group
    device := populateField id.device args.device
    resource := populateField id.resource args.resource
    instanceId := args.instanceId }

/-- `cuddl_memregion_claim` with its arguments, on a stack that holds `stack`. -/
def memregionClaimByName (cfg : Config) (rt : Bool) (pid : Pid) (stack : StackId)
    (args : ClaimArgs) (options : BitVec 32) (io : IoFaults) (sys : SysFaults) (s : KernelState) :
    Option CallResult :=
  memregionClaim cfg rt pid (populateIdFromArgs stack.toResourceId args) options io sys s

/-- `cuddl_eventsrc_claim` with its arguments. -/
def eventsrcClaimByName (cfg : Config) (rt : Bool) (pid : Pid) (stack : StackId)
    (args : ClaimArgs) (options : BitVec 32) (io : IoFaults) (sys : SysFaults) (s : KernelState) :
    Option CallResult :=
  eventsrcClaim cfg rt pid (populateIdFromArgs stack.toResourceId args) options io sys s

/-! ## What the kernel sees in a field -/

/-- The characters of an argument; `NULL` and the empty string ask for nothing. -/
def argChars (arg : Option UStr) : List UInt8 :=
  (arg.map UStr.chars).getD []

theorem text_populateField {field : List UInt8} (hlen : field.length = maxStrLen)
    (arg : Option UStr) :
    text maxStrLen (populateField field arg) =
      copied (maxStrLen - 1) (argChars arg) (field.getD (maxStrLen - 1) 0) := by
  cases arg with
  | none =>
      cases field with
      | nil => simp [maxStrLen] at hlen
      | cons c cs =>
          rw [copied_of_short (by simp [argChars, maxStrLen])]
          simp [populateField, argChars, text, maxStrLen]
  | some a =>
      have hlt : maxStrLen - 1 < field.length := by simp [hlen, maxStrLen]
      have hle : field.length ≤ maxStrLen - 1 + 1 := by simp [hlen, maxStrLen]
      -- the copy leaves the last byte alone
      have hlast : field.drop (maxStrLen - 1) = [field.getD (maxStrLen - 1) 0] := by
        rw [List.drop_eq_getElem_cons hlt, List.drop_of_length_le hle, ← List.getElem_eq_getD]
      rw [populateField, strncpy, text_eq_take a.nonzero, hlast]
      exact text_padded a.nonzero _

end User
end Cuddl
