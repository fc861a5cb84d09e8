import LeaseBroker.Fleet
import LeaseBroker.RoleRecord
import LeaseBroker.Settings

/-!
# Keeping roles

Roles are written, read and deleted under their names. A limit that a caller
leaves out is that of the system. Deleting a role leaves what was issued from it
revocable.
-/

namespace LeaseBroker

def loadRole (name : String) : Op (Option RoleRecord) := loadRecord RoleRecord.decode (StoreKeys.role name)

namespace RoleTemplates

def writeRole (limits : LeaseLimits) (name : String) (request : RoleRequest) : Op RoleRecord := do
  Op.ofRefusal (checkName "role" name)
  let defaultTtl := request.defaultTtl.getD limits.defaultTtl
  let maxTtl := request.maxTtl.getD limits.maxTtl
  if !maxTtl.isZero && maxTtl < defaultTtl then Op.refuse .termAboveMax
  let role : RoleRecord := {
    defaultTtl := defaultTtl.secs
    maxTtl := maxTtl.secs
    creation := request.creation
    revocation := request.revocation }
  Op.ofStore (Program.put (StoreKeys.role name) role.encode)
  return role

def readRole (name : String) : Op RoleRecord := do
  let some role ← loadRole name | Op.refuse (.roleMissing name)
  return role

def deleteRole (name : String) : Op Unit := Op.ofStore (Program.delete (StoreKeys.role name))

def listRoles : Op (List String) := do
  return StoreKeys.leaves (← Op.ofStore (Program.list StoreKeys.roles))

end RoleTemplates

end LeaseBroker
