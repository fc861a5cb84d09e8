import LeaseBroker.Template

/-!
# Built-in statements

The statements that the broker runs on its own account, and those that a role
uses when it brings none. Slots stand outside any quotes, because a fragment
carries its own.
-/

namespace LeaseBroker.Statements
open Template (slot)

/-- Runs on the root connection to the maintenance database. -/
def createDatabase : String := "create database " ++ slot "database"

/-- The owner of a database's objects, of which the management and root roles are members. -/
def createObjectsOwner : String :=
  "create role " ++ slot "role_name" ++ " role " ++ slot "role_group_management" ++ ", " ++ slot "role_group_root"

def grantAllToOwner : String := "grant all privileges on all tables in schema public to " ++ slot "role_name"

def updatePassword : String := "alter user " ++ slot "user" ++ " with password " ++ slot "password"

def createManagementRole : String :=
  "create role " ++ slot "user" ++ " with login password " ++ slot "password" ++ " createrole nocreatedb noinherit"

def renewExpiry : String := "alter role " ++ slot "user" ++ " valid until " ++ slot "expiration"

/-- Creates a login for a lease. -/
def creation : List String :=
  ["create role " ++ slot "user" ++ " with login password " ++ slot "password" ++ " inherit in role " ++
      slot "objects_owner" ++ " valid until " ++ slot "expiration" ++ " role " ++ slot "group",
    "alter default privileges for role " ++ slot "user" ++ " grant all privileges on tables to " ++
      slot "objects_owner",
    "alter default privileges for role " ++ slot "user" ++ " grant all privileges on sequences to " ++
      slot "objects_owner"]

/-- Removes the login of a lease; what it owns passes to the owner role. -/
def revocation : List String :=
  ["set role " ++ slot "user",
    "reassign owned by " ++ slot "user" ++ " to " ++ slot "objects_owner",
    "drop owned by " ++ slot "user",
    "reset role",
    "revoke " ++ slot "objects_owner" ++ " from " ++ slot "user",
    "revoke connect on database " ++ slot "database" ++ " from " ++ slot "user",
    "drop role if exists " ++ slot "user"]

/-- The name of the point to which a failed revocation statement is undone. -/
def revokeSavepoint : String := "pgfleet_revoke"

def savepoint : String := "savepoint " ++ revokeSavepoint

def releaseSavepoint : String := "release savepoint " ++ revokeSavepoint

def rollbackToSavepoint : String := "rollback to savepoint " ++ revokeSavepoint

end LeaseBroker.Statements
