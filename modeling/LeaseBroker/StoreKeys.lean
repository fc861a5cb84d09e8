import LeaseBroker.Search

/-!
# Keys of stored records

Every record lies under a key of its own: clusters and roles under their names,
databases under their cluster, tags under the id of their target. A listing
names the children of a key; a child with descendants has a slash at its end.
-/

namespace LeaseBroker.StoreKeys

def clusters : String := "config/cluster/"

def roles : String := "config/role/"

def tagSets : String := "meta/"

def cluster (name : String) : String := clusters ++ name

/-- Above the databases of a cluster. -/
def databases (cluster : String) : String := clusters ++ cluster ++ "/database/"

def database (cluster name : String) : String := databases cluster ++ name

def role (name : String) : String := roles ++ name

def tagSet (id : String) : String := tagSets ++ id

def isSubtree (entry : String) : Bool := entry.toList.getLast? == some '/'

/-- The entries of a listing that are values and not subtrees. -/
def leaves (entries : List String) : List String := entries.filter fun e => !isSubtree e

end LeaseBroker.StoreKeys
