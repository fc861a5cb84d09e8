import LeaseBroker.Failures
import LeaseBroker.StoreKeys
import LeaseBroker.Table

/-!
# A store in memory

Texts under keys. A key is not empty and does not end with a slash. Listing a
key gives what follows it in other keys, up to and with the first slash, each
once and in ascending order. A store may be out of reach, and then every call
fails.
-/

namespace LeaseBroker

structure MemoryStore where
  values : Table String
  unavailable : Bool

namespace MemoryStore

def empty : MemoryStore := ⟨Table.empty, false⟩

instance : Inhabited MemoryStore := ⟨empty⟩

/-- Up to and with the first slash. -/
def upToSlash : List Char → List Char
  | [] => []
  | c :: cs => if c = '/' then [c] else c :: upToSlash cs

/-- The child of `above` through which `key` is reached. -/
def child? (above key : String) : Option String :=
  (Search.after? above.toList key.toList).map fun rest => String.ofList (upToSlash rest)

/-- The children on the way to the keys of a list, up to the first key that is not below `above`. -/
def childrenFrom (above : String) : List String → List String
  | [] => []
  | key :: keys =>
    match child? above key with
    | some c => c :: childrenFrom above keys
    | none => []

/-- The children of `above`, in ascending order. Keys below it stand together, at or after it. -/
def children (values : Table String) (above : String) : List String :=
  let found := childrenFrom above (values.keys.dropWhile (· < above))
  (Table.ofList (found.map fun c => (c, ()))).keys

def validKey (key : String) : Bool := !key.isEmpty && !StoreKeys.isSubtree key

def checked {α : Type} (s : MemoryStore) (a : Except StoreError α) : Except StoreError α :=
  if s.unavailable then .error (.backend "memory store is unavailable") else a

def get (s : MemoryStore) (key : String) : Except StoreError (Option String) := s.checked (.ok (s.values.get? key))

def list (s : MemoryStore) (above : String) : Except StoreError (List String) :=
  s.checked (.ok (children s.values above))

def put (s : MemoryStore) (key value : String) : Except StoreError Unit × MemoryStore :=
  match s.checked (if validKey key then .ok () else .error (.invalidKey key)) with
  | .ok () => (.ok (), { s with values := s.values.insert key value })
  | .error e => (.error e, s)

def delete (s : MemoryStore) (key : String) : Except StoreError Unit × MemoryStore :=
  match s.checked (.ok ()) with
  | .ok () => (.ok (), { s with values := s.values.erase key })
  | .error e => (.error e, s)

end MemoryStore

end LeaseBroker
