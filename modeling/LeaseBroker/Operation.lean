/-!
# Operations

What a host may ask of a path.
-/

namespace LeaseBroker

inductive Operation where
  | read
  | update
  | delete
  | list
  deriving DecidableEq, Repr

namespace Operation

def text : Operation → String
  | read => "read"
  | update => "update"
  | delete => "delete"
  | list => "list"

def all : List Operation := [read, update, delete, list]

def ofText? (s : String) : Option Operation := all.find? (·.text == s)

end Operation

end LeaseBroker
