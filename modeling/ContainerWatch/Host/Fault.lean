/-!
Why a request to a host fails.
-/

namespace ContainerWatch

inductive HostFault
  | notFound (id : String)
  | cancelled
  | io (message : String)
  /-- The runtime, or the connection to it, refused in words of its own. -/
  | refused
deriving DecidableEq, Repr

def HostFault.message? : HostFault → Option String
  | notFound id => some ("container " ++ id ++ " not found")
  | cancelled => some "operation cancelled"
  | io message => some message
  | refused => none

end ContainerWatch
