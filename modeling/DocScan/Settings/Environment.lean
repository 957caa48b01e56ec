import DocScan.Text.Named

/-!
# The environment

The variables of a process in the order in which they were first set. Not every name can be set, and
not to every value.
-/

namespace DocScan

abbrev Environment := List (Text × Text)

namespace Environment

def get? (environment : Environment) (name : Text) : Option Text := environment.lookup name

/-- A variable set to a value. One that is set already keeps its place. -/
def set (environment : Environment) (name value : Text) : Environment :=
  Named.put name value environment

inductive Fault where
  | terminator
  | equalsSign
  | nameless
deriving DecidableEq, Repr

def Fault.message : Fault → Text
  | .terminator => "embedded null byte".toList
  | .equalsSign => "illegal environment variable name".toList
  | .nameless => "[Errno 22] Invalid argument".toList

def fault? (name value : Text) : Option Fault :=
  if '\x00' ∈ name ∨ '\x00' ∈ value then some .terminator
  else if '=' ∈ name then some .equalsSign
  else if name = [] then some .nameless
  else none

def assign (environment : Environment) (name value : Text) : Except Fault Environment :=
  match fault? name value with
  | some fault => .error fault
  | none => .ok (environment.set name value)

def assignAll (environment : Environment) (additions : List (Text × Text)) :
    Except Fault Environment :=
  additions.foldlM (fun environment (name, value) => environment.assign name value) environment

theorem assign_of_settable (environment : Environment) (name value : Text)
    (settable : fault? name value = none) :
    environment.assign name value = .ok (environment.set name value) := by
  simp [assign, settable]

def unset (environment : Environment) (name : Text) : Environment := Named.drop name environment

theorem get?_set_self (environment : Environment) (name value : Text) :
    (environment.set name value).get? name = some value :=
  Named.lookup_put_self name value environment

theorem get?_set_of_ne (environment : Environment) (name asked value : Text)
    (different : asked ≠ name) :
    (environment.set name value).get? asked = environment.get? asked :=
  Named.lookup_put_of_ne name asked value environment different

end Environment

end DocScan
