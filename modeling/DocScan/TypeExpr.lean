import DocScan.Descriptor.Basic

/-!
# Runtime types

Expressions for the types of a running program: builtin types, parameterised and united ones,
enumerations, declared classes, and things that are no types at all. Each has a descriptor. Eight
builtin types have the canonical name of a primitive; every other one is named by its module and its
qualified name.
-/

namespace DocScan

inductive TypeExpr where
  | builtin (name : Text)
  /-- A builtin type with parameters, which may end in an ellipsis. -/
  | generic (origin : Text) (arguments : List TypeExpr) (ellipsis : Bool)
  /-- An alias of a class under a name of its own, bare or with parameters. -/
  | alias (name : Text) (origin : TypeExpr) (applied : Bool) (arguments : List TypeExpr)
  | union (members : List TypeExpr)
  | enumRoot (name : Text)
  | enumeration (module name : Text)
  /-- A new class with its bases. Besides its qualified name it has the one that it was made under.
  -/
  | declared (module name own : Text) (bases : List TypeExpr)
  | function (module name : Text)
  | value (content : Json.Value)
deriving Inhabited

namespace TypeExpr

/-! ## Unions -/

def absentName : Text := "NoneType".toList

mutual

/-- The two expressions stand for one type. New classes are all different. -/
def same : TypeExpr → TypeExpr → Bool
  | .builtin left, .builtin right => left == right
  | .enumRoot left, .enumRoot right => left == right
  | .generic left leftArguments leftEllipsis, .generic right rightArguments rightEllipsis =>
    left == right && leftEllipsis == rightEllipsis && sameAll leftArguments rightArguments
  | .alias left _ leftApplied leftArguments, .alias right _ rightApplied rightArguments =>
    left == right && leftApplied == rightApplied && sameAll leftArguments rightArguments
  | _, _ => false

def sameAll : List TypeExpr → List TypeExpr → Bool
  | [], [] => true
  | left :: lefts, right :: rights => left.same right && sameAll lefts rights
  | _, _ => false

end

mutual

/-- The members that a type brings into a union: those of a union inside it, else itself. The absent
value stands for its type. -/
def members : TypeExpr → List TypeExpr
  | .union members => membersOfAll members
  | .value .null => [.builtin absentName]
  | type => [type]

def membersOfAll : List TypeExpr → List TypeExpr
  | [] => []
  | type :: rest => type.members ++ membersOfAll rest

end

def distinct (types : List TypeExpr) : List TypeExpr :=
  types.foldl (fun kept type => if kept.any (same · type) then kept else kept ++ [type]) []

def parts (type : TypeExpr) : List TypeExpr := distinct type.members

/-- The type itself, or the only member of a union that has just one. -/
def collapse : TypeExpr → TypeExpr
  | .union [member] => member.collapse
  | .union members =>
    match (union members).parts with
    | [member] => member
    | _ => .union members
  | type => type

def isAlias : TypeExpr → Bool
  | .alias _ _ _ _ => true
  | _ => false

def absent : TypeExpr := .builtin absentName

/-- The union of some types is itself an alias, because one of them is. -/
def isLoose (members : List TypeExpr) : Bool := members.any isAlias

/-- The union of some types, one of which is an alias, adds nothing but the absent value. -/
def isOptional (members : List TypeExpr) : Bool :=
  members.length == 2 && members.any (same · absent)

/-- The type without parameters: the origin of a parameterised type. -/
def origin (type : TypeExpr) : TypeExpr :=
  match type.collapse with
  | .generic origin _ _ => .builtin origin
  | .alias _ origin _ _ => origin
  | type => type

/-! ## Properties of a type -/

mutual

/-- An enumeration is derived from the root of enumerations, at any distance. -/
def isEnumeration : TypeExpr → Bool
  | .enumRoot _ | .enumeration _ _ => true
  | .declared _ _ _ bases => anyEnumeration bases
  | _ => false

/-- There is an enumeration among some bases. A union among them stands for its member. -/
def anyEnumeration : List TypeExpr → Bool
  | [] => false
  | .union members :: rest => anyEnumeration members || anyEnumeration rest
  | base :: rest => base.isEnumeration || anyEnumeration rest

end

def canonicalNames : List (Text × Text) :=
  [("str".toList, "java.lang.String".toList),
   ("bool".toList, "boolean".toList),
   ("int".toList, "long".toList),
   ("float".toList, "double".toList),
   ("bytes".toList, "byte[]".toList),
   ("bytearray".toList, "byte[]".toList),
   ("list".toList, "java.lang.Object[]".toList),
   ("tuple".toList, "java.lang.Object[]".toList)]

def arrayTypes : List Text := ["list".toList, "tuple".toList]

/-- The proper name of a builtin type. Two names stand for another one. -/
def properName (name : Text) : Text :=
  if name = "IOError".toList ∨ name = "EnvironmentError".toList then "OSError".toList else name

def moduleName : TypeExpr → Text
  | .union members =>
    if isLoose (union members).parts then "typing".toList else "types".toList
  | .enumRoot _ => "enum".toList
  | .enumeration module _ | .declared module _ _ _ | .function module _ => module
  | _ => "builtins".toList

/-- The qualified name of a type. What is no type or function has none. -/
def qualifiedName : TypeExpr → Text
  | .builtin name => properName name
  | .enumRoot name => name
  | .generic origin _ _ => origin
  | .alias name _ _ _ => name
  | .union members =>
    if !isLoose (union members).parts then "UnionType".toList
    else if isOptional (union members).parts then "Optional".toList
    else "Union".toList
  | .enumeration _ name | .declared _ name _ _ | .function _ name => name
  | .value _ => []

def fullName (type : TypeExpr) : Text := type.moduleName ++ '.' :: type.qualifiedName

def ownName : TypeExpr → Text
  | .declared _ _ own _ => own
  | type => type.qualifiedName

/-- How a thing without a qualified name shows itself. A class of the builtin module does so by the
name that it was made under. -/
def display : TypeExpr → Text
  | .value content => content.literal
  | .function _ name => "<function ".toList ++ name ++ " at 0x0>".toList
  | type =>
    let shown := if type.moduleName = "builtins".toList then type.ownName else type.fullName
    "<class '".toList ++ shown ++ "'>".toList

/-! ## Descriptors -/

def describeOrigin (type : TypeExpr) : Descriptor :=
  if type.isEnumeration then { name := type.fullName, isEnum := true }
  else
    let canonical := match type with
      | .builtin name => (canonicalNames.lookup name).map (name, ·)
      | _ => none
    match canonical with
    | some (short, name) => { name, isArray := arrayTypes.contains short }
    | none =>
      let shown := if type.qualifiedName = [] then type.display else type.qualifiedName
      { name := type.moduleName ++ '.' :: shown }

def describe (type : TypeExpr) : Descriptor := type.origin.describeOrigin

theorem describe_generic (origin : Text) (arguments : List TypeExpr) (ellipsis : Bool) :
    describe (.generic origin arguments ellipsis) = describe (.builtin origin) := rfl

theorem describe_alias (name : Text) (origin : TypeExpr) (applied : Bool)
    (arguments : List TypeExpr) :
    describe (.alias name origin applied arguments) = origin.describeOrigin := rfl

theorem describe_flags (type : TypeExpr) :
    ¬(type.describe.isArray = true ∧ type.describe.isEnum = true) := by
  unfold describe describeOrigin
  split
  · simp
  · dsimp only
    split <;> simp

end TypeExpr

end DocScan
