import DocScan.TypeExpr

/-!
# Well-formed type expressions

Not every expression stands for a type: only some builtin types take parameters, aliases count
theirs, unions have members that can be united, and a class has bases that go together. The first
fault of an expression, parts before the whole, is why it stands for nothing.
-/

namespace DocScan.TypeExpr

inductive Fault where
  | unparameterised (name : Text)
  | miscounted (name : Text) (given taken : Nat)
  | emptyUnion
  | notUnited (left right : Text)
  | final (name : Text)
  /-- The bases are laid out in different ways. -/
  | conflict
  | repeatedBase (name : Text)
  | unordered (names : List Text)
deriving DecidableEq, Repr

def Fault.message : Fault → Text
  | .unparameterised name => "type '".toList ++ name ++ "' is not subscriptable".toList
  | .miscounted name given taken =>
    (if given < taken then "Too few" else "Too many").toList ++
      " arguments for typing.".toList ++ name ++ "; actual ".toList ++ Text.ofNat given ++
      ", expected ".toList ++ Text.ofNat taken
  | .emptyUnion => "reduce() of empty iterable with no initial value".toList
  | .notUnited left right =>
    "unsupported operand type(s) for |: '".toList ++ left ++ "' and '".toList ++ right ++ ['\'']
  | .final name => "type '".toList ++ name ++ "' is not an acceptable base type".toList
  | .conflict => "multiple bases have instance lay-out conflict".toList
  | .repeatedBase name => "duplicate base class ".toList ++ name
  | .unordered names =>
    "Cannot create a consistent method resolution\norder (MRO) for bases ".toList ++
      Text.join [',', ' '] names

/-! ## Parameters -/

def parameterised : List Text :=
  ["list".toList, "tuple".toList, "dict".toList, "set".toList, "frozenset".toList,
   "type".toList, "enumerate".toList, "BaseExceptionGroup".toList, "ExceptionGroup".toList]

def variadic : List Text := ["Tuple".toList, "Callable".toList]

def ofTwo : List Text :=
  ["Dict".toList, "DefaultDict".toList, "OrderedDict".toList, "ChainMap".toList, "Mapping".toList,
   "MutableMapping".toList, "ItemsView".toList, "AsyncGenerator".toList]

def ofThree : List Text := ["Generator".toList, "Coroutine".toList]

def parameterCount? (name : Text) : Option Nat :=
  if variadic.contains name then none
  else if ofTwo.contains name then some 2
  else if ofThree.contains name then some 3
  else some 1

/-! ## Members of unions -/

/-- The name of the type of a thing that is to be united with another one. -/
def kindName (type : TypeExpr) : Text :=
  match type.collapse with
  | .generic _ _ _ => "types.GenericAlias".toList
  | .union _ => "types.UnionType".toList
  | .function _ _ => "function".toList
  | .value content => content.typeName
  | other => if other.isEnumeration then "EnumType".toList else "type".toList

def joinsAnything (type : TypeExpr) : Bool := isLoose type.parts

def isAbsentValue (type : TypeExpr) : Bool :=
  match type.collapse with
  | .value .null => true
  | _ => false

def isMember (type : TypeExpr) : Bool :=
  match type.collapse with
  | .function _ _ => false
  | .value content => isAbsentValue (.value content)
  | _ => true

def areUnited (left right : TypeExpr) : Bool :=
  left.joinsAnything || right.joinsAnything ||
    (left.isMember && right.isMember && !(left.isAbsentValue && right.isAbsentValue))

/-- Why a thing cannot be united with some others, one after the other. -/
def unionFault? (left : TypeExpr) : List TypeExpr → Option Fault
  | [] => none
  | right :: rest =>
    if areUnited left right then unionFault? (.union [left, right]) rest
    else some (.notUnited left.kindName right.kindName)

/-! ## Bases of classes -/

def finalTypes : List Text :=
  ["bool".toList, absentName, "range".toList, "slice".toList, "memoryview".toList]

def laidOut : List Text :=
  ["int".toList, "float".toList, "complex".toList, "str".toList, "bytes".toList,
   "bytearray".toList, "list".toList, "tuple".toList, "dict".toList, "set".toList,
   "frozenset".toList, "type".toList, "property".toList]

/-- The endings of the names of exceptions, which share a layout. -/
def exceptionEndings : List Text := ["Exception".toList, "Error".toList, "Warning".toList]

def builtinLayout? (name : Text) : Option Text :=
  if laidOut.contains name then some name
  else if exceptionEndings.any (·.isSuffixOf name) then some "BaseException".toList
  else none

/-- The roots of enumerations that are whole numbers. -/
def wholeRoots : List Text := ["IntEnum".toList, "IntFlag".toList]

mutual

def layout? : TypeExpr → Option Text
  | .builtin name => builtinLayout? name
  | .enumRoot name => if wholeRoots.contains name then some "int".toList else none
  | .declared _ _ _ bases => layoutOfAll? bases
  | _ => none

def layoutOfAll? : List TypeExpr → Option Text
  | [] => none
  | .union members :: rest => (layoutOfAll? members).or (layoutOfAll? rest)
  | base :: rest => (layout? base).or (layoutOfAll? rest)

end

/-- Why a class cannot have one base beside others with some layout. -/
def baseFault? (layout : Option Text) (base : TypeExpr) : Option Fault :=
  match finalTypes.find? fun name => base.same (.builtin name) with
  | some name => some (.final name)
  | none =>
    if layout.isSome ∧ base.layout?.isSome ∧ layout ≠ base.layout? then some .conflict else none

/-- Why a class cannot have some bases because of one of them. -/
def eachBaseFault? (layout : Option Text) : List TypeExpr → Option Fault
  | [] => none
  | base :: rest =>
    (baseFault? layout base).or (eachBaseFault? (layout.or base.layout?) rest)

def repeatedBase? : List TypeExpr → Option Fault
  | [] => none
  | base :: rest =>
    if rest.any (same base) then some (.repeatedBase base.qualifiedName) else repeatedBase? rest

def rootName : Text := "object".toList

/-- The root of all types has to come last. -/
def orderFault? (bases : List TypeExpr) : Option Fault :=
  if bases.dropLast.any (same · (.builtin rootName)) then
    some (.unordered (bases.map qualifiedName))
  else none

def basesFault? (bases : List TypeExpr) : Option Fault :=
  (eachBaseFault? none bases).or ((repeatedBase? bases).or (orderFault? bases))

/-! ## Expressions -/

mutual

def fault? : TypeExpr → Option Fault
  | .generic origin arguments _ =>
    (faultOfAll? arguments).or
      (if parameterised.contains origin then none else some (.unparameterised origin))
  | .alias name _ applied arguments =>
    (faultOfAll? arguments).or <|
      match parameterCount? name with
      | some taken =>
        if applied ∧ arguments.length ≠ taken then
          some (.miscounted name arguments.length taken)
        else none
      | none => none
  | .union members =>
    (faultOfAll? members).or <|
      match members with
      | [] => some .emptyUnion
      | first :: rest => unionFault? first rest
  | .declared _ _ _ bases => (faultOfAll? bases).or (basesFault? (bases.map collapse))
  | _ => none

def faultOfAll? : List TypeExpr → Option Fault
  | [] => none
  | type :: rest => (fault? type).or (faultOfAll? rest)

end

def describe? (type : TypeExpr) : Except Fault Descriptor :=
  match type.fault? with
  | some fault => .error fault
  | none => .ok type.describe

end DocScan.TypeExpr
