import FieldGuard.TypeHint.Application

namespace FieldGuard.TypeHint.Meaning

def bareFault (name : String) : Result := .error (.raised .attribute name)

def classFunctions : List String := ["from_bytes", "fromhex", "fromkeys", "maketrans"]

def baseClasses (name : String) : List Meaning :=
  if name = "object" then [] else ((Library.bases.lookup name).getD ["object"]).map .type

def homeOf (name : String) : String :=
  if (splitName name).1 = "" then "builtins" else (splitName name).1

def holders : List (String × List String) :=
  [("typing.io", ["IO", "TextIO", "BinaryIO"]), ("typing.re", ["Pattern", "Match"])]

def hashless : List String := ["bytearray", "dict", "list", "set", "slice"]

def classFeature (name wanted : String) : Result :=
  if ["__name__", "__qualname__"].contains wanted then .ok (.text (shortName name))
  else if wanted = "__module__" then .ok (.text (homeOf name))
  else if wanted = "__class__" then .ok (.type (typeName (.type name)))
  else if wanted = "__bases__" then .ok (.tuple (baseClasses name))
  else if wanted = "__mro__" then .ok (.tuple [.type name, .type "object"])
  else if ((holders.lookup name).getD []).contains wanted then
    .ok ((Library.name? wanted).getD .none)
  else if wanted = "__hash__" && hashless.contains name then .ok .none
  else if Library.hasAttribute name wanted then
    match Library.describedBy? name wanted with
    | Option.some description => .ok (.other description)
    | Option.none =>
      .ok (if classFunctions.contains wanted then .function wanted else .member name wanted)
  else if Library.classAttributes.contains wanted then .ok (.other "method-wrapper")
  else .error (.noAttribute (ownerText (.type name)) wanted)

def ownFeatures : List String :=
  ["__call__", "__dict__", "__getattr__", "__getitem__", "__instancecheck__",
    "__mro_entries__", "__or__", "__ror__", "__slots__", "__subclasscheck__", "_getitem",
    "_inst", "_nparams", "copy_with"]

def formFeature (name wanted : String) : Result :=
  if ["__name__", "__qualname__", "_name"].contains wanted then .ok (.text name)
  else if wanted = "__module__" then .ok (.text "typing")
  else if wanted = "__class__" then .ok (.type (typeName (.form name)))
  else if (ownFeatures ++ Library.commonAttributes).contains wanted then .ok (.other "method")
  else bareFault wanted

def passed (wanted : String) (origin : String → Result) : Result :=
  if (ownFeatures ++ Library.commonAttributes).contains wanted then .ok (.other "method")
  else if isSpecial wanted then bareFault wanted
  else origin wanted

def genericFeature (name wanted : String) : Result :=
  if ["__name__", "__qualname__", "_name"].contains wanted then .ok (.text name)
  else if wanted = "__module__" then .ok (.text "typing")
  else if wanted = "__origin__" then .ok (.type (Library.origin name))
  else if wanted = "__class__" then .ok (.type (typeName (.generic name)))
  else passed wanted (classFeature (Library.origin name))

def headMeaning : Head → Meaning
  | .native origin _ => .type origin
  | .generic name => .type (Library.origin name)
  | .form name => .form name
  | .library name => .type name

def headName : Head → String
  | .native origin _ => shortName origin
  | .generic name | .form name => name
  | .library name => shortName name

def appliedFeature (head : Head) (args : List Meaning) (wanted : String) : Result :=
  if wanted = "__origin__" then .ok (headMeaning head)
  else if wanted = "__args__" then .ok (.tuple args)
  else if wanted = "__parameters__" then .ok (.tuple (distinct (typeVariablesOfAll args)))
  else if wanted = "__class__" then .ok (.type (typeName (.applied head args)))
  else match head with
    | .native origin expanded =>
      if wanted = "__unpacked__" then .ok (.bool expanded) else classFeature origin wanted
    | head =>
      if ["__name__", "__qualname__"].contains wanted then .ok (.text (headName head))
      else if wanted = "__module__" then .ok (.text "typing")
      else if wanted = "_name" then
        .ok (match head with
          | .generic name => .text name
          | _ => .none)
      else passed wanted fun name =>
        match head with
        | .form label => formFeature label name
        | .library cls => classFeature cls name
        | head => classFeature (Library.origin (headName head)) name

def unionFeature (native : Bool) (ms : List Meaning) (wanted : String) : Result :=
  if wanted = "__args__" then .ok (.tuple ms)
  else if wanted = "__parameters__" then .ok (.tuple (distinct (typeVariablesOfAll ms)))
  else if wanted = "__class__" then .ok (.type (typeName (.union native ms)))
  else if native then
    if wanted = "__module__" then .ok (.text "types")
    else if Library.hasAttribute "types.UnionType" wanted then .ok (.other "method")
    else .error (.noAttribute (ownerText (.union native ms)) wanted)
  else if wanted = "__origin__" then .ok (.form "Union")
  else if ["__name__", "__qualname__"].contains wanted then
    .ok (.text (if ms.length = 2 && ms.any (same nothing) then "Optional" else "Union"))
  else if wanted = "__module__" then .ok (.text "typing")
  else passed wanted (formFeature "Union")

def nameOf (owner name wanted : String) : Option Meaning :=
  [("__name__", .text name), ("__qualname__", .text (shortName owner ++ "." ++ name))].lookup wanted

def data? (m : Meaning) (wanted : String) : Option Meaning :=
  match m.integer?, m with
  | Option.some n, _ =>
    if ["real", "numerator"].contains wanted then Option.some (.integer n)
    else if wanted = "imag" then Option.some (.integer 0)
    else if wanted = "denominator" then Option.some (.integer 1)
    else Option.none
  | _, .float x =>
    if wanted = "real" then Option.some (.float x)
    else if wanted = "imag" then Option.some (.float (.finite false 0 (-1074)))
    else Option.none
  | _, .slice start stop step =>
    [("start", start), ("stop", stop), ("step", step)].lookup wanted
  | _, .range start stop step =>
    ([("start", start), ("stop", stop), ("step", step)].lookup wanted).map .integer
  | _, .quoted s _ =>
    if wanted = "__forward_arg__" then Option.some (.text s) else Option.none
  | _, .typeVariable _ name =>
    [("__name__", .text name), ("__bound__", .none), ("__constraints__", .tuple []),
      ("__covariant__", .bool false), ("__contravariant__", .bool false),
      ("__module__", .text "typing"), ("args", .other "typing.ParamSpecArgs"),
      ("kwargs", .other "typing.ParamSpecKwargs")].lookup wanted
  | _, .newType name base =>
    [("__name__", .text name), ("__qualname__", .text name), ("__supertype__", base),
      ("__module__", .text "records")].lookup wanted
  | _, .function name =>
    [("__name__", .text (shortName name)), ("__qualname__", .text (shortName name)),
      ("__module__", .text (homeOf name))].lookup wanted
  | _, .method owner name => nameOf (typeName owner) name wanted
  | _, .member owner name => nameOf owner name wanted
  | _, .closure _ _ _ =>
    [("__name__", .text "<lambda>"), ("__qualname__", .text "<lambda>"),
      ("__module__", .text "records")].lookup wanted
  | _, _ => Option.none

def isKnown (typeName : String) : Bool :=
  Library.standardClasses.contains typeName ||
    Library.addedAttributes.any fun (owners, _) => owners.contains typeName

def valueFeature (m : Meaning) (wanted : String) : Result :=
  match data? m wanted with
  | Option.some d => .ok d
  | Option.none =>
    if wanted = "__class__" then .ok (.type (typeName m))
    else if wanted = "__hash__" && hashless.contains (typeName m) then .ok .none
    else if Library.hasAttribute (typeName m) wanted then .ok (.method m wanted)
    else if (m matches .other _) && !isKnown (typeName m) then .ok (.other "object")
    else .error (.noAttribute (ownerText m) wanted)

def namedFeature (wanted : String) : Meaning → Result
  | .type name => classFeature name wanted
  | .form name => formFeature name wanted
  | .generic name => genericFeature name wanted
  | .applied head args => appliedFeature head args wanted
  | .union native ms => unionFeature native ms wanted
  | .annotated m notes =>
    if wanted = "__origin__" then .ok m
    else if wanted = "__args__" then .ok (.tuple [m])
    else if wanted = "__metadata__" then .ok (.tuple notes)
    else if wanted = "__parameters__" then .ok (.tuple (distinct (typeVariables m)))
    else if ["__name__", "__qualname__"].contains wanted then .ok (.text "Annotated")
    else if wanted = "__module__" then .ok (.text "typing")
    else passed wanted fun name => namedFeature name m
  | .module name =>
    match Library.moduleName? name wanted with
    | Option.some m => .ok m
    | Option.none =>
      if Library.commonAttributes.contains wanted || wanted = "__dict__" then
        .ok (.other "object")
      else .error (.noAttribute (ownerText (.module name)) wanted)
  | m => valueFeature m wanted

def description : Meaning → Meaning
  | .none | .closure _ _ _ | .other _ => .none
  | _ => .other "str"

def feature (wanted : String) (m : Meaning) : Result :=
  if wanted = "__doc__" then .ok (description m) else namedFeature wanted m

end FieldGuard.TypeHint.Meaning
