import AspectHost.Host.Function

/-! Host functions outlined for diagnosis: records by their name with their fields between braces. -/

namespace AspectHost

/-- A record by its name and its fields in order. -/
def outlineRecord (name : String) (fields : List (String × String)) : String :=
  name ++ " \x7b " ++ ", ".intercalate (fields.map fun (f, v) => f ++ ": " ++ v) ++ " \x7d"

def Signature.outline (s : Signature) : String :=
  outlineRecord "Signature" [("params", Kind.showList s.params), ("results", Kind.showList s.results),
    ("fallible", if s.fallible then "true" else "false")]

def GasRule.outline : GasRule → String
  | fixed c => outlineRecord "Static" [("cost", toString c.toInt)]
  | perByte base rate =>
    outlineRecord "Dynamic" [("fixed_cost", toString base.toInt), ("multiplier", toString rate.toInt)]

/-- The body of a function is left out. -/
def HostFunction.outline (f : HostFunction) : String :=
  outlineRecord "HostFunction" [("signature", f.signature.outline)]

/-- The budget is left out. -/
def HostApi.outline (a : HostApi) : String :=
  outlineRecord "HostApi" [("function", a.function.outline), ("gas_rule", a.rule.outline)]

end AspectHost
