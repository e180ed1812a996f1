/-!
# Short type names

The short form of a qualified type name drops the path up to the last `::` that stands in front of
the first type argument.
-/

namespace AuditTrail.TypeName

/-- The characters before the first `::`. -/
def untilPath : List Char → List Char
  | ':' :: ':' :: _ => []
  | c :: rest => c :: untilPath rest
  | [] => []

/-- The characters after the last `::`. -/
def lastSegment (cs : List Char) : List Char :=
  (untilPath cs.reverse).reverse

/-- The short form of a qualified type name. -/
def shorten (full : String) : String :=
  let head := full.toList.takeWhile (· ≠ '<')
  let arguments := full.toList.dropWhile (· ≠ '<')
  String.ofList (lastSegment head ++ arguments)

end AuditTrail.TypeName
