/-!
# Literal replacement
-/

namespace AuditTrail.Text

/-- Every occurrence of a non-empty `pattern`, leftmost first and not overlapping, replaced by
`replacement`. -/
def replaceChars (pattern replacement : List Char) (cs : List Char) : List Char :=
  match cs with
  | [] => []
  | c :: rest =>
    if pattern ≠ [] ∧ pattern <+: c :: rest then
      replacement ++ replaceChars pattern replacement ((c :: rest).drop pattern.length)
    else c :: replaceChars pattern replacement rest
  termination_by cs.length
  decreasing_by
    · rename_i h
      have := List.length_pos_iff.2 h.1
      simp only [List.length_drop, List.length_cons]
      omega
    · simp

@[simp] theorem replaceChars_nil (pattern replacement : List Char) :
    replaceChars pattern replacement [] = [] := by
  simp [replaceChars]

/-- `replaceChars` on texts. -/
def replaceAll (s pattern replacement : String) : String :=
  String.ofList (replaceChars pattern.toList replacement.toList s.toList)

end AuditTrail.Text
