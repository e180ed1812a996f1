import AuditTrail.Text.CaseTables

/-!
# Lower case

The full lower-case form of a text. One letter has a form of two characters (the dotted capital
I), and a capital sigma becomes the final sigma where it ends a word.
-/

namespace AuditTrail.Text

/-- Lower-case form of a single character, without regard to what stands around it. -/
def lowerChar (c : Char) : List Char :=
  if c = 'İ' then ['i', '\u0307'] else
  match lowerRuns.find? fun run ↦ run.covers c.toNat with
  | some run => [Char.ofNat (c.toNat + run.offset).toNat]
  | none => [c]

/-- The first character that is not passed over has a case. -/
def meetsCased (cs : List Char) : Bool :=
  match cs.dropWhile isCaseIgnorable with
  | [] => false
  | c :: _ => isCased c

/-- Lower-case form of a capital sigma between `before`, nearest character first, and `after`. -/
def lowerSigma (before after : List Char) : Char :=
  if meetsCased before && !meetsCased after then 'ς' else 'σ'

/-- Lower-case form of the characters that follow `before`, nearest character first. -/
def lowerAfter (before : List Char) : List Char → List Char
  | [] => []
  | c :: after =>
    (if c = 'Σ' then [lowerSigma before after] else lowerChar c) ++ lowerAfter (c :: before) after

@[simp] theorem lowerAfter_nil (before : List Char) : lowerAfter before [] = [] := rfl

/-- Lower-case form of a text. -/
def lowercase (s : String) : String :=
  String.ofList (lowerAfter [] s.toList)

/-- Lower-case form of a text with ASCII letters changed and nothing else. -/
def asciiLowercase (s : String) : String :=
  String.ofList (s.toList.map Char.toLower)

end AuditTrail.Text
