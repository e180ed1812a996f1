import AuditTrail.Text.Blank

/-!
# Date patterns

A date pattern is a text with specifiers that begin with a percent sign. Reading one either gives
its items or refuses it for a specifier that does not exist or is cut short.
-/

namespace AuditTrail.Time

open Text (isBlank)

/-- What fills a number up to its width. -/
inductive Padding where
  | none
  | zero
  | space
  deriving DecidableEq, Repr

/-- Parts of a timestamp that are shown as a number. -/
inductive NumberPart where
  | year
  | century
  | yearOfCentury
  | isoYear
  | isoYearOfCentury
  | quarter
  | month
  | day
  | weekFromSunday
  | weekFromMonday
  | isoWeek
  | weekdayFromSunday
  | weekdayFromMonday
  | ordinal
  | hour
  | hour12
  | minute
  | second
  | nanosecond
  | unixSeconds
  deriving DecidableEq, Repr

/-- Parts of a timestamp that are shown in a form of their own. -/
inductive NamedPart where
  | weekday
  | weekdayShort
  | month
  | monthShort
  | noonUpper
  | noonLower
  /-- As many digits as the fraction takes, after a point. -/
  | fraction
  /-- That many digits of the fraction, after a point. -/
  | fractionDigits (digits : Nat)
  /-- That many digits of the fraction. -/
  | bareDigits (digits : Nat)
  | zoneName
  | offset
  | offsetColon
  | offsetSeconds
  | offsetHours
  /-- An offset whose minutes may be missing; it can be read and has no written form. -/
  | offsetLenient
  | rfc3339
  deriving DecidableEq, Repr

/-- An item of a pattern. -/
inductive PatternItem where
  | literal (s : List Char)
  | number (part : NumberPart) (padding : Padding)
  | named (part : NamedPart)
  deriving DecidableEq, Repr

namespace PatternItem

/-- A number filled up with zeros. -/
def zeros (part : NumberPart) : PatternItem :=
  number part .zero

/-- A number filled up with spaces. -/
def spaces (part : NumberPart) : PatternItem :=
  number part .space

/-- A number without anything before it. -/
def bare (part : NumberPart) : PatternItem :=
  number part .none

/-- Hour, minute and second with colons. -/
def clock : List PatternItem :=
  [zeros .hour, literal [':'], zeros .minute, literal [':'], zeros .second]

/-- The items of a specifier of one letter. -/
def ofLetter? : Char → Option (List PatternItem)
  | 'A' => some [named .weekday]
  | 'B' => some [named .month]
  | 'C' => some [zeros .century]
  | 'D' => some [zeros .month, literal ['/'], zeros .day, literal ['/'], zeros .yearOfCentury]
  | 'F' => some [zeros .year, literal ['-'], zeros .month, literal ['-'], zeros .day]
  | 'G' => some [zeros .isoYear]
  | 'H' => some [zeros .hour]
  | 'I' => some [zeros .hour12]
  | 'M' => some [zeros .minute]
  | 'P' => some [named .noonLower]
  | 'R' => some [zeros .hour, literal [':'], zeros .minute]
  | 'S' => some [zeros .second]
  | 'T' => some clock
  | 'U' => some [zeros .weekFromSunday]
  | 'V' => some [zeros .isoWeek]
  | 'W' => some [zeros .weekFromMonday]
  | 'X' => some clock
  | 'Y' => some [zeros .year]
  | 'Z' => some [named .zoneName]
  | 'a' => some [named .weekdayShort]
  | 'b' => some [named .monthShort]
  | 'c' => some ([named .weekdayShort, literal [' '], named .monthShort, literal [' '], spaces .day,
      literal [' ']] ++ clock ++ [literal [' '], zeros .year])
  | 'd' => some [zeros .day]
  | 'e' => some [spaces .day]
  | 'f' => some [zeros .nanosecond]
  | 'g' => some [zeros .isoYearOfCentury]
  | 'h' => some [named .monthShort]
  | 'j' => some [zeros .ordinal]
  | 'k' => some [spaces .hour]
  | 'l' => some [spaces .hour12]
  | 'm' => some [zeros .month]
  | 'n' => some [literal ['\n']]
  | 'p' => some [named .noonUpper]
  | 'q' => some [bare .quarter]
  | 'r' => some [zeros .hour12, literal [':'], zeros .minute, literal [':'], zeros .second,
      literal [' '], named .noonUpper]
  | 's' => some [bare .unixSeconds]
  | 't' => some [literal ['\t']]
  | 'u' => some [bare .weekdayFromMonday]
  | 'v' => some [spaces .day, literal ['-'], named .monthShort, literal ['-'], zeros .year]
  | 'w' => some [bare .weekdayFromSunday]
  | 'x' => some [zeros .month, literal ['/'], zeros .day, literal ['/'], zeros .yearOfCentury]
  | 'y' => some [zeros .yearOfCentury]
  | 'z' => some [named .offset]
  | '+' => some [named .rfc3339]
  | '%' => some [literal ['%']]
  | _ => none

/-- The items of a specifier, after its percent sign and without padding, and what follows it. -/
def ofSpecifier? : List Char → Option (List PatternItem × List Char)
  | ':' :: ':' :: ':' :: 'z' :: rest => some ([named .offsetHours], rest)
  | ':' :: ':' :: 'z' :: rest => some ([named .offsetSeconds], rest)
  | ':' :: 'z' :: rest => some ([named .offsetColon], rest)
  | '.' :: '3' :: 'f' :: rest => some ([named (.fractionDigits 3)], rest)
  | '.' :: '6' :: 'f' :: rest => some ([named (.fractionDigits 6)], rest)
  | '.' :: '9' :: 'f' :: rest => some ([named (.fractionDigits 9)], rest)
  | '.' :: 'f' :: rest => some ([named .fraction], rest)
  | '3' :: 'f' :: rest => some ([named (.bareDigits 3)], rest)
  | '6' :: 'f' :: rest => some ([named (.bareDigits 6)], rest)
  | '9' :: 'f' :: rest => some ([named (.bareDigits 9)], rest)
  | '#' :: 'z' :: rest => some ([named .offsetLenient], rest)
  | c :: rest => (ofLetter? c).map (·, rest)
  | [] => none

/-- A specifier with its padding replaced, which only a single number allows. -/
def repad? (padding : Padding) (cs : List Char) : Option (List PatternItem × List Char) :=
  match ofSpecifier? cs with
  | some ([number part _], rest) => some ([number part padding], rest)
  | _ => none

/-- The items of a specifier, after its percent sign, and what follows it. -/
def ofPercent? : List Char → Option (List PatternItem × List Char)
  | '-' :: rest => repad? .none rest
  | '0' :: rest => repad? .zero rest
  | '_' :: rest => repad? .space rest
  | cs => ofSpecifier? cs

/-- A specifier consumes at least one character. -/
theorem length_ofSpecifier? {cs rest : List Char} {items : List PatternItem}
    (h : ofSpecifier? cs = some (items, rest)) : rest.length < cs.length := by
  unfold ofSpecifier? at h
  split at h <;>
    first
    | (simp only [Option.some.injEq, Prod.mk.injEq] at h
       obtain ⟨-, rfl⟩ := h
       simp only [List.length_cons]
       omega)
    | (obtain ⟨_, _, h⟩ := Option.map_eq_some_iff.1 h
       simp only [Prod.mk.injEq] at h
       obtain ⟨-, rfl⟩ := h
       simp)
    | simp at h

/-- A padded specifier consumes at least one character. -/
theorem length_repad? {padding : Padding} {cs rest : List Char} {items : List PatternItem}
    (h : repad? padding cs = some (items, rest)) : rest.length < cs.length := by
  unfold repad? at h
  split at h
  · rename_i h'
    simp only [Option.some.injEq, Prod.mk.injEq] at h
    obtain ⟨-, rfl⟩ := h
    exact length_ofSpecifier? h'
  · simp at h

/-- What stands after a percent sign consumes at least one character. -/
theorem length_ofPercent? {cs rest : List Char} {items : List PatternItem}
    (h : ofPercent? cs = some (items, rest)) : rest.length < cs.length := by
  unfold ofPercent? at h
  split at h
  · have := length_repad? h; simp only [List.length_cons]; omega
  · have := length_repad? h; simp only [List.length_cons]; omega
  · have := length_repad? h; simp only [List.length_cons]; omega
  · exact length_ofSpecifier? h

end PatternItem

/-- A date pattern. -/
abbrev Pattern := List PatternItem

namespace Pattern

/-- The items of a pattern that is written with these characters. -/
def ofChars? (cs : List Char) : Option Pattern :=
  match cs with
  | [] => some []
  | '%' :: rest =>
    match _h : PatternItem.ofPercent? rest with
    | some (items, rest) => (ofChars? rest).map (items ++ ·)
    | none => none
  | c :: rest => (ofChars? rest).map (.literal [c] :: ·)
  termination_by cs.length
  decreasing_by
    · have := PatternItem.length_ofPercent? _h
      simp only [List.length_cons]
      omega
    · simp

/-- The items of a pattern, if its text holds more than blanks and no bad specifier. -/
def parse? (s : String) : Option Pattern :=
  if s.toList.all isBlank then none else ofChars? s.toList

end Pattern

end AuditTrail.Time
