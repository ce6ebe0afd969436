import LiteralMarkdown.Data.Calendar
import LiteralMarkdown.Yaml.Fault
import LiteralMarkdown.Yaml.Kind

/-!
# Points in time in YAML documents

A day, or a time on a day with an optional fraction of a second and an optional zone. A tag can call
a text a point in time that does not look like one by itself, because its month or day has a single
digit.
-/

namespace LiteralMarkdown.Yaml

open Pattern ScalarKind

/-- A pattern whose text is kept under a name. -/
def named (name : String) (p : Pattern) : Pattern := .group (.name name) p

/-- The zone of a time: the common one, or hours and perhaps minutes ahead or behind. -/
def zoneForm : Pattern :=
  sequence [gap, choice [named "common" (.char 'Z'),
    sequence [named "sign" (.chars (.oneOf ['-', '+'])), named "zoneHour" oneOrTwo,
      .optional (sequence [.char ':', named "zoneMinute" two])]]]

/-- The part of a point in time behind its day. -/
def clockForm : Pattern :=
  sequence [choice [.chars (.oneOf ['T', 't']), oneOrMore (.chars (.oneOf [' ', '\t']))],
    named "hour" oneOrTwo, .char ':', named "minute" two, .char ':', named "second" two,
    .optional (sequence [.char '.', named "fraction" (zeroOrMore digit)]),
    .optional zoneForm]

/-- A point in time. -/
def dateForm : Pattern :=
  sequence [named "year" (two ++ two), .char '-', named "month" oneOrTwo, .char '-',
    named "day" oneOrTwo, .optional clockForm]

/-- The number that decimal digits write. -/
def decimalNumber (digits : List Char) : Nat :=
  digits.foldl (fun n c => n * 10 + (c.toNat - '0'.toNat)) 0

/-- The number kept under a name, or zero if nothing is. -/
def numberIn (m : Match) (name : String) : Nat :=
  decimalNumber ((m.group? (.name name)).getD [])

/-- The millionths of a second that a fraction writes. Further digits do not count. -/
def microseconds (fraction : List Char) : Nat :=
  decimalNumber ((fraction ++ List.replicate 6 '0').take 6)

/-- How many minutes a zone is ahead of the common one, if it is given. -/
def offsetIn? (m : Match) : Option Int :=
  match m.group? (.name "sign"), m.group? (.name "common") with
  | some sign, _ =>
    let minutes : Int := numberIn m "zoneHour" * 60 + numberIn m "zoneMinute"
    some (if sign = ['-'] then -minutes else minutes)
  | none, some _ => some 0
  | none, none => none

/-- The day that a point in time lies on. -/
def dayIn (m : Match) : Day := ⟨numberIn m "year", numberIn m "month", numberIn m "day"⟩

/-- The time that a point in time gives. -/
def momentIn (m : Match) : Moment where
  day := dayIn m
  hour := numberIn m "hour"
  minute := numberIn m "minute"
  second := numberIn m "second"
  microsecond := microseconds ((m.group? (.name "fraction")).getD [])
  offset := offsetIn? m

/-- The day or the time that a text writes. -/
def readDate (text : List Char) : Except Unusable (Day ⊕ Moment) :=
  match dateForm.wholeMatch? (withoutLineFeed text) with
  | none => .error .timeForm
  | some m =>
    if (m.group? (.name "hour")).isSome then
      if (momentIn m).exists? then .ok (.inr (momentIn m)) else .error .date
    else if (dayIn m).exists? then .ok (.inl (dayIn m))
    else .error .date

end LiteralMarkdown.Yaml
