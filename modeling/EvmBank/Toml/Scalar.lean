import EvmBank.Json.Record
import EvmBank.Text.Digits

/-!
Numbers, truth values and times of TOML texts, given as the whole run of characters that they are
written with.
-/

namespace EvmBank.Toml

/-- The digits of a number without the underscores in it, each of which has to stand between two
digits. -/
def plainDigits? (isDigit : Char → Bool) : List Char → Option (List Char)
  | [] => none
  | [c] => if isDigit c then some [c] else none
  | c :: '_' :: rest => if isDigit c then (plainDigits? isDigit rest).map (c :: ·) else none
  | c :: rest => if isDigit c then (plainDigits? isDigit rest).map (c :: ·) else none

/-- Whether a number is written without a leading zero. -/
def isDecimal (digits : List Char) : Bool := digits.length = 1 || digits.head? ≠ some '0'

def splitSign : List Char → Bool × List Char
  | '+' :: rest => (false, rest)
  | '-' :: rest => (true, rest)
  | s => (false, s)

/-- The number below which integers have to be, and below whose negative they may not be. -/
def integerBound : Nat := 0x8000000000000000

/-- An integer, if it takes no more than 64 bits. A negative one is no natural number. -/
def integer? (isNegative : Bool) (n : Nat) : Option Json :=
  if isNegative && n ≠ 0 then
    if n ≤ integerBound then some (.number ('-' :: Nat.toDigits 10 n)) else none
  else if n < integerBound then some (.ofNat n)
  else none

/-- The number that digits of a base stand for. One that takes more than 64 digits behind its
leading zeros takes more than 64 bits. -/
def digitsValue? (base : Nat) (digits : List Char) : Option Nat :=
  let digits := digits.dropWhile (· = '0')
  if digits.length ≤ 64 then Text.ofDigits? base digits else none

def basedInteger? (base : Nat) (s : List Char) : Option Json := do
  let digits ← plainDigits? (fun c => (Text.hexValue? c).any (· < base)) s
  integer? false (← digitsValue? base digits)

def readInteger? : List Char → Option Json
  | '0' :: 'x' :: rest => basedInteger? 16 rest
  | '0' :: 'o' :: rest => basedInteger? 8 rest
  | '0' :: 'b' :: rest => basedInteger? 2 rest
  | s => do
    let (isNegative, rest) := splitSign s
    let digits ← plainDigits? Char.isDigit rest
    if isDecimal digits then integer? isNegative (← digitsValue? 10 digits) else none

/-- Once an exponent has reached this number, no further digit of it counts. -/
def exponentBound : Nat := 0x10000

/-- The number that the digits of an exponent stand for, up to the digit with which it reaches the
bound. -/
def exponentOfDigits? (digits : List Char) : Option Nat :=
  digits.foldlM (fun n c =>
    if n < exponentBound then (Text.hexValue? c).map (10 * n + ·) else some n) 0

/-- The exponent of a float, which is zero if nothing is written. -/
def exponent? : List Char → Option Int
  | [] => some 0
  | c :: rest => do
    if c ≠ 'e' && c ≠ 'E' then none
    let (isNegative, rest) := splitSign rest
    let n ← exponentOfDigits? (← plainDigits? Char.isDigit rest)
    return if isNegative then -n else n

/-- Whether the number that is written with these digits and this exponent is at least halfway
between the greatest float and the power of two above it. That point is an integer of 309 digits,
so that nothing behind them matters. -/
def isTooGreat (digits : List Char) (exponent : Int) : Bool :=
  let digits := digits.dropWhile (· = '0')
  let size := exponent + digits.length
  if digits = [] || size < 309 then false
  else if 309 < size then true
  else
    (Text.ofDigits? 10 ((digits ++ List.replicate 309 '0').take 309)).any
      ((1 <<< 1024) - (1 <<< 970) ≤ ·)

/-- Whether a float is written that is not rounded to the positive infinity. It has a fraction, an
exponent or both, or it is one of two words. -/
def isFloat (s : List Char) : Bool :=
  let (isNegative, rest) := splitSign s
  if rest = "inf".toList || rest = "nan".toList then true
  else if rest.all fun c => c.isDigit || c = '_' then false
  else
    let (whole, rest) := rest.span fun c => c.isDigit || c = '_'
    let (fraction, rest) := match rest with
      | '.' :: rest =>
        let (fraction, rest) := rest.span fun c => c.isDigit || c = '_'
        (plainDigits? Char.isDigit fraction, rest)
      | rest => (some [], rest)
    match plainDigits? Char.isDigit whole, fraction, exponent? rest with
    | some whole, some fraction, some exponent =>
      isDecimal whole &&
        (isNegative || !isTooGreat (whole ++ fraction) (exponent - fraction.length))
    | _, _, _ => false

/-- The number that exactly `count` digits at the front stand for, and the rest. -/
def takeNumber? (count : Nat) (s : List Char) : Option (Nat × List Char) :=
  let digits := s.take count
  if digits.length = count && digits.all Char.isDigit then
    (Text.ofDigits? 10 digits).map (·, s.drop count)
  else none

def daysOf (year month : Nat) : Nat :=
  if month = 2 then
    if (year % 4 = 0 && year % 100 ≠ 0) || year % 400 = 0 then 29 else 28
  else if month = 4 || month = 6 || month = 9 || month = 11 then 30
  else 31

/-- What stands behind a date at the front. -/
def afterDate? (s : List Char) : Option (List Char) := do
  let (year, s) ← takeNumber? 4 s
  let '-' :: s := s | none
  let (month, s) ← takeNumber? 2 s
  let '-' :: s := s | none
  let (day, s) ← takeNumber? 2 s
  if 1 ≤ month && month ≤ 12 && 1 ≤ day && day ≤ daysOf year month then some s else none

/-- What stands behind a time of day at the front. A minute may have a second of number 60. -/
def afterTime? (s : List Char) : Option (List Char) := do
  let (hour, s) ← takeNumber? 2 s
  let ':' :: s := s | none
  let (minute, s) ← takeNumber? 2 s
  let ':' :: s := s | none
  let (second, s) ← takeNumber? 2 s
  if !(hour ≤ 23 && minute ≤ 59 && second ≤ 60) then none
  match s with
  | '.' :: rest =>
    let (fraction, rest) := rest.span Char.isDigit
    if fraction = [] then none else some rest
  | s => some s

/-- Whether nothing or a distance from universal time is written. -/
def isOffset : List Char → Bool
  | [] => true
  | [c] => c = 'Z' || c = 'z'
  | c :: s => (c = '+' || c = '-') &&
    match takeNumber? 2 s with
    | some (hour, ':' :: s) =>
      match takeNumber? 2 s with
      | some (minute, []) => hour ≤ 23 && minute ≤ 59
      | _ => false
    | _ => false

/-- Whether a time of day is written, with or without a distance from universal time. -/
def isTimeWithOffset (s : List Char) : Bool := (afterTime? s).any isOffset

/-- Whether a date, a time of day or both are written. -/
def isMoment (s : List Char) : Bool :=
  match afterDate? s with
  | some [] => true
  | some (c :: rest) => (c = 'T' || c = 't') && isTimeWithOffset rest
  | none => afterTime? s = some []

/-- A date or a time. It is an object with one member of a name that no record has. -/
def moment (s : List Char) : Json :=
  .ofMembers [("$moment", .ofString (String.ofList s))]

/-- Reads a truth value, a number, a date or a time. -/
def readScalar? (s : List Char) : Option Json :=
  if s = "true".toList then some (.bool true)
  else if s = "false".toList then some (.bool false)
  else if isMoment s then some (moment s)
  else if isFloat s then some (.number s)
  else readInteger? s

end EvmBank.Toml
