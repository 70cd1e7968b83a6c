/-!
# Scalar — the texts that are numbers or dates

    integer  [sign] decimal | 0x… | 0o… | 0b…
    float    [sign] decimal [. digits] [e [sign] digits] | [sign] inf | [sign] nan
    date     yyyy-mm-dd [T time [offset]] | time
    time     hh:mm[:ss[.digits]]

A decimal does not begin with a zero unless it is one.  Single underscores may stand between the digits of a number.
An integer has no more than 128 bits, and a float with digits is finite in double precision.
-/

namespace TypeCensus.Toml

/-- Whether the text is digits of a kind, with single underscores between some of them. -/
def isDigits (p : Char → Bool) : List Char → Bool
  | [] => false
  | [c] => p c
  | c :: '_' :: cs => p c && isDigits p cs
  | c :: cs => p c && isDigits p cs

/-- Whether the text is a decimal without a sign. -/
def isDecimal (cs : List Char) : Bool :=
  isDigits Char.isDigit cs && (cs.head? != some '0' || cs.length == 1)

/-- The text without a sign before it. -/
def unsigned : List Char → List Char
  | '+' :: cs => cs
  | '-' :: cs => cs
  | cs => cs

/-- The text before the first character of a kind, and the text after it if there is one. -/
def cutAt (p : Char → Bool) (cs : List Char) : List Char × Option (List Char) :=
  (cs.takeWhile fun c => !p c,
    match cs.dropWhile fun c => !p c with
    | [] => none
    | _ :: rest => some rest)

/-- The value of a hexadecimal digit. -/
def hexValue? (c : Char) : Option Nat :=
  if c.isDigit then some (c.toNat - '0'.toNat)
  else if 'a' ≤ c && c ≤ 'f' then some (c.toNat - 'a'.toNat + 10)
  else if 'A' ≤ c && c ≤ 'F' then some (c.toNat - 'A'.toNat + 10)
  else none

/-- Whether a character is a digit below some base up to sixteen. -/
def isDigitBelow (base : Nat) (c : Char) : Bool := (hexValue? c).any (· < base)

/-- The value of some digits, with underscores between them. -/
def valueOf (base : Nat) (cs : List Char) : Nat :=
  (cs.filterMap hexValue?).foldl (fun n d => base * n + d) 0

/-- Whether the text is an integer. -/
def isInteger (cs : List Char) : Bool :=
  match cs with
  | '0' :: 'x' :: ds => isDigits (isDigitBelow 16) ds && valueOf 16 ds < Nat.pow 2 128
  | '0' :: 'o' :: ds => isDigits (isDigitBelow 8) ds && valueOf 8 ds < Nat.pow 2 128
  | '0' :: 'b' :: ds => isDigits (isDigitBelow 2) ds && valueOf 2 ds < Nat.pow 2 128
  | '-' :: ds => isDecimal ds && valueOf 10 ds ≤ Nat.pow 2 127
  | _ => isDecimal (unsigned cs) && valueOf 10 (unsigned cs) < Nat.pow 2 128

/-- The value of an exponent.  No more digits are read of one that is far out of range already. -/
def exponentOf (ds : List Char) : Nat :=
  (ds.filterMap hexValue?).foldl (fun n d => if n < 0x10000 then 10 * n + d else n) 0

/-- The least number that is rounded to infinity in double precision. -/
def tooLarge : Nat := Nat.pow 2 1024 - Nat.pow 2 970

/-- Whether digits, of which some make a fraction, stand for a finite number with an exponent. -/
def isFinite (whole fraction exponent : List Char) : Bool :=
  let digits := valueOf 10 (whole ++ fraction)
  let shift := (fraction.filterMap hexValue?).length
  match exponent with
  | '-' :: ds => digits < tooLarge * Nat.pow 10 (shift + exponentOf ds)
  | ds => digits * Nat.pow 10 (exponentOf ds) < tooLarge * Nat.pow 10 shift

/-- Whether the text is a float. -/
def isFloat (cs : List Char) : Bool :=
  let body := unsigned cs
  let (mantissa, exponent) := cutAt (fun c => c == 'e' || c == 'E') body
  let (whole, fraction) := cutAt (· == '.') mantissa
  body == ['i', 'n', 'f'] || body == ['n', 'a', 'n'] ||
    ((fraction.isSome || exponent.isSome) && isDecimal whole && fraction.all (isDigits Char.isDigit) &&
      exponent.all (fun ds => isDigits Char.isDigit (unsigned ds)) &&
      isFinite whole (fraction.getD []) (exponent.getD []))

/-- Whether the text is a number. -/
def isNumber (cs : List Char) : Bool := isInteger cs || isFloat cs

/-- The value of some decimal digits. -/
def numeral? (cs : List Char) : Option Nat :=
  if cs.isEmpty || !cs.all Char.isDigit then none
  else some (cs.foldl (fun n c => 10 * n + (c.toNat - '0'.toNat)) 0)

/-- Whether the text is two digits with a value up to a limit. -/
def isPairUpTo (limit : Nat) (cs : List Char) : Bool :=
  cs.length == 2 && (numeral? cs).any (· ≤ limit)

/-- The number of days of a month. -/
def daysOf (year month : Nat) : Nat :=
  if month = 2 then
    if year % 4 = 0 && (year % 100 != 0 || year % 400 = 0) then 29 else 28
  else if month = 4 || month = 6 || month = 9 || month = 11 then 30
  else 31

/-- Whether the text is a day. -/
def isDay (cs : List Char) : Bool :=
  match cs with
  | [y, z, v, w, '-', m, n, '-', d, e] =>
    match numeral? [y, z, v, w], numeral? [m, n], numeral? [d, e] with
    | some year, some month, some day =>
      1 ≤ month && month ≤ 12 && 1 ≤ day && day ≤ daysOf year month
    | _, _, _ => false
  | _ => false

/-- Whether the text is a number of seconds, maybe with a fraction. -/
def isSeconds (cs : List Char) : Bool :=
  let (whole, fraction) := cutAt (· == '.') cs
  isPairUpTo 60 whole && fraction.all fun ds => (numeral? ds).isSome

/-- Whether the text is a time of day. -/
def isTime (cs : List Char) : Bool :=
  match cs with
  | h :: i :: ':' :: m :: n :: rest =>
    isPairUpTo 23 [h, i] && isPairUpTo 59 [m, n] &&
      match rest with
      | [] => true
      | ':' :: seconds => isSeconds seconds
      | _ => false
  | _ => false

/-- Whether a character begins an offset. -/
def beginsOffset (c : Char) : Bool := c == 'Z' || c == 'z' || c == '+' || c == '-'

/-- Whether the text is an offset from universal time. -/
def isOffset (cs : List Char) : Bool :=
  match cs with
  | ['Z'] | ['z'] => true
  | [_, h, i, ':', m, n] => isPairUpTo 23 [h, i] && isPairUpTo 59 [m, n]
  | _ => false

/-- Whether the text is a time of day, maybe with an offset. -/
def isTimeWithOffset (cs : List Char) : Bool :=
  isTime (cs.takeWhile fun c => !beginsOffset c) &&
    match cs.dropWhile fun c => !beginsOffset c with
    | [] => true
    | offset => isOffset offset

/-- Whether the text is a date. -/
def isDate (cs : List Char) : Bool :=
  isTime cs ||
    (isDay (cs.take 10) &&
      match cs.drop 10 with
      | [] => true
      | c :: time => (c == 'T' || c == 't' || c == ' ') && isTimeWithOffset time)

end TypeCensus.Toml
