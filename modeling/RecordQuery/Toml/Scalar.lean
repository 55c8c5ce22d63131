import RecordQuery.Calendar.Basic
import RecordQuery.Toml.Basic

/-! Numbers, truth values, dates and times of TOML. Between the digits of a number there may be
single underscores. Integers are signed and have 64 bits. A date or time is kept as it is written,
but it has to be one that the calendar and the clock have.
-/

namespace RecordQuery.Toml

/-! ### Numbers -/

/-- The digits that follow a digit, each with or without an underscore in front, and what follows
them.
-/
def digitsAfter (isDigit : Char → Bool) : List Char → List Char × List Char
  | '_' :: c :: rest =>
    if isDigit c then
      let (digits, after) := digitsAfter isDigit rest
      (c :: digits, after)
    else ([], '_' :: c :: rest)
  | c :: rest =>
    if isDigit c then
      let (digits, after) := digitsAfter isDigit rest
      (c :: digits, after)
    else ([], c :: rest)
  | [] => ([], [])

/-- A digit and those that follow it, and what follows them. -/
def digits? (isDigit : Char → Bool) : List Char → Option (List Char × List Char)
  | c :: rest =>
    if isDigit c then
      let (digits, after) := digitsAfter isDigit rest
      some (c :: digits, after)
    else none
  | [] => none

/-- The digits of a whole number, which has no zero in front. -/
def wholeDigits? : List Char → Option (List Char × List Char)
  | '0' :: rest => some (['0'], rest)
  | text => digits? Text.isDigit text

/-- What follows a word that a text starts with. -/
def after? (word text : List Char) : Option (List Char) :=
  if word.isPrefixOf text then some (text.drop word.length) else none

/-- The digits of a fraction at the start of a text, and what follows it. -/
def fraction? : List Char → Option (List Char × List Char)
  | '.' :: rest => digits? Text.isDigit rest
  | _ => none

/-- The power of ten at the start of a text, and what follows it. -/
def exponent? : List Char → Option (Int × List Char)
  | mark :: rest =>
    if mark = 'e' ∨ mark = 'E' then
      let power (negative : Bool) (text : List Char) : Option (Int × List Char) :=
        (digits? Text.isDigit text).map (fun (digits, after) =>
          (if negative then -(Text.digitsValue digits : Int) else Text.digitsValue digits, after))
      match rest with
      | '-' :: more => power true more
      | '+' :: more => power false more
      | more => power false more
    else none
  | [] => none

/-- A floating-point number. One that is too great to be finite is only taken with a minus sign. -/
def floatValue? (d : Decimal) : Option FloatValue :=
  match d.toBinary64? with
  | some x => some (.finite x)
  | none => if d.negative then some (.infinity true) else none

/-- An integer of 64 bits. -/
def integerValue? (n : Int) : Option Value :=
  if -(twoPow 63 : Int) ≤ n ∧ n < twoPow 63 then some (.integer n) else none

/-- A decimal number after its sign, and what follows it. -/
def decimal? (negative : Bool) (text : List Char) : Option (Value × List Char) := do
  let (whole, rest) ← wholeDigits? text
  let fraction := fraction? rest
  let rest := (fraction.map Prod.snd).getD rest
  let exponent := exponent? rest
  let rest := (exponent.map Prod.snd).getD rest
  let value ←
    if fraction.isNone && exponent.isNone then
      let n : Int := Text.digitsValue whole
      integerValue? (if negative then -n else n)
    else
      let fractionDigits := (fraction.map Prod.fst).getD []
      let power := (exponent.map Prod.fst).getD 0
      (floatValue? ⟨negative, Text.digitsValue (whole ++ fractionDigits),
        power - fractionDigits.length⟩).map .float
  some (value, rest)

/-- A digit of a number to a base of at most 16. -/
def isDigitTo (base : Nat) (c : Char) : Bool :=
  (Text.hexDigit? c).any (· < base)

/-- A whole number to another base, and what follows it. -/
def basedInteger? (base : Nat) (text : List Char) : Option (Value × List Char) := do
  let (digits, rest) ← digits? (isDigitTo base) text
  let values ← digits.mapM Text.hexDigit?
  let value ← integerValue? (values.foldl (fun total digit => base * total + digit) 0 : Nat)
  some (value, rest)

/-- A number after its sign, and what follows it. -/
def unsigned? (negative : Bool) (text : List Char) : Option (Value × List Char) :=
  match after? ['i', 'n', 'f'] text, after? ['n', 'a', 'n'] text with
  | some rest, _ => some (.float (.infinity negative), rest)
  | none, some rest => some (.float .notANumber, rest)
  | none, none => decimal? negative text

/-- A number, and what follows it. -/
def number? : List Char → Option (Value × List Char)
  | '+' :: rest => unsigned? false rest
  | '-' :: rest => unsigned? true rest
  | '0' :: 'x' :: rest => basedInteger? 16 rest
  | '0' :: 'o' :: rest => basedInteger? 8 rest
  | '0' :: 'b' :: rest => basedInteger? 2 rest
  | text => unsigned? false text

/-! ### Dates and times -/

/-- What follows a field of some digits whose number satisfies a condition, and the number. -/
def clockField? (width : Nat) (isValid : Nat → Bool) (text : List Char)
    : Option (Nat × List Char) :=
  let digits := text.take width
  let n := Text.digitsValue digits
  if digits.length = width && digits.all Text.isDigit && isValid n then some (n, text.drop width)
  else none

/-- What follows a date. -/
def afterDate? (text : List Char) : Option (List Char) := do
  let (year, rest) ← clockField? 4 (fun _ => true) text
  let rest ← after? ['-'] rest
  let (month, rest) ← clockField? 2 (fun n => 1 ≤ n && n ≤ 12) rest
  let rest ← after? ['-'] rest
  let length ← Calendar.monthLength? year month
  let (_, rest) ← clockField? 2 (fun n => 1 ≤ n && n ≤ length) rest
  some rest

/-- What follows a time of day. -/
def afterTime? (text : List Char) : Option (List Char) := do
  let (_, rest) ← clockField? 2 (· < 24) text
  let rest ← after? [':'] rest
  let (_, rest) ← clockField? 2 (· < 60) rest
  let rest ← after? [':'] rest
  let (_, rest) ← clockField? 2 (· ≤ 60) rest
  match rest with
  | '.' :: more =>
    let digits := more.takeWhile Text.isDigit
    some (if digits.isEmpty then rest else more.drop digits.length)
  | _ => some rest

/-- What follows the offset of a time. -/
def afterOffset? : List Char → Option (List Char)
  | sign :: rest =>
    if sign = 'Z' ∨ sign = 'z' then some rest
    else if sign = '+' ∨ sign = '-' then do
      let (_, rest) ← clockField? 2 (· < 24) rest
      let rest ← after? [':'] rest
      let (_, rest) ← clockField? 2 (· < 60) rest
      some rest
    else none
  | [] => none

/-- What follows a time that stands behind a date, if one does. -/
def skipTime (text : List Char) : List Char :=
  match text with
  | mark :: rest =>
    if mark = 'T' ∨ mark = 't' ∨ mark = ' ' then
      match afterTime? rest with
      | some after => (afterOffset? after).getD after
      | none => text
    else text
  | [] => text

/-- A date, a time or both, and what follows. -/
def dateTime? (text : List Char) : Option (Value × List Char) := do
  let rest ←
    match afterDate? text with
    | some rest => some (skipTime rest)
    | none => afterTime? text
  some (.dateTime (String.ofList (text.take (text.length - rest.length))), rest)

/-! ### Scalars -/

/-- A value that is neither quoted nor made of others, and what follows it. -/
def scalar? (text : List Char) : Option (Value × List Char) :=
  match after? ['t', 'r', 'u', 'e'] text, after? ['f', 'a', 'l', 's', 'e'] text with
  | some rest, _ => some (.boolean true, rest)
  | none, some rest => some (.boolean false, rest)
  | none, none =>
    match dateTime? text with
    | some found => some found
    | none => number? text

end RecordQuery.Toml
