import RecordQuery.Calendar.Basic
import RecordQuery.Text.Blank
import RecordQuery.Text.Numeral

/-! Moments written as text. The timestamp of the Internet standard, with its offset, is tried
first; then dates with a time and without an offset, and then dates alone, which are read as
universal time.
-/

namespace RecordQuery.Calendar

/-- What has been read of a moment. -/
structure Fields where
  date : Date
  time : ClockTime

/-- The start of a day of no date. -/
def Fields.none : Fields := ⟨⟨0, 0, 0⟩, ⟨0, 0, 0, 0⟩⟩

/-- A row of at least `least` and at most `most` digits, and what follows it. -/
def digits? (least most : Nat) (text : List Char) : Option (Nat × List Char) :=
  let digits := (text.take most).takeWhile Text.isDigit
  if digits.length < least then .none else some (Text.digitsValue digits, text.drop digits.length)

/-- Exactly two digits, as the timestamp writes its fields. -/
def twoDigits? : List Char → Option (Nat × List Char) := digits? 2 2

/-- One character, and what follows it. -/
def char? (expected : Char) : List Char → Option (List Char)
  | c :: rest => if c = expected then some rest else .none
  | [] => .none

/-- A fraction of a second, which no part of a date shows: a point and one digit or more. -/
def skipFraction? : List Char → Option (List Char)
  | '.' :: rest => (digits? 1 9 rest).map (fun (_, after) => after.dropWhile Text.isDigit)
  | rest => some rest

/-- The offset of a timestamp in minutes, and what follows it. -/
def offset? : List Char → Option (Int × List Char)
  | [] => .none
  | sign :: rest =>
    if sign = 'Z' ∨ sign = 'z' then some (0, rest)
    else if sign = '+' ∨ sign = '-' ∨ sign = Char.ofNat 0x2212 then do
      let (hours, rest) ← twoDigits? rest
      let rest ← char? ':' rest
      let (minutes, rest) ← twoDigits? rest
      if minutes < 60 then
        let total : Int := (hours * 60 + minutes : Nat)
        some (if sign = '+' then total else -total, rest)
      else .none
    else .none

/-- The fields of a timestamp, with nothing after it. -/
def timestamp? (text : List Char) : Option Fields := do
  let (year, rest) ← digits? 4 4 text
  let rest ← char? '-' rest
  let (month, rest) ← twoDigits? rest
  let rest ← char? '-' rest
  let (day, rest) ← twoDigits? rest
  let rest ←
    match rest with
    | c :: more => if c = 'T' ∨ c = 't' ∨ c = ' ' then some more else .none
    | [] => .none
  let (hour, rest) ← twoDigits? rest
  let rest ← char? ':' rest
  let (minute, rest) ← twoDigits? rest
  let rest ← char? ':' rest
  let (second, rest) ← twoDigits? rest
  let rest ← skipFraction? rest
  let (offset, rest) ← offset? rest
  if rest.isEmpty then some ⟨⟨year, month, day⟩, ⟨hour, minute, second, offset⟩⟩ else .none

/-- A piece of the pattern of a date text. -/
inductive Piece where
  | year
  | month
  | day
  | hour
  | minute
  | second
  | fraction
  | blanks
  | char (expected : Char)

/-- The text after its leading white space. -/
def skipBlanks (text : List Char) : List Char :=
  text.dropWhile Text.isBlank

/-- A field of one or two digits after any white space. -/
def field? (text : List Char) : Option (Nat × List Char) :=
  digits? 1 2 (skipBlanks text)

/-- A year after any white space: up to four digits, or a sign and any number of digits. -/
def year? (text : List Char) : Option (Int × List Char) :=
  match skipBlanks text with
  | '-' :: rest => (digits? 1 rest.length rest).map (fun (n, after) => (-(n : Int), after))
  | '+' :: rest => (digits? 1 rest.length rest).map (fun (n, after) => ((n : Int), after))
  | rest => (digits? 1 4 rest).map (fun (n, after) => ((n : Int), after))

/-- What a piece reads, and what follows it. -/
def Piece.read? (piece : Piece) (fields : Fields) (text : List Char)
    : Option (Fields × List Char) :=
  let date := fields.date
  let time := fields.time
  match piece with
  | .year =>
    (year? text).map (fun (n, rest) => (⟨⟨n, date.month, date.day⟩, time⟩, rest))
  | .month => (field? text).map (fun (n, rest) => (⟨⟨date.year, n, date.day⟩, time⟩, rest))
  | .day => (field? text).map (fun (n, rest) => (⟨⟨date.year, date.month, n⟩, time⟩, rest))
  | .hour =>
    (field? text).map (fun (n, rest) => (⟨date, ⟨n, time.minute, time.second, time.offset⟩⟩, rest))
  | .minute =>
    (field? text).map (fun (n, rest) => (⟨date, ⟨time.hour, n, time.second, time.offset⟩⟩, rest))
  | .second =>
    (field? text).map (fun (n, rest) => (⟨date, ⟨time.hour, time.minute, n, time.offset⟩⟩, rest))
  | .fraction => (skipFraction? text).map (fun rest => (fields, rest))
  | .blanks => some (fields, skipBlanks text)
  | .char expected => (char? expected text).map (fun rest => (fields, rest))

/-- The fields that a pattern reads from a text, with nothing after it. -/
def readPieces? (fields : Fields) (text : List Char) : List Piece → Option Fields
  | [] => if text.isEmpty then some fields else .none
  | piece :: rest =>
    (piece.read? fields text).bind (fun (next, after) => readPieces? next after rest)

/-- The pieces of a date. -/
def datePieces : List Piece :=
  [.year, .char '-', .month, .char '-', .day]

/-- The patterns without an offset, in the order in which they are tried. -/
def patterns : List (List Piece) :=
  let toMinute : List Piece := [.hour, .char ':', .minute]
  let toSecond : List Piece := toMinute ++ [.char ':', .second, .fraction]
  [datePieces ++ [.char 'T'] ++ toSecond, datePieces ++ [.char 'T'] ++ toMinute,
    datePieces ++ [.blanks] ++ toSecond, datePieces ++ [.blanks] ++ toMinute, datePieces]

/-- The moment that some fields stand for. -/
def Fields.moment? (fields : Fields) : Option Moment :=
  Moment.ofClock? fields.date fields.time

/-- The moment that a text stands for, in the first form that fits it. -/
def Moment.read? (text : String) : Option Moment :=
  let trimmed := Text.trim text.toList
  match (timestamp? trimmed).bind Fields.moment? with
  | some moment => some moment
  | .none =>
    patterns.findSome? (fun pattern => (readPieces? .none trimmed pattern).bind Fields.moment?)

end RecordQuery.Calendar
