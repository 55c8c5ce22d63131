import RecordQuery.Calendar.Reader
import RecordQuery.Proofs.Calendar.Moments
import RecordQuery.Proofs.Number.Digits
import RecordQuery.Proofs.Text.Runs
import RecordQuery.Proofs.Text.Words

/-! Moments written as text and read back. A calendar date of the years 0 to 9999 and a time of day
are read as their moment, at the offset that follows them, or in universal time without one. The
fraction of a second is read over: it decides no second.
-/

namespace RecordQuery.Calendar

-----------------------------------------------------------------------------------------
-- Dates and times as they are written
-----------------------------------------------------------------------------------------

/-- The digits of a number, filled up to a width with zeros in front. -/
def padded (width n : Nat) : List Char :=
  List.replicate (width - (Text.digitsOf n).length) '0' ++ Text.digitsOf n

/-- What a calendar and a clock on the wall show: a date of the years 0 to 9999, its month counted
from one, and a time of day. The digits of a fraction of a second may be shown behind it.
-/
structure WallTime where
  year : Nat
  month : Nat
  day : Nat
  hour : Nat
  minute : Nat
  second : Nat
  fraction : List Char
  year_lt : year < 10000
  isMonth : 1 ≤ month ∧ month ≤ 12
  isDay : 1 ≤ day ∧ ∃ length ∈ (monthLengths year)[month - 1]?, day ≤ length
  hour_lt : hour < 24
  minute_lt : minute < 60
  second_lt : second < 60
  isFraction : ∀ c ∈ fraction, Text.isDigit c = true

/-- How far a clock is ahead of universal time or behind it, in hours and minutes. -/
inductive Offset where
  | universal
  | ahead (hours : Fin 24) (minutes : Fin 60)
  | behind (hours : Fin 24) (minutes : Fin 60)

/-- The minutes by which a clock is ahead of universal time. -/
def Offset.minutes : Offset → Int
  | .universal => 0
  | .ahead hours minutes => hours * 60 + minutes
  | .behind hours minutes => -(hours * 60 + minutes)

theorem Offset.minutes_lt (offset : Offset) : -1440 < offset.minutes ∧ offset.minutes < 1440 := by
  cases offset <;> simp only [minutes] <;> omega

def Offset.text : Offset → List Char
  | .universal => ['Z']
  | .ahead hours minutes => '+' :: (padded 2 hours ++ ':' :: padded 2 minutes)
  | .behind hours minutes => '-' :: (padded 2 hours ++ ':' :: padded 2 minutes)

namespace WallTime

def dateText (wall : WallTime) : List Char :=
  padded 4 wall.year ++ '-' :: (padded 2 wall.month ++ '-' :: padded 2 wall.day)

/-- A point and the digits of the fraction, if there are any. -/
def fractionText (wall : WallTime) : List Char :=
  if wall.fraction = [] then [] else '.' :: wall.fraction

def timeText (wall : WallTime) : List Char :=
  padded 2 wall.hour ++ ':' :: (padded 2 wall.minute ++ ':'
    :: (padded 2 wall.second ++ wall.fractionText))

/-- The date and the time with a character between them. -/
def text (wall : WallTime) (separator : Char) : List Char :=
  wall.dateText ++ separator :: wall.timeText

/-- The whole seconds from the start of 1970 in universal time, by a clock at an offset. -/
def seconds (wall : WallTime) (offset : Offset) : Int :=
  (monthStart wall.year (wall.month - 1) + (wall.day - 1 : Nat)) * 86400
    + (wall.hour * 3600 + wall.minute * 60 + wall.second : Nat) - offset.minutes * 60

/-- The milliseconds from the start of 1970, fraction included, rounded down. -/
def milliseconds (wall : WallTime) (offset : Offset) : Int :=
  let scale : Int := 10 ^ wall.fraction.length
  1000 * (wall.seconds offset * scale + Text.digitsValue wall.fraction) / scale

def date (wall : WallTime) : Date :=
  ⟨wall.year, wall.month, wall.day⟩

def clockTime (wall : WallTime) (offset : Int) : ClockTime :=
  ⟨wall.hour, wall.minute, wall.second, offset⟩

end WallTime

-----------------------------------------------------------------------------------------
-- Fields of digits
-----------------------------------------------------------------------------------------

section Fields

variable {width n : Nat}

theorem isDigit_of_mem_padded {c : Char} (h : c ∈ padded width n) : Text.isDigit c = true := by
  rcases List.mem_append.mp h with zero | digit
  · rw [List.eq_of_mem_replicate zero]
    rfl
  · exact Text.isDigit_of_mem_digitsOf digit

theorem isBlank_of_mem_padded {c : Char} (h : c ∈ padded width n) : Text.isBlank c = false :=
  Text.isBlank_of_isDigit (isDigit_of_mem_padded h)

theorem length_padded (pos : 0 < width) (fits : n < 10 ^ width)
    : (padded width n).length = width := by
  have short := (Nat.length_toDigits_le_iff (by decide) pos).mpr fits
  rw [← Text.digitsOf] at short
  rw [padded, List.length_append, List.length_replicate]
  omega

theorem digitsValue_padded (width n : Nat) : Text.digitsValue (padded width n) = n := by
  rw [padded, Text.digitsValue_zeros_append, Text.digitsValue_digitsOf]

/-- A row of as many digits as may be is read whole, whatever follows it. -/
theorem digits?_append {digits : List Char} {least most : Nat}
    (areDigits : ∀ c ∈ digits, Text.isDigit c = true) (full : digits.length = most)
    (enough : least ≤ most) (rest : List Char)
    : digits? least most (digits ++ rest) = some (Text.digitsValue digits, rest) := by
  subst full
  have whole : digits.takeWhile Text.isDigit = digits := by
    simpa using Text.takeWhile_append_of_stops areDigits (Text.stops_nil _)
  simp only [digits?, List.take_left, whole, List.drop_left, if_neg (Nat.not_lt.mpr enough)]

/-- A padded number is read back from its width. -/
theorem digits?_padded {least : Nat} (pos : 0 < width) (fits : n < 10 ^ width)
    (enough : least ≤ width) (rest : List Char)
    : digits? least width (padded width n ++ rest) = some (n, rest) := by
  rw [digits?_append (fun c => isDigit_of_mem_padded) (length_padded pos fits) enough,
    digitsValue_padded]

/-- Whatever may be read of a row of digits, leaving out what is left of it leads to its end. -/
theorem dropWhile_of_digits? {least most value : Nat} {text after : List Char}
    (read : digits? least most text = some (value, after))
    : after.dropWhile Text.isDigit = text.dropWhile Text.isDigit := by
  obtain ⟨tail, split⟩ : (text.take most).takeWhile Text.isDigit <+: text :=
    (List.takeWhile_prefix _).trans (List.take_prefix most text)
  have areDigits : ∀ c ∈ (text.take most).takeWhile Text.isDigit, Text.isDigit c = true :=
    fun c => Text.of_mem_takeWhile
  unfold digits? at read
  generalize (text.take most).takeWhile Text.isDigit = digits at split areDigits read
  dsimp only at read
  split at read
  · cases read
  · simp only [Option.some.injEq, Prod.mk.injEq] at read
    rw [← read.2, ← split, List.drop_left, List.dropWhile_append_of_pos areDigits]

/-- A fraction is read over, where no digit comes behind it. -/
theorem skipFraction?_point {fraction rest : List Char} (nonempty : fraction ≠ [])
    (areDigits : ∀ c ∈ fraction, Text.isDigit c = true) (stops : Text.Stops Text.isDigit rest)
    : skipFraction? ('.' :: (fraction ++ rest)) = some rest := by
  obtain ⟨c, more, digits⟩ := List.exists_cons_of_ne_nil nonempty
  have digit : Text.isDigit c = true := areDigits c (digits ▸ List.mem_cons_self)
  obtain ⟨⟨value, after⟩, read⟩ : ∃ found, digits? 1 9 (fraction ++ rest) = some found := by
    simp [digits?, digits, digit]
  have skipped : after.dropWhile Text.isDigit = rest :=
    (dropWhile_of_digits? read).trans (Text.dropWhile_append_of_stops areDigits stops)
  simp only [skipFraction?, read, Option.map_some, skipped]

/-- What does not start with a point has no fraction. -/
theorem skipFraction?_of_head?_ne {text : List Char} (noPoint : text.head? ≠ some '.')
    : skipFraction? text = some text := by
  unfold skipFraction?
  split
  · exact absurd rfl noPoint
  · rfl

theorem twoDigits?_padded (fits : n < 100) (rest : List Char)
    : twoDigits? (padded 2 n ++ rest) = some (n, rest) :=
  digits?_padded (by decide) fits (by decide) rest

theorem padded_eq_cons (pos : 0 < width) (fits : n < 10 ^ width)
    : ∃ c more, padded width n = c :: more ∧ Text.isDigit c = true := by
  have length := length_padded pos fits
  obtain ⟨c, more, digits⟩ : ∃ c more, padded width n = c :: more :=
    List.exists_cons_of_length_pos (by omega)
  exact ⟨c, more, digits, isDigit_of_mem_padded (digits ▸ List.mem_cons_self)⟩

/-- No white space comes before a padded number. -/
theorem skipBlanks_padded (pos : 0 < width) (fits : n < 10 ^ width) (rest : List Char)
    : skipBlanks (padded width n ++ rest) = padded width n ++ rest := by
  obtain ⟨c, more, digits, digit⟩ := padded_eq_cons pos fits
  have solid := Text.isBlank_of_isDigit digit
  simp [skipBlanks, digits, solid]

theorem field?_padded (fits : n < 100) (rest : List Char)
    : field? (padded 2 n ++ rest) = some (n, rest) := by
  rw [field?, skipBlanks_padded (by decide) fits, digits?_padded (by decide) fits (by decide)]

theorem year?_padded (fits : n < 10000) (rest : List Char)
    : year? (padded 4 n ++ rest) = some ((n : Int), rest) := by
  have read : digits? 1 4 (padded 4 n ++ rest) = some (n, rest) :=
    digits?_padded (by decide) fits (by decide) rest
  obtain ⟨c, more, digits, digit⟩ := padded_eq_cons (by decide : 0 < 4) fits
  rw [year?, skipBlanks_padded (by decide) fits]
  rw [digits, List.cons_append] at read ⊢
  split
  · next minus => exact absurd ((List.cons.inj minus).1 ▸ digit) (by decide)
  · next plus => exact absurd ((List.cons.inj plus).1 ▸ digit) (by decide)
  · rw [read]
    rfl

@[simp]
theorem char?_cons (c : Char) (rest : List Char) : char? c (c :: rest) = some rest := by
  rw [char?, if_pos rfl]

end Fields

theorem readPieces?_cons (piece : Piece) (rest : List Piece) (fields : Fields) (text : List Char)
    : readPieces? fields text (piece :: rest)
      = (piece.read? fields text).bind (fun read => readPieces? read.1 read.2 rest) := rfl

/-- The pieces of a time to the second. -/
def secondPieces : List Piece :=
  [.hour, .char ':', .minute, .char ':', .second, .fraction]

/-- The pieces of a time to the minute. -/
def minutePieces : List Piece :=
  [.hour, .char ':', .minute]

theorem patterns_eq
    : patterns = [datePieces ++ .char 'T' :: secondPieces, datePieces ++ .char 'T' :: minutePieces,
        datePieces ++ .blanks :: secondPieces, datePieces ++ .blanks :: minutePieces, datePieces] :=
  rfl

theorem monthLength_le {year : Int} {length : Nat} (member : length ∈ monthLengths year)
    : length ≤ 31 := by
  cases leap : isLeap year <;> simp [monthLengths, leap] at member <;> omega

/-- Hours and minutes behind a sign are read as an offset. -/
theorem offset?_sign {sign : Char} (isSign : sign = '+' ∨ sign = '-') (hours : Fin 24)
    (minutes : Fin 60) (rest : List Char)
    : offset? (sign :: (padded 2 hours ++ ':' :: (padded 2 minutes ++ rest)))
      = some (if sign = '+' then ((hours * 60 + minutes : Nat) : Int)
          else -((hours * 60 + minutes : Nat) : Int),
        rest) := by
  have notLetter : ¬ (sign = 'Z' ∨ sign = 'z') := by
    rcases isSign with rfl | rfl <;> decide
  have signed : sign = '+' ∨ sign = '-' ∨ sign = Char.ofNat 0x2212 := isSign.imp_right .inl
  have readHours := twoDigits?_padded (Nat.lt_trans hours.isLt (by decide : 24 < 100))
  have readMinutes := twoDigits?_padded (Nat.lt_trans minutes.isLt (by decide : 60 < 100))
  simp only [offset?, if_neg notLetter, if_pos signed, readHours, readMinutes, char?_cons,
    Option.bind_eq_bind, Option.bind_some, if_pos minutes.isLt]

theorem offset?_text (offset : Offset) (rest : List Char)
    : offset? (offset.text ++ rest) = some (offset.minutes, rest) := by
  cases offset with
  | universal => rfl
  | ahead hours minutes =>
      rw [Offset.text, List.cons_append, List.append_assoc, List.cons_append,
        offset?_sign (.inl rfl), if_pos rfl]
      rfl
  | behind hours minutes =>
      rw [Offset.text, List.cons_append, List.append_assoc, List.cons_append,
        offset?_sign (.inr rfl), if_neg (by decide)]
      rfl

namespace Offset

variable (offset : Offset)

theorem stops_text : Text.Stops Text.isDigit offset.text := by
  cases offset <;> exact Text.stops_cons (by decide) _

theorem head?_text : offset.text.head? ≠ some '.' := by
  cases offset <;> simp [text]

theorem isBlank_of_mem_text {c : Char} (h : c ∈ offset.text) : Text.isBlank c = false := by
  cases offset with
  | universal =>
      rw [List.mem_singleton.mp h]
      rfl
  | ahead hours minutes | behind hours minutes =>
      simp only [text, List.mem_cons, List.mem_append] at h
      rcases h with rfl | hours | rfl | minutes
      · rfl
      · exact isBlank_of_mem_padded hours
      · rfl
      · exact isBlank_of_mem_padded minutes

end Offset

-----------------------------------------------------------------------------------------
-- Texts are read as what was written
-----------------------------------------------------------------------------------------

namespace WallTime

variable (wall : WallTime)

/-- The month, the day and the fields of the clock have two digits at most. -/
theorem fields_lt
    : wall.month < 100 ∧ wall.day < 100 ∧ wall.hour < 100 ∧ wall.minute < 100
      ∧ wall.second < 100 := by
  obtain ⟨_, length, found, within⟩ := wall.isDay
  have short : length ≤ 31 := monthLength_le (List.mem_of_getElem? found)
  have month := wall.isMonth
  have hour := wall.hour_lt
  have minute := wall.minute_lt
  have second := wall.second_lt
  omega

/-- The fraction is read over, where no digit and no other point comes behind it. -/
theorem skipFraction?_append {rest : List Char} (stops : Text.Stops Text.isDigit rest)
    (noPoint : rest.head? ≠ some '.')
    : skipFraction? (wall.fractionText ++ rest) = some rest := by
  unfold fractionText
  split
  · exact skipFraction?_of_head?_ne noPoint
  · next nonempty => exact skipFraction?_point nonempty wall.isFraction stops

/-- A timestamp is what is written with one of three characters before the time, and behind it an
offset and nothing else.
-/
theorem timestamp?_append (separator : Char) {rest : List Char}
    (stops : Text.Stops Text.isDigit rest) (noPoint : rest.head? ≠ some '.')
    : timestamp? (wall.text separator ++ rest)
      = if separator = 'T' ∨ separator = 't' ∨ separator = ' ' then
          (offset? rest).bind (fun (offset, after) =>
            if after.isEmpty then some ⟨wall.date, wall.clockTime offset⟩ else none)
        else none := by
  obtain ⟨month, day, hour, minute, second⟩ := wall.fields_lt
  have readYear (rest : List Char)
      : digits? 4 4 (padded 4 wall.year ++ rest) = some (wall.year, rest) :=
    digits?_padded (by decide) wall.year_lt (Nat.le_refl 4) rest
  have readMonth := twoDigits?_padded month
  have readDay := twoDigits?_padded day
  have readHour := twoDigits?_padded hour
  have readMinute := twoDigits?_padded minute
  have readSecond := twoDigits?_padded second
  have readFraction := wall.skipFraction?_append stops noPoint
  have whole : wall.text separator ++ rest
      = padded 4 wall.year ++ '-' :: (padded 2 wall.month ++ '-' :: (padded 2 wall.day ++ separator
        :: (padded 2 wall.hour ++ ':' :: (padded 2 wall.minute ++ ':'
        :: (padded 2 wall.second ++ (wall.fractionText ++ rest)))))) := by
    simp only [text, dateText, timeText, List.append_assoc, List.cons_append]
  rw [whole]
  simp only [timestamp?, readYear, readMonth, readDay, char?_cons, Option.bind_eq_bind,
    Option.bind_some]
  split
  · simp only [readHour, readMinute, readSecond, readFraction, char?_cons, Option.bind_some]
    rfl
  · rfl

/-- The pieces of a date read the date, whatever follows it. -/
theorem readPieces?_date (fields : Fields) (rest : List Char) (more : List Piece)
    : readPieces? fields (wall.dateText ++ rest) (datePieces ++ more)
      = readPieces? ⟨wall.date, fields.time⟩ rest more := by
  obtain ⟨month, day, _⟩ := wall.fields_lt
  simp only [datePieces, dateText, List.append_assoc, List.cons_append, List.nil_append,
    readPieces?_cons, Piece.read?, year?_padded wall.year_lt, field?_padded month,
    field?_padded day, char?_cons, Option.map_some, Option.bind_some]
  rfl

/-- The pieces of a time to the second read the time. -/
theorem readPieces?_time (fields : Fields)
    : readPieces? fields wall.timeText secondPieces
      = some ⟨fields.date, wall.clockTime fields.time.offset⟩ := by
  obtain ⟨_, _, hour, minute, second⟩ := wall.fields_lt
  have readFraction := wall.skipFraction?_append (Text.stops_nil _) (by simp)
  rw [List.append_nil] at readFraction
  simp only [timeText, secondPieces, readPieces?_cons, Piece.read?, field?_padded hour,
    field?_padded minute, field?_padded second, readFraction, char?_cons, Option.map_some,
    Option.bind_some]
  rfl

theorem isValid_date : wall.date.isValid = true := by
  obtain ⟨first, length, found, within⟩ := wall.isDay
  have year := wall.year_lt
  have month := wall.isMonth
  have there : monthLength? wall.date.year wall.date.month = some length :=
    (if_neg (Nat.ne_of_gt month.1)).trans found
  -- the conditions become propositions before the date is unfolded in them
  simp only [Date.isValid, there, Bool.and_eq_true, decide_eq_true_eq]
  simp only [date, firstYear, lastYear]
  omega

theorem isValid_clockTime (offset : Offset) : (wall.clockTime offset.minutes).isValid = true := by
  have hour := wall.hour_lt
  have minute := wall.minute_lt
  have second := wall.second_lt
  have shift := offset.minutes_lt
  simp only [ClockTime.isValid, Bool.and_eq_true, decide_eq_true_eq]
  simp only [clockTime]
  omega

/-- The moment of what was read is the second that was written. -/
theorem moment?_eq (offset : Offset)
    : Fields.moment? ⟨wall.date, wall.clockTime offset.minutes⟩
      = some (.ofSeconds (wall.seconds offset)) := by
  have noLeap : min wall.second 59 = wall.second :=
    Nat.min_eq_left (Nat.le_of_lt_succ wall.second_lt)
  rw [Fields.moment?, Moment.ofClock?, wall.isValid_date, wall.isValid_clockTime, Date.number_eq]
  simp only [Bool.and_self, ↓reduceIte, clockTime, date, noLeap, seconds, daySeconds]
  rfl

theorem isBlank_of_mem_timeText {c : Char} (h : c ∈ wall.timeText) : Text.isBlank c = false := by
  have fraction : c ∈ wall.fractionText → Text.isBlank c = false := by
    intro h
    unfold fractionText at h
    split at h
    · cases h
    · rcases List.mem_cons.mp h with rfl | digit
      · rfl
      · exact Text.isBlank_of_isDigit (wall.isFraction c digit)
  simp only [timeText, List.mem_append, List.mem_cons] at h
  rcases h with hour | rfl | minute | rfl | second | more
  · exact isBlank_of_mem_padded hour
  · rfl
  · exact isBlank_of_mem_padded minute
  · rfl
  · exact isBlank_of_mem_padded second
  · exact fraction more

/-- White space is found neither before the date nor behind the time and its offset. -/
theorem isTrimmed_text (separator : Char) {rest : List Char}
    (solid : ∀ c ∈ rest, Text.isBlank c = false)
    : Text.IsTrimmed (wall.text separator ++ rest) := by
  constructor
  · obtain ⟨c, more, digits, digit⟩ := padded_eq_cons (by decide : 0 < 4) wall.year_lt
    have starts : (wall.text separator ++ rest).head? = some c := by
      simp [text, dateText, digits]
    rw [starts]
    rintro _ ⟨⟩
    exact Text.isBlank_of_isDigit digit
  · have whole : wall.text separator ++ rest
        = wall.dateText ++ [separator] ++ (wall.timeText ++ rest) := by
      simp [text]
    have nonempty : wall.timeText ++ rest ≠ [] := by
      simp [timeText]
    rw [whole, List.getLast?_append_of_ne_nil _ nonempty]
    intro c last
    rcases List.mem_append.mp (List.mem_of_getLast? last) with time | behind
    · exact wall.isBlank_of_mem_timeText time
    · exact solid c behind

/-- The timestamp with its offset is read in full. -/
theorem timestamp?_text (offset : Offset)
    : timestamp? (wall.text 'T' ++ offset.text)
      = some ⟨wall.date, wall.clockTime offset.minutes⟩ := by
  have read := offset?_text offset []
  rw [List.append_nil] at read
  rw [wall.timestamp?_append 'T' offset.stops_text offset.head?_text, if_pos (.inl rfl), read]
  rfl

/-- Without an offset there is no timestamp. -/
theorem timestamp?_text_eq_none (separator : Char) : timestamp? (wall.text separator) = none := by
  have read := wall.timestamp?_append separator (Text.stops_nil _) (by simp)
  rw [List.append_nil] at read
  rw [read]
  split <;> rfl

theorem read?_timestamp (offset : Offset)
    : Moment.read? (String.ofList (wall.text 'T' ++ offset.text))
      = some (.ofSeconds (wall.seconds offset)) := by
  have trimmed := wall.isTrimmed_text 'T' (fun c => offset.isBlank_of_mem_text)
  rw [Moment.read?, String.toList_ofList, trimmed.trim_eq, wall.timestamp?_text, Option.bind_some,
    wall.moment?_eq]

/-- Behind the date, a pattern goes on with what stands between it and the time. -/
theorem readPieces?_text (separator : Char) (pieces : List Piece)
    : readPieces? .none (wall.text separator) (datePieces ++ pieces)
      = readPieces? ⟨wall.date, Fields.none.time⟩ (separator :: wall.timeText) pieces :=
  wall.readPieces?_date .none _ pieces

/-- A pattern with a letter before the time fits the text with the letter there. -/
theorem readPieces?_letter
    : readPieces? .none (wall.text 'T') (datePieces ++ .char 'T' :: secondPieces)
      = some ⟨wall.date, wall.clockTime 0⟩ := by
  rw [wall.readPieces?_text, readPieces?_cons, Piece.read?, char?_cons, Option.map_some,
    Option.bind_some]
  exact wall.readPieces?_time _

theorem readPieces?_letter_eq_none {separator : Char} (other : separator ≠ 'T')
    (pieces : List Piece)
    : readPieces? .none (wall.text separator) (datePieces ++ .char 'T' :: pieces) = none := by
  rw [wall.readPieces?_text, readPieces?_cons, Piece.read?, char?, if_neg other, Option.map_none,
    Option.bind_none]

/-- A pattern with white space before the time fits the text with white space there. -/
theorem readPieces?_blank {separator : Char} (blank : Text.isBlank separator = true)
    : readPieces? .none (wall.text separator) (datePieces ++ .blanks :: secondPieces)
      = some ⟨wall.date, wall.clockTime 0⟩ := by
  have skipped : skipBlanks (separator :: wall.timeText) = wall.timeText := by
    have noBlank := skipBlanks_padded (by decide : 0 < 2) wall.fields_lt.2.2.1
    rw [skipBlanks, List.dropWhile_cons_of_pos blank, ← skipBlanks, timeText, noBlank]
  rw [wall.readPieces?_text, readPieces?_cons, Piece.read?, Option.bind_some, skipped]
  exact wall.readPieces?_time _

/-- A date and a time without an offset are read as universal time. -/
theorem read?_text {separator : Char} (between : separator = 'T' ∨ Text.isBlank separator = true)
    : Moment.read? (String.ofList (wall.text separator))
      = some (.ofSeconds (wall.seconds .universal)) := by
  have trimmed : Text.IsTrimmed (wall.text separator ++ []) :=
    wall.isTrimmed_text separator (fun _ none => absurd none List.not_mem_nil)
  have moment := wall.moment?_eq .universal
  rw [List.append_nil] at trimmed
  rw [Offset.minutes] at moment
  rw [Moment.read?, String.toList_ofList, trimmed.trim_eq, wall.timestamp?_text_eq_none,
    Option.bind_none, patterns_eq]
  dsimp only
  rcases between with rfl | blank
  · rw [List.findSome?_cons, wall.readPieces?_letter, Option.bind_some, moment]
  · have other : separator ≠ 'T' := by
      rintro rfl
      exact absurd blank (by decide)
    rw [List.findSome?_cons, wall.readPieces?_letter_eq_none other, Option.bind_none,
      List.findSome?_cons, wall.readPieces?_letter_eq_none other, Option.bind_none,
      List.findSome?_cons, wall.readPieces?_blank blank, Option.bind_some, moment]

-----------------------------------------------------------------------------------------
-- The milliseconds of what was written
-----------------------------------------------------------------------------------------

/-- The fraction is less than a second, so rounding down to seconds leaves it out. -/
theorem milliseconds_div (offset : Offset)
    : wall.milliseconds offset / 1000 = wall.seconds offset := by
  have below := Text.digitsValue_lt wall.isFraction
  have pos : 0 < (10 : Int) ^ wall.fraction.length := Int.pow_pos (by decide)
  have least : 0 ≤ (Text.digitsValue wall.fraction : Int) := Int.natCast_nonneg _
  have most : (Text.digitsValue wall.fraction : Int) < 10 ^ wall.fraction.length := by
    exact_mod_cast below
  rw [milliseconds, Int.ediv_ediv_of_nonneg (Int.le_of_lt pos),
    Int.mul_comm (10 ^ wall.fraction.length) 1000, Int.mul_ediv_mul_of_pos _ _ (by decide),
    Int.add_comm, Int.add_mul_ediv_right _ _ (Int.ne_of_gt pos), Int.ediv_eq_zero_of_lt least most,
    Int.zero_add]

/-- Moments reach every date of the years 0 to 9999, at every offset. -/
theorem isReached_milliseconds (offset : Offset) : Moment.IsReached (wall.milliseconds offset) := by
  have whole := wall.milliseconds_div offset
  obtain ⟨_, day, _⟩ := wall.fields_lt
  have year := wall.year_lt
  have month := wall.isMonth
  have hour := wall.hour_lt
  have minute := wall.minute_lt
  have second := wall.second_lt
  have shift := offset.minutes_lt
  have first : yearStart 0 ≤ yearStart wall.year := yearStart_mono (Int.natCast_nonneg _)
  have last : yearStart (wall.year + 1) ≤ yearStart 10000 := yearStart_mono (by omega)
  have begun : monthStart wall.year 0 ≤ monthStart wall.year (wall.month - 1) :=
    monthStart_mono _ (Nat.zero_le _)
  have notOver : monthStart wall.year (wall.month - 1) ≤ monthStart wall.year 12 :=
    monthStart_mono _ (by omega)
  rw [monthStart_zero] at begun
  rw [monthStart_twelve] at notOver
  rw [show yearStart 0 = -719528 from rfl] at first
  rw [show yearStart 10000 = 2932897 from rfl] at last
  unfold seconds at whole
  unfold Moment.IsReached
  omega

end WallTime

end RecordQuery.Calendar
