import TextAdventure.Toml.Value

/-!
# Numbers, dates and truth values in TOML

A word of letters, digits, signs, points and colons is a truth value, a number, a date or a time, or
it means nothing.  Digits may be parted by single underscores.
-/

namespace TextAdventure.Toml

/-- A decimal digit. -/
def isDigit (c : Char) : Bool :=
  '0' ≤ c && c ≤ '9'

/-- The digits of a number without the underscores that part them. -/
def ungroup? (ok : Char → Bool) : List Char → Option (List Char)
  | [] => none
  | [c] => if ok c then some [c] else none
  | c :: d :: rest =>
    if ! ok c then none
    else if d = '_' then (ungroup? ok rest).map (c :: ·)
    else (ungroup? ok (d :: rest)).map (c :: ·)

/-- The value of digits in a base. -/
def ofDigits (base : Nat) (digits : List Char) : Nat :=
  digits.foldl (fun n c => n * base +
    (if isDigit c then c.toNat - '0'.toNat
     else if 'a' ≤ c then c.toNat - 'a'.toNat + 10
     else c.toNat - 'A'.toNat + 10)) 0

/-- The sign of a number, and what follows it. -/
def takeSign : List Char → Bool × List Char
  | '+' :: rest => (false, rest)
  | '-' :: rest => (true, rest)
  | cs => (false, cs)

/-- The digits of a whole number, which begins with zero only if it is zero. -/
def wholeDigits? (cs : List Char) : Option (List Char) :=
  match cs with
  | '0' :: _ :: _ => none
  | cs => ungroup? isDigit cs

/-- A number that fits into a signed word of 64 bits. -/
def inWord? (n : Int) : Option Int :=
  if -0x8000000000000000 ≤ n && n < 0x8000000000000000 then some n else none

/-- A digit in base sixteen. -/
def isHexDigit (c : Char) : Bool :=
  isDigit c || ('a' ≤ c && c ≤ 'f') || ('A' ≤ c && c ≤ 'F')

/-- The value of a whole number, in base ten, or in another base without a sign. -/
def integer? (word : List Char) : Option Int :=
  match word with
  | '0' :: 'x' :: rest => do inWord? (ofDigits 16 (← ungroup? isHexDigit rest))
  | '0' :: 'o' :: rest =>
    do inWord? (ofDigits 8 (← ungroup? (fun c => '0' ≤ c && c ≤ '7') rest))
  | '0' :: 'b' :: rest => do inWord? (ofDigits 2 (← ungroup? (fun c => c = '0' || c = '1') rest))
  | word => do
    let (negative, digits) := takeSign word
    let n : Int := ofDigits 10 (← wholeDigits? digits)
    inWord? (if negative then -n else n)

/-- The least number that is rounded up to infinity in 64 bits. -/
def overflowBound : Nat := Nat.pow 2 1024 - Nat.pow 2 970

/-- A mantissa with so many powers of ten reaches the overflow bound.  Far from the bound, the
number of digits decides. -/
def overflows (mantissa : Nat) (exponent : Int) : Bool :=
  let size := (Nat.toDigits 10 mantissa).length
  if mantissa = 0 then false
  else if 400 < size + exponent then true
  else if size + exponent < 300 then false
  else if 0 ≤ exponent then overflowBound ≤ mantissa * Nat.pow 10 exponent.toNat
  else overflowBound * Nat.pow 10 (-exponent).toNat ≤ mantissa

/-- A floating-point number with these parts does not overflow: digits before and after the point,
and the exponent. -/
def isFinite (whole fraction exponent : List Char) : Bool :=
  let (negative, digits) := takeSign exponent
  let power : Int := ofDigits 10 digits
  ! overflows (ofDigits 10 (whole ++ fraction))
    ((if negative then -power else power) - fraction.length)

/-- The digits of an exponent with its sign. -/
def exponent? (cs : List Char) : Option (List Char) :=
  match cs with
  | '+' :: rest => ungroup? isDigit rest
  | '-' :: rest => (ungroup? isDigit rest).map ('-' :: ·)
  | cs => ungroup? isDigit cs

/-- The word is a floating-point number: it has a point or an exponent and is not too large, or it
is infinity or not a number. -/
def isFloat (word : List Char) : Bool :=
  let (negative, body) := takeSign word
  let isE (c : Char) : Bool := c = 'e' || c = 'E'
  let mantissa := body.takeWhile (! isE ·)
  let whole := mantissa.takeWhile (· ≠ '.')
  let fraction? := match mantissa.dropWhile (· ≠ '.') with
    | [] => some []
    | _ :: digits => ungroup? isDigit digits
  let exponent := match body.dropWhile (! isE ·) with
    | [] => some ['0']
    | _ :: digits => exponent? digits
  if body = ['i', 'n', 'f'] || body = ['n', 'a', 'n'] then true
  else if body.all fun c => ! isE c && c ≠ '.' then false
  else
    match wholeDigits? whole, fraction?, exponent with
    | some whole, some fraction, some exponent => negative || isFinite whole fraction exponent
    | _, _, _ => false

/-- The days of a month. -/
def daysInMonth (year month : Nat) : Nat :=
  if month = 2 then
    if year % 4 = 0 && (year % 100 ≠ 0 || year % 400 = 0) then 29 else 28
  else if month = 4 || month = 6 || month = 9 || month = 11 then 30
  else 31

/-- Takes a number of exactly `width` digits, no greater than `most`, off the front. -/
def takeDigits (width most : Nat) (cs : List Char) : Option (Nat × List Char) :=
  let digits := cs.take width
  if digits.length = width && digits.all isDigit && ofDigits 10 digits ≤ most then
    some (ofDigits 10 digits, cs.drop width)
  else none

/-- Takes a character off the front. -/
def takeChar (c : Char) : List Char → Option (List Char)
  | [] => none
  | d :: rest => if c = d then some rest else none

/-- Takes a date off the front: a year, a month, and a day that the month has. -/
def takeDate (cs : List Char) : Option (List Char) := do
  let (year, cs) ← takeDigits 4 9999 cs
  let cs ← takeChar '-' cs
  let (month, cs) ← takeDigits 2 12 cs
  let cs ← takeChar '-' cs
  let (day, cs) ← takeDigits 2 (daysInMonth year month) cs
  if 1 ≤ month && 1 ≤ day then some cs else none

/-- Takes a time of day off the front: an hour, a minute, a second, and parts of a second. -/
def takeTime (cs : List Char) : Option (List Char) := do
  let (_, cs) ← takeDigits 2 23 cs
  let cs ← takeChar ':' cs
  let (_, cs) ← takeDigits 2 59 cs
  let cs ← takeChar ':' cs
  let (_, cs) ← takeDigits 2 60 cs
  match cs with
  | '.' :: c :: rest => if isDigit c then some (rest.dropWhile isDigit) else none
  | cs => some cs

/-- A text is empty, or it is the distance of a time from universal time. -/
def isOffset (cs : List Char) : Bool :=
  match cs with
  | [] | ['Z'] | ['z'] => true
  | sign :: cs =>
    (sign = '+' || sign = '-') &&
      (do
        let (_, cs) ← takeDigits 2 23 cs
        let cs ← takeChar ':' cs
        let (_, cs) ← takeDigits 2 59 cs
        some cs) == some []

/-- The word is a date, a time of day, or a date with a time of day behind a `T` or a space. -/
def isDatetime (word : List Char) : Bool :=
  match takeDate word with
  | some [] => true
  | some (mark :: rest) =>
    (mark = 'T' || mark = 't' || mark = ' ') && (takeTime rest).any isOffset
  | none => takeTime word == some []

/-- A character of a word that is not quoted. -/
def isWordChar (c : Char) : Bool :=
  isDigit c || ('a' ≤ c && c ≤ 'z') || ('A' ≤ c && c ≤ 'Z') ||
    c = '_' || c = '+' || c = '-' || c = '.' || c = ':'

/-- Takes a word off the front.  A date reaches over a space to the time of day behind it. -/
def takeWord (cs : List Char) : List Char × List Char :=
  let word := cs.takeWhile isWordChar
  match takeDate word, cs.dropWhile isWordChar with
  | some [], ' ' :: d :: rest =>
    if isDigit d then
      (word ++ ' ' :: (d :: rest).takeWhile isWordChar, (d :: rest).dropWhile isWordChar)
    else (word, ' ' :: d :: rest)
  | _, rest => (word, rest)

/-- The value of a word that is not quoted. -/
def scalar? (word : List Char) : Option Value :=
  if word = "true".toList then some (.boolean true)
  else if word = "false".toList then some (.boolean false)
  else if isDatetime word then some (.datetime (String.ofList word))
  else if isFloat word then some (.float (String.ofList word))
  else (integer? word).map .integer

end TextAdventure.Toml
