import Sift.Binary64.Numeral
import Sift.Calendar.Timestamp
import Sift.Text.Blank

/-!
# Reading timestamps

`Timestamp.ofText?` reads a text, blanks around it aside, in one of these ways:

* a day alone, which means its midnight;
* the internet format: fields of a fixed width, the day and the time joined by `T`, `t` or a space,
  and an offset from universal time, which is checked and then dropped;
* a day and a time joined by blanks or a `T`, the time with or without seconds, and seconds with or
  without a fraction. Here fields may be short, and each may have blanks before it.

A fraction keeps nine digits; further ones are read and dropped.
-/

namespace Sift.Timestamp

/-! ### Pieces of text -/

def digits? (least most : Nat) (cs : List Char) : Option (Nat × List Char) :=
  let ds := (cs.take most).takeWhile Char.isDigit
  if ds.length < least then none else some (Binary64.digitsValue ds, cs.drop ds.length)

def literal? (c : Char) : List Char → Option (List Char)
  | [] => none
  | d :: cs => if d = c then some cs else none

/-- Reads a field of one or two digits, blanks before it aside. -/
def field? (cs : List Char) : Option (Nat × List Char) := digits? 1 2 (Text.trimStart cs)

/-- Reads a year, blanks before it aside: up to four digits, or a sign and any number of digits. -/
def year? (cs : List Char) : Option (Int × List Char) :=
  match Text.trimStart cs with
  | '-' :: rest => (digits? 1 rest.length rest).map fun (n, more) => (-(n : Int), more)
  | '+' :: rest => (digits? 1 rest.length rest).map fun (n, more) => ((n : Int), more)
  | rest => (digits? 1 4 rest).map fun (n, more) => ((n : Int), more)

/-- Reads the fraction of a second in nanoseconds, if there is a point. -/
def fraction? : List Char → Option (Nat × List Char)
  | '.' :: cs =>
    let ds := (cs.take 9).takeWhile Char.isDigit
    if ds.isEmpty then none
    else some (Binary64.digitsValue ds * Nat.pow 10 (9 - ds.length), cs.dropWhile Char.isDigit)
  | cs => some (0, cs)

def date? (cs : List Char) : Option (Date × List Char) := do
  let (year, cs) ← year? cs
  let cs ← literal? '-' cs
  let (month, cs) ← field? cs
  let cs ← literal? '-' cs
  let (day, cs) ← field? cs
  let d ← Date.of? year month day
  return (d, cs)

/-! ### The ways to write a timestamp -/

def ofDateText? (cs : List Char) : Option Timestamp := do
  let (d, rest) ← date? cs
  if rest.isEmpty then some ⟨d, .midnight⟩ else none

def blanks? (cs : List Char) : Option (List Char) := some (Text.trimStart cs)

def ofFields? (separator? : List Char → Option (List Char)) (withSeconds : Bool)
    (cs : List Char) : Option Timestamp := do
  let (d, cs) ← date? cs
  let cs ← separator? cs
  let (hour, cs) ← field? cs
  let cs ← literal? ':' cs
  let (minute, cs) ← field? cs
  if withSeconds then
    let cs ← literal? ':' cs
    let (second, cs) ← field? cs
    let (nano, cs) ← fraction? cs
    let t ← TimeOfDay.of? hour minute second nano
    if cs.isEmpty then some ⟨d, t⟩ else none
  else
    let t ← TimeOfDay.of? hour minute 0 0
    if cs.isEmpty then some ⟨d, t⟩ else none

/-- Whether `cs` is an offset from universal time, less than a day either way. -/
def isOffset : List Char → Bool
  | ['Z'] | ['z'] => true
  | [sign, h₁, h₂, ':', m₁, m₂] =>
    (sign == '+' || sign == '-' || sign == '\u2212')
      && [h₁, h₂, m₁, m₂].all Char.isDigit
      && Binary64.digitsValue [h₁, h₂] ≤ 23 && Binary64.digitsValue [m₁, m₂] ≤ 59
  | _ => false

def internetSeparator? : List Char → Option (List Char)
  | 'T' :: cs | 't' :: cs | ' ' :: cs => some cs
  | _ => none

/-- The internet format, its offset dropped. -/
def ofInternetText? (cs : List Char) : Option Timestamp := do
  let (year, cs) ← digits? 4 4 cs
  let cs ← literal? '-' cs
  let (month, cs) ← digits? 2 2 cs
  let cs ← literal? '-' cs
  let (day, cs) ← digits? 2 2 cs
  let cs ← internetSeparator? cs
  let (hour, cs) ← digits? 2 2 cs
  let cs ← literal? ':' cs
  let (minute, cs) ← digits? 2 2 cs
  let cs ← literal? ':' cs
  let (second, cs) ← digits? 2 2 cs
  let (nano, cs) ← fraction? cs
  let d ← Date.of? year month day
  let t ← TimeOfDay.of? hour minute second nano
  if isOffset cs then some ⟨d, t⟩ else none

def ofChars? (cs : List Char) : Option Timestamp :=
  -- Each of the readers must come to the end of the text, or the next one is tried.
  (ofDateText? cs).or <| (ofInternetText? cs).or <|
    (ofFields? blanks? true cs).or <| (ofFields? (literal? 'T') true cs).or <|
      (ofFields? blanks? false cs).or (ofFields? (literal? 'T') false cs)

/-- The timestamp a text writes, blanks around it aside. -/
def ofText? (s : String) : Option Timestamp := ofChars? (Text.trim s.toList)

end Sift.Timestamp

namespace Sift.Date

/-- The calendar day of the timestamp a text writes. -/
def ofText? (s : String) : Option Date := (Timestamp.ofText? s).map Timestamp.date

end Sift.Date
