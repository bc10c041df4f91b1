import SceneGrammar.Decimal.Shortest

/-!
# Layouts

How a decimal is set in type: with a point among its digits, or as a mantissa with an exponent.
A layout is a record of these decisions, and a number of a document is written by one of them.
-/

namespace SceneGrammar.Decimal

/-- The decisions of a number format. -/
structure Layout where
  /-- The exponents of the leading digit that are written without an exponent. -/
  positional : Int → Bool
  /-- Whether a whole number ends in a point and a zero when written without an exponent. -/
  pointZero : Bool
  /-- Whether an exponent that is not negative has a sign. -/
  plusSign : Bool
  /-- Where halves go among the digits. -/
  tie : Tie

/-- The exponent of the leading digit. -/
def leading (d : Decimal) : Int := (digits d.significand).length - 1 + d.exponent

/-- Digits with a point among, before or after them. -/
def positionalText (pointZero : Bool) (d : Decimal) : List Char :=
  let ds := digits d.significand
  let whole := ds.length + d.exponent
  if 0 ≤ d.exponent then
    ds ++ List.replicate d.exponent.toNat '0' ++ if pointZero then ['.', '0'] else []
  else if 0 < whole then ds.take whole.toNat ++ '.' :: ds.drop whole.toNat
  else '0' :: '.' :: List.replicate (-whole).toNat '0' ++ ds

/-- One digit, the others after a point, and the exponent of the first. -/
def scientificText (plusSign : Bool) (d : Decimal) : List Char :=
  let mantissa := match digits d.significand with
    | [] => []
    | [c] => [c]
    | c :: cs => c :: '.' :: cs
  let e := d.leading
  let sign := if e < 0 then ['-'] else if plusSign then ['+'] else []
  mantissa ++ 'e' :: sign ++ digits e.natAbs

/-- The text of a decimal in a layout. -/
def Layout.text (layout : Layout) (d : Decimal) : List Char :=
  if layout.positional d.leading then positionalText layout.pointZero d
  else scientificText layout.plusSign d

/-- The text of a finite number in a layout, by its shortest digits. -/
def Layout.shortestText (layout : Layout) (negative : Bool) (b : Binary) : List Char :=
  (if negative then ['-'] else []) ++ layout.text (shortest layout.tie b)

/-- Display text: always positional, a whole number without a point. -/
def display : Layout where
  positional _ := true
  pointZero := false
  plusSign := false
  tie := .up

/-- Interchange text: positional from five places after the point to sixteen digits before it, with
at least one digit after the point. -/
def interchange : Layout where
  positional e := -5 ≤ e && e ≤ 15
  pointZero := true
  plusSign := true
  tie := .toEven

/-- Report text: always with an exponent. -/
def report : Layout where
  positional _ := false
  pointZero := false
  plusSign := false
  tie := .toEven

/-- The display text of any number. -/
def displayText (x : Float) : List Char :=
  match magnitude x with
  | .nan => "NaN".toList
  | .infinite => if isNegative x then "-inf".toList else "inf".toList
  | .finite b => display.shortestText (isNegative x) b

/-- The report text of any number: nine digits, and `0` for all that is smaller than a billionth. -/
def reportText (x : Float) : List Char :=
  match magnitude x with
  | .nan => "nan".toList
  | .infinite => if isNegative x then "-inf".toList else "inf".toList
  | .finite b =>
    if b.mantissa = 0 || b.leadingExponent < -9 then ['0']
    else (if isNegative x then ['-'] else []) ++ report.text (rounded 9 b)

end SceneGrammar.Decimal
