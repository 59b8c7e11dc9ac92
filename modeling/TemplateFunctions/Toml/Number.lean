import TemplateFunctions.Toml.Quoted

/-!
Numbers of TOML: integers of 64 bits in four bases, and floating-point numbers.

* `integer`: an integer, with its value.
* `float`: a floating-point number, as it is written. One that rounds to infinity is refused.
-/

namespace TemplateFunctions

namespace Toml

open Reader

/-- Reads digits of a class, with single underscores between them. -/
def digits (p : Char → Bool) : Reader Text := do
  let first ← char p
  let others ← many (char p <|> (do symbol '_'; char p))
  pure (first :: others)

/-- Reads a sign, if there is one. -/
def sign : Reader Text :=
  (do pure [← char fun c => c == '+' || c == '-']) <|> pure []

/-! ### Integers -/

/-- Reads decimal digits without a zero in front. -/
def decimalDigits : Reader Text :=
  (do
    let first ← char fun c => '1' ≤ c && c ≤ '9'
    let others ← many (char Char.isDigit <|> (do symbol '_'; char Char.isDigit))
    pure (first :: others))
    <|> (do pure [← char (· == '0')])

/-- Whether a number has 64 bits with the sign. -/
def fits (n : Int) : Bool :=
  -0x8000000000000000 ≤ n && n < 0x8000000000000000

/-- Reads a decimal integer. -/
def decimal : Reader Int := do
  let minus := (← sign) = ['-']
  let n := numberOf 10 (← decimalDigits)
  pure (if minus then -n else n)

/-- Reads an integer of another base behind its mark. -/
def based (mark : Char) (base : Nat) (p : Char → Bool) : Reader Int := do
  literal ['0', mark]
  pure (numberOf base (← digits p))

/-- Reads an integer. -/
def integer : Reader Int := do
  let n ←
    based 'x' 16 isHexDigit
      <|> based 'o' 8 (fun c => '0' ≤ c && c ≤ '7')
      <|> based 'b' 2 (fun c => c == '0' || c == '1')
      <|> decimal
  require (fits n)
  pure n

/-! ### Floating-point numbers -/

/-- The least number that rounds to infinity: half a step above the greatest double. -/
def overflow : Nat :=
  Nat.pow 2 1024 - Nat.pow 2 970

/-- Whether the number with these digits and this exponent of ten rounds to infinity. The count of
the digits decides unless it comes close. -/
def roundsToInfinity (mantissa : Nat) (exponent : Int) : Bool :=
  let magnitude := (Nat.toDigits 10 mantissa).length + exponent
  if mantissa = 0 || magnitude < 300 then false
  else if 400 < magnitude then true
  else if 0 ≤ exponent then overflow ≤ mantissa * Nat.pow 10 exponent.toNat
  else overflow * Nat.pow 10 (-exponent).toNat ≤ mantissa

/-- Reads the exponent of a number. -/
def exponent : Reader Int := do
  let _ ← char fun c => c == 'e' || c == 'E'
  let minus := (← sign) = ['-']
  let n := numberOf 10 (← digits Char.isDigit)
  pure (if minus then -n else n)

/-- Reads the point of a number and the digits behind it. -/
def fraction : Reader Text := do
  symbol '.'
  digits Char.isDigit

/-- Reads a number with a fraction or an exponent. -/
def measured : Reader Unit := do
  let minus := (← sign) = ['-']
  let whole ← decimalDigits
  let (part, power) ←
    (do pure ([], ← exponent))
      <|> (do
        let part ← fraction
        let power ← maybe exponent
        pure (part, power.getD 0))
  require (minus || !roundsToInfinity (numberOf 10 (whole ++ part)) (power - part.length))

/-- Reads one of the two words that are numbers. -/
def named : Reader Unit := do
  let _ ← sign
  literal "inf".toList <|> literal "nan".toList

/-- Reads a floating-point number. -/
def float : Reader Unit :=
  measured <|> named

end Toml

end TemplateFunctions
