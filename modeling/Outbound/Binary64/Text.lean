import Outbound.Binary64.Shortest

/-!
# The text of a binary64 number

Every text shows the digits of the shortest decimal. What differs from one use to the next is
written down in a `Style`: where the positional form ends, and whether a whole number keeps a
point.

## Main definitions

* `Binary64.Style`: the decisions of one textual form
* `Binary64.plain`: never an exponent, no point in a whole number, as in messages
* `Binary64.detailed`: a point in every positional number, as in dumps of values
* `Binary64.json`: as a JSON number
* `Binary64.render`: the text of a number in a style
-/

namespace Outbound

namespace Binary64

/-- **A textual form.** A number `0.d₁…dₙ * 10 ^ p` is positional when `p` lies between the two
bounds, and has an exponent otherwise. -/
structure Style where
  /-- The least position of the point that is written positionally, if there is one. -/
  least? : Option Int
  /-- The greatest position of the point that is written positionally, if there is one. -/
  greatest? : Option Int
  /-- Whether `.0` follows a whole number in positional form. -/
  wholePoint : Bool

/-- Messages write every number positionally, a whole number without a point. -/
def plain : Style := ⟨none, none, false⟩

/-- Dumps write an exponent below `10 ^ -4` and from `10 ^ 16` on. -/
def detailed : Style := ⟨some (-3), some 16, true⟩

/-- JSON texts write an exponent below `10 ^ -5` and from `10 ^ 16` on. -/
def json : Style := ⟨some (-4), some 16, true⟩

/-- Whether the style writes the position `p` without an exponent. -/
def Style.positional (style : Style) (p : Int) : Bool :=
  style.least?.all (fun l => decide (l ≤ p)) && style.greatest?.all (fun g => decide (p ≤ g))

/-- The positional form of `0.d₁…dₙ * 10 ^ p`. -/
def positionalText (style : Style) (digits : List Char) (p : Int) : List Char :=
  let whole := if style.wholePoint then ['.', '0'] else []
  if p ≤ 0 then '0' :: '.' :: (List.replicate (-p).toNat '0' ++ digits)
  else if digits.length ≤ p.toNat then
    digits ++ List.replicate (p.toNat - digits.length) '0' ++ whole
  else digits.take p.toNat ++ '.' :: digits.drop p.toNat

/-- The form with an exponent of `0.d₁…dₙ * 10 ^ p`: one digit before the point. -/
def exponentText (digits : List Char) (p : Int) : List Char :=
  let mantissa := match digits with
    | [] => ['0']
    | [d] => [d]
    | d :: ds => d :: '.' :: ds
  mantissa ++ 'e' :: (toString (p - 1)).toList

/-- The text of a number in a style; what is no finite number reads `NaN`, `inf` or `-inf`. -/
def render (style : Style) : Binary64 → String
  | .nan => "NaN"
  | .infinite negative => if negative then "-inf" else "inf"
  | .finite negative m e =>
    let body :=
      if m = 0 then (if style.wholePoint then ['0', '.', '0'] else ['0'])
      else
        let (digits, p) := shortest m e
        if style.positional p then positionalText style digits p else exponentText digits p
    String.ofList (if negative then '-' :: body else body)

end Binary64

end Outbound
