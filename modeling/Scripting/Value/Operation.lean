import Scripting.Decimal.Power
import Scripting.Token.Kind
import Scripting.Value.Order

namespace Scripting

/-!
# Operators on values

Arithmetic on whole numbers is exact modulo the word size, and fails only on a zero divisor.
Arithmetic on reals never fails.  The plus sign also joins strings.
-/

/-- Why an operator cannot be applied. -/
inductive OperatorFault where
  | notComparable
  | boundsNotIntegral
  | notNumbers (orStrings : Bool)
  | divisionByZero
  | unknownOperator (sign : TokenKind)
  deriving Repr, DecidableEq

namespace OperatorFault

/-- The wording of a fault. -/
def message : OperatorFault → String
  | .notComparable => "operands are not comparable"
  | .boundsNotIntegral => "range bounds must be Integer or Long"
  | .notNumbers orStrings => "operands must be numbers" ++ if orStrings then " or strings" else ""
  | .divisionByZero => "division by zero"
  | .unknownOperator sign => "unknown operator " ++ sign.text

end OperatorFault

/-- An operator that cannot be applied to its operands. -/
structure OperatorError where
  sign : TokenKind
  left : Value
  right : Value
  fault : OperatorFault

namespace OperatorError

/-- The wording of the failure. -/
def message (error : OperatorError) : String :=
  "operator " ++ error.sign.text ++ " cannot be applied to " ++ error.left.described ++ " and "
    ++ error.right.described ++ ": " ++ error.fault.message

end OperatorError

/-- A power with wrapping multiplication, by repeated squaring. -/
def wrappingPower (base : Int64) (exponent : Nat) : Int64 :=
  if exponent = 0 then
    1
  else
    let rest := wrappingPower (base * base) (exponent / 2)
    if exponent % 2 = 1 then base * rest else rest
termination_by exponent
decreasing_by omega

/-- A power with a negative exponent, cut off toward zero.  Both numbers are rounded to the double
format first, and so is the power. -/
def reciprocalPower (base exponent : Int64) : Except OperatorFault Int64 :=
  let format := Decimal.BinaryFormat.double
  if base = 0 then
    .error .divisionByZero
  else
    let power := Decimal.doublePower (format.ofInt base.toInt) (format.ofInt exponent.toInt)
    .ok (format.decode power).cutOff

/-- The remainder of two double numbers with the sign of the first, computed exactly. -/
def floatRemainder (left right : Float) : Float :=
  let format := Decimal.BinaryFormat.double
  match format.decode left.toBits.toNat, format.decode right.toBits.toNat with
  | .finite negative a, .finite _ b =>
      if b.mantissa = 0 then
        0 / 0
      else
        let exponent := min a.exponent b.exponent
        let top := a.mantissa * Nat.pow 2 (a.exponent - exponent).toNat
        let bottom := b.mantissa * Nat.pow 2 (b.exponent - exponent).toNat
        Float.ofBits
          (format.withSign negative (format.ofScaled (top % bottom) exponent)).toUInt64
  | .finite _ _, .infinite _ => left
  | _, _ => 0 / 0

/-- The power of two double numbers. -/
def floatPower (left right : Float) : Float :=
  Float.ofBits (Decimal.doublePower left.toBits.toNat right.toBits.toNat).toUInt64

namespace Arithmetic

/-- An operation on whole numbers. -/
def onIntegers (operation : Arithmetic) (left right : Int64) : Except OperatorFault Int64 :=
  match operation with
  | .add => .ok (left + right)
  | .subtract => .ok (left - right)
  | .multiply => .ok (left * right)
  | .divide => if right = 0 then .error .divisionByZero else .ok (left / right)
  | .remainder => if right = 0 then .error .divisionByZero else .ok (left % right)
  | .power =>
      if right < 0 then
        reciprocalPower left right
      else
        .ok (wrappingPower left right.toInt.toNat)

/-- An operation on reals. -/
def onFloats (operation : Arithmetic) (left right : Float) : Float :=
  match operation with
  | .add => left + right
  | .subtract => left - right
  | .multiply => left * right
  | .divide => left / right
  | .remainder => floatRemainder left right
  | .power => floatPower left right

/-- An operation on two values. -/
def apply (operation : Arithmetic) (left right : Value) : Except OperatorFault Value :=
  match operation, left, right with
  | .add, .string a, .string b => .ok (.string (a ++ b))
  | _, _, _ =>
      match Value.numberPair? left right with
      | some (.integral wide a b) => (operation.onIntegers a b).map (Value.ofIntegral wide)
      | some (.floating wide a b) => .ok (Value.ofFloating wide (operation.onFloats a b))
      | none => .error (.notNumbers (operation = .add))

end Arithmetic

/-- The range between two whole numbers. -/
def Value.rangeTo (left right : Value) : Except OperatorFault Value :=
  match left.integral?, right.integral? with
  | some low, some high => .ok (.range low high (left.kind = .long || right.kind = .long))
  | _, _ => .error .boundsNotIntegral

namespace Operator

/-- What an operator gives for two values, or why it gives nothing. -/
def evaluate (operator : Operator) (left right : Value) : Except OperatorFault Value :=
  match operator with
  | .equal => .ok (.boolean (left.equals right))
  | .notEqual => .ok (.boolean (!left.equals right))
  | .less =>
      match left.compare? right with
      | some order => .ok (.boolean (order == .lt))
      | none => .error .notComparable
  | .greater =>
      match left.compare? right with
      | some order => .ok (.boolean (order == .gt))
      | none => .error .notComparable
  | .range => left.rangeTo right
  | .arithmetic operation => operation.apply left right

/-- Apply an operator to two values. -/
def apply (operator : Operator) (left right : Value) : Except OperatorError Value :=
  match operator.evaluate left right with
  | .ok value => .ok value
  | .error fault => .error ⟨.operator operator, left, right, fault⟩

end Operator

/-- Apply what a token of some kind means to two values; only operators mean anything. -/
def TokenKind.apply (kind : TokenKind) (left right : Value) : Except OperatorError Value :=
  match kind.operator? with
  | some op => op.apply left right
  | none =>
      match Value.numberPair? left right with
      | some _ => .error ⟨kind, left, right, .unknownOperator kind⟩
      | none => .error ⟨kind, left, right, .notNumbers false⟩

end Scripting
