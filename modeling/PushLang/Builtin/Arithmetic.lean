import PushLang.Binary64.Arithmetic
import PushLang.Machine.Form

namespace PushLang

variable {χ : Type}

def integerBinary (f : Int64 → Int64 → Except Fault Int64) : Effect χ :=
  calculating [.integer, .integer] .integer fun (a, b, _) => f a b

def integerUnary (f : Int64 → Int64) : Effect χ :=
  calculating [.integer] .integer fun (a, _) => .ok (f a)

def integerTest (f : Int64 → Int64 → Bool) : Effect χ :=
  calculating [.integer, .integer] .boolean fun (a, b, _) => .ok (f a b)

def quotient? (a b : Int64) : Except Fault Int64 := if b = 0 then .error .arithmetic else .ok (a / b)

def remainder? (a b : Int64) : Except Fault Int64 := if b = 0 then .error .arithmetic else .ok (a % b)

def IntegerOp.run : IntegerOp → Effect χ
  | .add => integerBinary fun a b => .ok (a + b)
  | .sub => integerBinary fun a b => .ok (a - b)
  | .mul => integerBinary fun a b => .ok (a * b)
  | .div => integerBinary quotient?
  | .mod => integerBinary remainder?
  | .min => integerBinary fun a b => .ok (if b < a then b else a)
  | .max => integerBinary fun a b => .ok (if a < b then b else a)
  | .abs => integerUnary fun a => if a < 0 then -a else a
  | .neg => integerUnary fun a => -a
  | .less => integerTest fun a b => a < b
  | .greater => integerTest fun a b => b < a
  | .fromFloat => calculating [.float] .integer fun (x, _) => .ok (Binary64.truncate x)
  | .fromBoolean => calculating [.boolean] .integer fun (b, _) => .ok (if b then 1 else 0)
  | .rand => producing [] .integer false fun _ m =>
    let (n, m) := m.withSource m.config.integers.sample
    (m, .ok n)

def finite? (x : Double) : Except Fault Double := if x.isFinite then .ok x else .error .arithmetic

def floatBinary (f : Double → Double → Except Fault Double) : Effect χ :=
  calculating [.float, .float] .float fun (x, y, _) => f x y

def floatUnary (f : Double → Double) : Effect χ :=
  calculating [.float] .float fun (x, _) => finite? (f x)

def floatTest (f : Double → Double → Bool) : Effect χ :=
  calculating [.float, .float] .boolean fun (x, y, _) => .ok (f x y)

def divided? (f : Double → Double → Double) (x y : Double) : Except Fault Double :=
  if y == 0.0 then .error .arithmetic else finite? (f x y)

def FloatOp.run : FloatOp → Effect χ
  | .add => floatBinary fun x y => finite? (x + y)
  | .sub => floatBinary fun x y => finite? (x - y)
  | .mul => floatBinary fun x y => finite? (x * y)
  | .div => floatBinary (divided? fun x y => x / y)
  | .mod => floatBinary (divided? Binary64.remainder)
  | .min => floatBinary fun x y => finite? (Binary64.lesser x y)
  | .max => floatBinary fun x y => finite? (Binary64.greater x y)
  | .abs => floatUnary (Double.map Float.abs)
  | .neg => floatUnary fun x => -x
  | .sin => floatUnary (Double.map Float.sin)
  | .cos => floatUnary (Double.map Float.cos)
  | .tan => floatUnary (Double.map Float.tan)
  | .exp => floatUnary (Double.map Float.exp)
  | .ln => floatUnary (Double.map Float.log)
  | .less => floatTest fun x y => x < y
  | .greater => floatTest fun x y => y < x
  | .fromInteger => calculating [.integer] .float fun (n, _) => .ok (Binary64.ofInt64 n)
  | .fromBoolean => calculating [.boolean] .float fun (b, _) => .ok (if b then 1.0 else 0.0)
  | .rand => producing [] .float false fun _ m =>
    let (x, m) := m.withSource m.config.floats.sample
    (m, .ok x)

def booleanBinary (f : Bool → Bool → Bool) : Effect χ :=
  calculating [.boolean, .boolean] .boolean fun (a, b, _) => .ok (f a b)

def BooleanOp.run : BooleanOp → Effect χ
  | .literal b => .always fun m => m.push .boolean b
  | .not => calculating [.boolean] .boolean fun (b, _) => .ok !b
  | .and => booleanBinary fun a b => a && b
  | .or => booleanBinary fun a b => a || b
  | .xor => booleanBinary fun a b => a != b
  | .fromInteger => calculating [.integer] .boolean fun (n, _) => .ok (n != 0)
  | .fromFloat => calculating [.float] .boolean fun (x, _) => .ok (x != 0.0)
  | .rand => producing [] .boolean false fun _ m =>
    let (b, m) := m.withSource Random.Source.drawBool
    (m, .ok b)

end PushLang
