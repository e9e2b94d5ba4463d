import Coalesce.Error

/-! Log filters: directives between commas, each a level, a target, or a target with a span and a
level. Only whether a filter can be read is decided here. -/
namespace Coalesce.Telemetry

def levelNames : List String := ["off", "error", "warn", "info", "debug", "trace"]

/-- A level by its name in any case, or by its number, before which one plus sign may stand. -/
def isLevel (s : List Char) : Bool :=
  let ds := match s with
    | '+' :: ds => ds
    | ds => ds
  levelNames.contains (String.ofList (s.map Char.toLower)) ||
    (ds != [] && ds.all Json.isDigit && Json.digitsValue ds ≤ 5)

def startsName (c : Char) : Bool :=
  c = '-' || c = ':' || c = '_' || Text.isAlphanumeric c

/-! Fields of a span may be asked for by value: a number, or else a pattern. Numbers matter only
where the pattern would be refused. -/

def isFixedPoint (s : List Char) : Bool :=
  let whole := s.takeWhile Json.isDigit
  match s.dropWhile Json.isDigit with
  | '.' :: fraction => fraction.all Json.isDigit && (whole != [] || fraction != [])
  | rest => rest == [] && whole != []

def unsigned (s : List Char) : List Char :=
  match s with
  | '+' :: r => r
  | '-' :: r => r
  | s => s

def isExponentMark (c : Char) : Bool := c = 'e' || c = 'E'

def isNumber (s : List Char) : Bool :=
  let magnitude := unsigned s
  ["inf", "infinity", "nan"].contains (String.ofList (magnitude.map Char.toLower)) ||
    (isFixedPoint (magnitude.takeWhile (!isExponentMark ·)) &&
      match magnitude.dropWhile (!isExponentMark ·) with
      | [] => true
      | _ :: exponent => unsigned exponent != [] && (unsigned exponent).all Json.isDigit)

/-- What stands behind a second equals sign does not count. -/
def checkField (s : List Char) : Except LogLevelFault Unit :=
  match s.dropWhile (· ≠ '=') with
  | [] => .ok ()
  | _ :: value =>
    let value := value.takeWhile (· ≠ '=')
    if isNumber value then .ok () else (Pattern.check value).mapError .field

def between (first last : Nat) : Nat → List Char → List Char
  | _, [] => []
  | i, c :: s =>
    let rest := between first last (i + c.utf8Size) s
    if first ≤ i ∧ i < last then c :: rest else rest

inductive Stage where
  | start
  | name
  | span
  | field (first : Nat)
  | fields
  | target
  | level (first : Nat)

/-- The stage after the character at a place. Blanks around a directive are passed over while it is
read, but what it names is what stands in the untrimmed directive at the places found. -/
def Stage.next (directive : List Char) (i : Nat) : Stage → Char → Except LogLevelFault Stage
  | .start, c =>
    if c = '[' then .ok .span else if startsName c then .ok .name else .error .badDirective
  | .name, c =>
    if c = '=' then .ok (.level (i + 1)) else if c = '[' then .ok .span else .ok .name
  | .span, c =>
    if c = ']' then .ok .target else if c = '{' then .ok (.field (i + 1)) else .ok .span
  | .field first, c =>
    if c = '}' then
      if first = i then .error .badDirective
      else (checkField (between first i 0 directive)).map fun () => .fields
    else .ok (.field first)
  | .fields, c => if c = ']' then .ok .target else .error .badDirective
  | .target, c => if c = '=' then .ok (.level (i + 1)) else .error .badDirective
  | .level first, _ => .ok (.level first)

def Stage.run (directive : List Char) :
    Nat → Stage → List Char → Except LogLevelFault Stage
  | _, stage, [] => .ok stage
  | i, stage, c :: s => do run directive (i + c.utf8Size) (← stage.next directive i c) s

def checkDirective (s : List Char) : Except LogLevelFault Unit := do
  match ← Stage.run s 0 .start (Text.trim s) with
  | .name => .ok ()
  | .target => .ok ()
  | .level first =>
    let level := between first (Json.byteLength s) 0 s
    if level = [] ∨ isLevel level then .ok () else .error .badLevel
  | _ => .error .badDirective

def checkFilter (text : String) : Except LogLevelFault Unit :=
  ((text.splitOn ",").filter (· ≠ "")).forM fun directive => checkDirective directive.toList

end Coalesce.Telemetry
