/-
The arguments of the simulation program. Each of its flags takes a value and may be given once, in
a long form or, for most, in a short one. Anything else is refused, and so is a number that does
not fit.
-/

import RestrictedAccess.Document.Digits

namespace RestrictedAccess.Simulation

inductive Flag
  | config
  | scenario
  | stations
  | beacons
  | dtimPeriod
  | logLevel
  deriving DecidableEq

namespace Flag

def ofName? : String → Option Flag
  | "config" => some config
  | "scenario" => some scenario
  | "stations" => some stations
  | "beacons" => some beacons
  | "dtim" => some dtimPeriod
  | "log-level" => some logLevel
  | _ => none

def ofLetter? : Char → Option Flag
  | 'c' => some config
  | 's' => some scenario
  | 'n' => some stations
  | 'b' => some beacons
  | 'l' => some logLevel
  | _ => none

end Flag

inductive Token
  | flag (flag : Flag)
  | flagWithValue (flag : Flag) (value : String)
  | endOfFlags
  deriving DecidableEq

namespace Token

/-- A long form is a name, with the value after an equals sign if it is part of the argument. -/
def ofLongForm? (chars : List Char) : Option Token :=
  match chars.dropWhile (fun c => c != '=') with
  | [] => (Flag.ofName? (String.ofList chars)).map .flag
  | _ :: value =>
      (Flag.ofName? (String.ofList (chars.takeWhile (fun c => c != '=')))).map
        (fun flag => .flagWithValue flag (String.ofList value))

/-- A short form is a letter, directly followed by the value or by an equals sign and the value. -/
def ofShortForm? (letter : Char) (rest : List Char) : Option Token :=
  (Flag.ofLetter? letter).map (fun flag =>
    match rest with
    | [] => .flag flag
    | '=' :: value => .flagWithValue flag (String.ofList value)
    | value => .flagWithValue flag (String.ofList value))

def ofArgument? (argument : String) : Option Token :=
  match argument.toList with
  | ['-', '-'] => some .endOfFlags
  | '-' :: '-' :: chars => ofLongForm? chars
  | '-' :: letter :: rest => ofShortForm? letter rest
  | _ => none

end Token

/-- A value that is an argument of its own must not look like a flag. A single dash does not. -/
def looksLikeFlag (argument : String) : Bool :=
  match argument.toList with
  | '-' :: _ :: _ => true
  | _ => false

def readFlags : List String → Option (List (Flag × String))
  | [] => some []
  | argument :: rest =>
      match Token.ofArgument? argument with
      | none => none
      | some .endOfFlags => if rest = [] then some [] else none
      | some (.flagWithValue flag value) => (readFlags rest).map ((flag, value) :: ·)
      | some (.flag flag) =>
          match rest with
          | [] => none
          | value :: rest =>
              if looksLikeFlag value then none else (readFlags rest).map ((flag, value) :: ·)

/-! ### Values -/

/-- A natural number below a bound. A sign may stand before it, a minus only before zero. -/
def readNat? (bound : Nat) (text : String) : Option Nat :=
  let number := match text.toList with
    | '-' :: digits => (Document.Digits.read? 10 digits).filter (fun number => number = 0)
    | '+' :: digits => Document.Digits.read? 10 digits
    | digits => Document.Digits.read? 10 digits
  number.filter (fun number => number < bound)

structure Arguments where
  config : Option String
  scenario : Option String
  stations : UInt16
  beacons : UInt32
  dtimPeriod : Option UInt8
  logLevel : Option String
  deriving DecidableEq

namespace Arguments

def standard : Arguments :=
  { config := none
    scenario := none
    stations := 10
    beacons := 12
    dtimPeriod := none
    logLevel := none }

def set? (arguments : Arguments) : Flag × String → Option Arguments
  | (.config, path) => some { arguments with config := some path }
  | (.scenario, path) => some { arguments with scenario := some path }
  | (.stations, text) =>
      (readNat? 65536 text).map (fun number =>
        { arguments with stations := UInt16.ofNat number })
  | (.beacons, text) =>
      (readNat? 4294967296 text).map (fun number =>
        { arguments with beacons := UInt32.ofNat number })
  | (.dtimPeriod, text) =>
      (readNat? 256 text).map (fun number =>
        { arguments with dtimPeriod := some (UInt8.ofNat number) })
  | (.logLevel, filter) => some { arguments with logLevel := some filter }

def read? (texts : List String) : Option Arguments := do
  let flags ← readFlags texts
  if (flags.map Prod.fst).Nodup then flags.foldlM set? standard else none

end Arguments

end RestrictedAccess.Simulation
