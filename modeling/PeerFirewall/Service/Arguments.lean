import PeerFirewall.Compile.Strategy
import PeerFirewall.Fabric.Tenant
import PeerFirewall.Net.Socket
import PeerFirewall.Service.LogFilter
import PeerFirewall.Text.Blank
import PeerFirewall.Time.Duration

/-!
# The command line

Every setting is a flag, `--name value` or `--name=value`, that may be given once; the one switch
takes no value. A value that stands apart must not look like a flag itself. The value of a flag is
read when the next flag is, or at the end.
-/
namespace PeerFirewall

/-- The settings of the controller. -/
structure Arguments where
  /-- Whether the admission service stays off. -/
  admissionDisabled : Bool
  tenantStem : String
  fabricNamespace : String
  podCidrNetwork : String
  privateSubnets : List Net.Cidr
  groups : List Group
  /-- How many passes may be under way at once; no limit if it is zero. -/
  maxConcurrentPasses : UInt16
  /-- After how many seconds an unchanged policy is compiled again. -/
  resyncPeriod : UInt64
  /-- The deployment of the controller. -/
  deployment : String
  /-- The namespace of the deployment. -/
  «namespace» : String
deriving DecidableEq, Repr

/-- What is wrong with a command line. -/
inductive ArgumentError where
  /-- It has something that is neither a flag nor the value of one. -/
  | unknown
  | missingValue
  /-- A switch was given a value. -/
  | unexpectedValue
  | repeated
  | badValue (message : String)
  /-- A value is well formed but cannot be, and ends the program at once. -/
  | impossible (message : String)
deriving DecidableEq, Repr

namespace Arguments

/-- Reads one item of a list after the other, up to the first that fails. -/
def readItems {α : Type} (read : String → Except String α) : List String → Except String (List α)
  | [] => .ok []
  | item :: rest =>
    match read item with
    | .error message => .error message
    | .ok a => (readItems read rest).map (a :: ·)

/-- Reads an IPv4 network. -/
def readSubnet (text : String) : Except String Net.Cidr :=
  match Net.Cidr.parse? text with
  | none => .error Net.Cidr.badText
  | some network =>
    if network.isV4 then .ok network else .error (network.text ++ " is not an IPv4 network")

/-- Reads a comma-separated list of IPv4 networks. -/
def readSubnets (text : String) : Except String (List Net.Cidr) :=
  readItems readSubnet (Text.listItems text)

/-- Reads the name of a group. -/
def readGroup (text : String) : Except String Group :=
  match Group.parse? text with
  | some group => .ok group
  | none => .error (Group.unknownMessage text)

/-- Reads a comma-separated list of names of groups. -/
def readGroups (text : String) : Except String (List Group) :=
  readItems readGroup (Text.listItems text)

/-- Why a text is no whole number of some width. -/
def invalidDigit : String := "invalid digit found in string"

/-- Reads decimal digits after those that make up `value`; no value may exceed `most`. -/
def readDigits (most : Nat) (tooFar : String) : Nat → List Char → Except String Nat
  | value, [] => .ok value
  | value, c :: rest =>
    if ¬ c.isDigit then .error invalidDigit
    else
      let next := 10 * value + (c.toNat - '0'.toNat)
      if next ≤ most then readDigits most tooFar next rest else .error tooFar

/-- Reads decimal digits, of which there has to be one. -/
def readNumber (most : Nat) (tooFar : String) (digits : List Char) : Except String Nat :=
  if digits.isEmpty then .error invalidDigit else readDigits most tooFar 0 digits

/-- What is wrong with a number that is beyond the range of its type. -/
def tooLarge : String := "number too large to fit in target type"

/-- What is wrong with a number that is below the range of its type. -/
def tooSmall : String := "number too small to fit in target type"

/-- What is wrong with a number without digits. -/
def noDigits : String := "cannot parse integer from empty string"

/-- Reads an unsigned whole number of 64 bits. -/
def readUInt64 (text : String) : Except String UInt64 :=
  match text.toList with
  | [] => .error noDigits
  | '+' :: rest => (readNumber 18446744073709551615 tooLarge rest).map Nat.toUInt64
  | digits => (readNumber 18446744073709551615 tooLarge digits).map Nat.toUInt64

/-- Reads a signed whole number of 64 bits. -/
def readInt64 (text : String) : Except String Int :=
  match text.toList with
  | [] => .error noDigits
  | '+' :: rest => (readNumber 9223372036854775807 tooLarge rest).map Int.ofNat
  | '-' :: rest => (readNumber 9223372036854775808 tooSmall rest).map fun n => -(n : Int)
  | digits => (readNumber 9223372036854775807 tooLarge digits).map Int.ofNat

/-- Reads an unsigned whole number of 16 bits. -/
def readUInt16 (text : String) : Except String UInt16 :=
  match readInt64 text with
  | .error message => .error message
  | .ok n =>
    if 0 ≤ n ∧ n ≤ 65535 then .ok n.toNat.toUInt16
    else .error (toString n ++ " is not in 0..=65535")

/-- Reads the name of a format of log lines. -/
def readLogFormat (text : String) : Except String Unit :=
  if text = "plain" ∨ text = "json" then .ok ()
  else .error ("invalid log level: " ++ text ++ " must be 'plain' or 'json'")

/-- Reads a socket address. -/
def readSocket (text : String) : Except String Unit :=
  if Net.Socket.isSocket text then .ok () else .error Net.Socket.badText

/-- Reads a filter of log lines. -/
def readLogFilter (text : String) : Except String Unit :=
  (LogFilter.check text).mapError LogFilter.Fault.message

/-- The ranges that count as private unless others are set. -/
def standardSubnets : List Net.Cidr :=
  [.v4 ⟨10, 0, 0, 0⟩ 8, .v4 ⟨172, 16, 0, 0⟩ 12, .v4 ⟨192, 168, 0, 0⟩ 16]

/-- The settings unless others are given. -/
def standard : Arguments where
  admissionDisabled := false
  tenantStem := Tenants.standard.stem
  fabricNamespace := "liqo"
  podCidrNetwork := "pod-cidr"
  privateSubnets := standardSubnets
  groups := Group.all
  maxConcurrentPasses := 4
  resyncPeriod := 300
  deployment := "connectivity-controller"
  «namespace» := "liqo"

/-- What a flag does. -/
inductive Effect where
  | switch (apply : Arguments → Arguments)
  | value (apply : Arguments → String → Except ArgumentError Arguments)

/-- A flag that takes any text. -/
def textFlag (name : String) (apply : Arguments → String → Arguments) : String × Effect :=
  (name, .value fun arguments text => .ok (apply arguments text))

/-- A flag whose value has to be read. -/
def readFlag {α : Type} (name : String) (read : String → Except String α)
    (apply : Arguments → α → Arguments) : String × Effect :=
  (name, .value fun arguments text =>
    ((read text).map (apply arguments)).mapError ArgumentError.badValue)

/-- A flag about what surrounds the controller, on which nothing here depends. -/
def foreignFlag (name : String) (check : String → Except String Unit) : String × Effect :=
  readFlag name check fun arguments () => arguments

/-- A flag about what surrounds the controller that takes any text. -/
def foreignText (name : String) : String × Effect := foreignFlag name fun _ => .ok ()

/-- A flag that takes the path of a file, which is not empty. -/
def foreignPath (name : String) : String × Effect :=
  (name, .value fun arguments path => if path = "" then .error .missingValue else .ok arguments)

/-- A flag about what surrounds the controller that takes a duration. -/
def foreignDuration (name : String) : String × Effect :=
  (name, .value fun arguments text =>
    match Time.Duration.parse text with
    | .ok _ => .ok arguments
    | .error fault =>
      .error (if fault.isImpossible then .impossible fault.message else .badValue fault.message))

/-- The flags. -/
def flags : List (String × Effect) := [
  ("admission-controller-disabled",
    .switch fun arguments => { arguments with admissionDisabled := true }),
  textFlag "tenant-namespace-prefix" fun arguments stem => { arguments with tenantStem := stem },
  textFlag "liqo-namespace" fun arguments name => { arguments with fabricNamespace := name },
  textFlag "pod-cidr-network" fun arguments name => { arguments with podCidrNetwork := name },
  readFlag "private-subnets" readSubnets fun arguments subnets =>
    { arguments with privateSubnets := subnets },
  readFlag "resource-groups" readGroups fun arguments groups =>
    { arguments with groups := groups },
  readFlag "max-concurrent-reconciles" readUInt16 fun arguments limit =>
    { arguments with maxConcurrentPasses := limit },
  readFlag "resync-period-secs" readUInt64 fun arguments period =>
    { arguments with resyncPeriod := period },
  textFlag "controller-deployment-name" fun arguments name => { arguments with deployment := name },
  textFlag "controller-namespace" fun arguments name => { arguments with «namespace» := name },
  foreignFlag "log-level" readLogFilter,
  foreignFlag "log-format" readLogFormat,
  foreignText "cluster",
  foreignText "context",
  foreignText "user",
  foreignPath "kubeconfig",
  foreignText "as",
  foreignText "as-group",
  foreignDuration "kube-api-response-headers-timeout",
  foreignFlag "server-addr" readSocket,
  foreignText "server-tls-key",
  foreignText "server-tls-certs",
  foreignFlag "admin-addr" readSocket]

/-- The part of a command line that has been read. -/
structure Reader where
  arguments : Arguments
  /-- The flags that have taken effect. -/
  seen : List String
  /-- The last flag, if its value stands apart, and the value once it has come. -/
  pending : Option (String × (Arguments → String → Except ArgumentError Arguments) × Option String)

namespace Reader

/-- Nothing read yet. -/
def fresh : Reader := ⟨standard, [], none⟩

/-- Gives a flag its value. -/
def give (reader : Reader) (name : String)
    (apply : Arguments → String → Except ArgumentError Arguments) (value : String) :
    Except ArgumentError Reader :=
  if name ∈ reader.seen then .error .repeated
  else (apply reader.arguments value).map fun arguments => ⟨arguments, name :: reader.seen, none⟩

/-- Gives the last flag the value that has come for it. -/
def settle (reader : Reader) : Except ArgumentError Reader :=
  match reader.pending with
  | none => .ok reader
  | some (_, _, none) => .error .missingValue
  | some (name, apply, some value) => reader.give name apply value

/-- Reads a flag, with the value that follows its equals sign, if there is one. -/
def flag (reader : Reader) (name : String) (attached : Option String) :
    Except ArgumentError Reader :=
  match flags.lookup name, attached with
  | none, _ => .error .unknown
  | some (.switch _), some _ => .error .unexpectedValue
  | some (.switch apply), none => do
    let reader ← reader.settle
    if name ∈ reader.seen then throw .repeated
    return ⟨apply reader.arguments, name :: reader.seen, none⟩
  | some (.value apply), some value => do (← reader.settle).give name apply value
  | some (.value apply), none => do
    let reader ← reader.settle
    return { reader with pending := some (name, apply, none) }

/-- Reads a word that is no flag: the value of the last flag, if that waits for one. -/
def word (reader : Reader) (text : String) : Except ArgumentError Reader :=
  match reader.pending with
  | some (name, apply, none) => .ok { reader with pending := some (name, apply, some text) }
  | some (_, _, some _) | none => .error .unknown

/-- Splits what follows the two hyphens of a flag at the first equals sign. -/
def splitFlag (text : List Char) : String × Option String :=
  let name := String.ofList (text.takeWhile (· ≠ '='))
  match text.dropWhile (· ≠ '=') with
  | [] => (name, none)
  | _ :: value => (name, some (String.ofList value))

/-- Reads a command line. After a lone `--` there may be nothing more. -/
def read (reader : Reader) : List String → Except ArgumentError Arguments
  | [] => reader.settle.map (·.arguments)
  | item :: rest =>
    match item.toList with
    | ['-', '-'] =>
      if rest.isEmpty then reader.settle.map (·.arguments) else .error .unknown
    | '-' :: '-' :: text =>
      let (name, attached) := splitFlag text
      match reader.flag name attached with
      | .ok reader => reader.read rest
      | .error error => .error error
    | '-' :: _ :: _ => .error .unknown
    | _ =>
      match reader.word item with
      | .ok reader => reader.read rest
      | .error error => .error error

end Reader

/-- Reads a command line, the first item of which is the name of the program. -/
def read (line : List String) : Except ArgumentError Arguments := Reader.fresh.read line.tail

end Arguments

end PeerFirewall
