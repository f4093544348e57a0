import BrokerClient.Settings.Dotenv
import BrokerClient.Text.Percent
import BrokerClient.Routing
import BrokerClient.Validation.Form

/-!
# Connection settings

Each field of the settings is taken from a keyword, else from an environment variable, else from a
file of variables, else from its default. Names are compared without regard to case; the variables
are named `RABBITMQ_` and the field. `url` is the address to connect to, `safeUrl` the same address
with the credentials masked.
-/

namespace BrokerClient

open Validation

/-- How to reach the broker and how many channels to keep open. -/
structure Settings where
  host : String
  port : Int
  user : String
  password : String
  vhost : String
  managementPort : Int
  channelPoolSize : Int
  heartbeat : Int
  reconnectInterval : Float
  application : String
  enableTracing : Bool
  deriving Repr, Inhabited

namespace Settings

/-- The model's name in reports. -/
def model : String := "BrokerSettings"

/-- The name of an application: not empty, and without a point since it is one segment of
longer names. -/
def readApplication (v : Json) : Reading String := do
  let s ← nonEmptyString v
  if s.toList.contains '.' then
    .error (.rule "application must not contain '.' (it is a name segment)")
  else .ok s

/-- The fields of the settings with their defaults. -/
def form : Form Settings :=
  Settings.mk
    <$> .withDefault (.single "host") "localhost" nonEmptyString
    <*> .withDefault (.single "port") 5672 (intWithin 1 65535)
    <*> .withDefault (.single "user") "guest" nonEmptyString
    <*> .withDefault (.single "password") "guest" string
    <*> .withDefault (.single "vhost") "/" string
    <*> .withDefault (.single "management_port") 15672 (intWithin 1 65535)
    <*> .withDefault (.single "channel_pool_size") 5 (intFrom 1)
    <*> .withDefault (.single "heartbeat") 30 (intFrom 0)
    <*> .withDefault (.single "reconnect_interval") 1 positiveFloat
    <*> .withDefault (.single "application") "secondhand" readApplication
    <*> .withDefault (.single "enable_tracing") true bool

/-- Where settings come from. -/
structure Sources where
  keywords : List (String × Json) := []
  environment : List (String × String) := []
  dotenv : String := ""

/-- What the names of variables begin with, in lower case. -/
def variableStart : String := "rabbitmq_"

/-- The field that a variable sets, if any, with its value. -/
def ofVariable? {α : Type} (v : String × α) : Option (String × α) :=
  let name := v.1.toLower
  if name.startsWith variableStart then
    some ((name.drop variableStart.length).toString, v.2)
  else none

/-- Adds values to given ones; a later value for a name counts. -/
def overlay {α : Type} (base added : List (String × α)) : List (String × α) :=
  added.foldl (fun t entry => Table.set entry.1 entry.2 t) base

/-- The fields that the file of variables sets. A name that ends up without a value sets none. -/
def Sources.ofFile (s : Sources) : List (String × Json) :=
  (overlay [] ((Dotenv.bindings s.environment s.dotenv).filterMap ofVariable?)).filterMap
    fun (name, value) => value.map fun v => (name, .str v)

/-- The fields that the environment sets. -/
def Sources.ofEnvironment (s : Sources) : List (String × Json) :=
  (s.environment.filterMap ofVariable?).map fun (name, value) => (name, .str value)

/-- The members that the sources give together. -/
def Sources.members (s : Sources) : List (String × Json) :=
  overlay (overlay s.ofFile s.ofEnvironment) (s.keywords.map fun k => (k.1.toLower, k.2))

/-- The settings that the sources give. -/
def ofSources (s : Sources) : Except Error Settings :=
  (form.check model .ignore .value (.obj s.members)).mapError (Refusal.error model)

/-- The virtual host without its leading slash. The host `/` keeps its name. -/
def vhostName (s : Settings) : String :=
  match s.vhost.toList with
  | '/' :: c :: rest => String.ofList (c :: rest)
  | cs => String.ofList cs

/-- The address with given credentials. -/
def address (s : Settings) (user password : String) : String :=
  "amqp://" ++ Text.Percent.encodeKeepingStar user ++ ":" ++
    Text.Percent.encodeKeepingStar password ++ "@" ++ s.host ++ ":" ++ toString s.port ++ "/" ++
    Text.Percent.encode s.vhostName

/-- The address to connect to. -/
def url (s : Settings) : String :=
  s.address s.user s.password

/-- The address with the credentials masked. -/
def safeUrl (s : Settings) : String :=
  s.address "***" "***"

/-- The address of the management pages. -/
def managementUrl (s : Settings) : String :=
  s!"http://{s.host}:{s.managementPort}"

/-- The password as it may be shown. -/
def maskedPassword (s : Settings) : String :=
  if s.password.isEmpty then "" else "**********"

end Settings

end BrokerClient
