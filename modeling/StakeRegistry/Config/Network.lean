/-
The networks, and what the environment changes about them.

A preset gives the addresses of a network. A variable that is set and not empty replaces its part of
the preset; blanks around an address and around the identity of the chain are dropped. The
credentials are taken from the environment alone.
-/
import StakeRegistry.ReadError
import StakeRegistry.Fault
import StakeRegistry.Json.Value
import StakeRegistry.Text.Blank

namespace StakeRegistry.Config

/-- Why the configuration is not usable. -/
inductive ConfigError where
  | unknownNetwork (name : String)
  | badChainId (text : String)
  | badPrivateKey (cause : ReadError)
  | noPassphrase
  | keystoreMissing (path : String)
  | undecryptable (path : String) (cause : Fault)
  | noCredentials
  | noAnalyticsKey
  deriving Repr, DecidableEq

/-- What the environment of a run says about a network. -/
structure Network where
  name : String
  rpcUrl : String
  registryAddress : String
  chainId : Option Int := none
  beaconApiUrl : String := "https://ethereum-beacon-api.publicnode.com"
  explorerApiUrl : String := "https://beaconcha.in/api/v1"
  newRegistryAddress : Option String := none
  analyticsApiUrl : String := "https://endpoint.sentio.xyz/primev/mevcommit/opened_commits_apr_22"
  analyticsApiKey : Option String := none
  privateKey : Option String := none
  keystoreFile : Option String := none
  keystorePassword : Option String := none
  deriving Repr, DecidableEq

/-- The presets. -/
def presets : List Network := [
  { name := "mev-commit-testnet"
    rpcUrl := "https://chainrpc.testnet.mev-commit.xyz"
    registryAddress := "0xF263483500e849Bd8d452c9A0F075B606ee64087" },
  { name := "holesky"
    rpcUrl := "https://ethereum-holesky-rpc.publicnode.com"
    registryAddress := "0x5d4fC7B5Aeea4CF4F0Ca6Be09A2F5AaDAd2F2803"
    chainId := some 17000
    beaconApiUrl := "https://ethereum-holesky-beacon-api.publicnode.com"
    explorerApiUrl := "https://holesky.beaconcha.in/api/v1"
    newRegistryAddress := some "0x87D5F694fAD0b6C8aaBCa96277DE09451E277Bcf" },
  { name := "mainnet"
    rpcUrl := "https://ethereum-rpc.publicnode.com"
    registryAddress := "0x47afdcB2B089C16CEe354811EA1Bbe0DB7c335E9"
    chainId := some 1 }]

/-- The preset that is used if none is named. -/
def defaultNetwork : String := "mev-commit-testnet"

/-- The names of the presets, in the order of the alphabet. -/
def networkNames : List String := ["holesky", "mainnet", "mev-commit-testnet"]

/-- What is told about an unusable configuration, unless its cause cannot be told. -/
def ConfigError.message : ConfigError → Option String
  | unknownNetwork name =>
    some ("unknown network: " ++ name ++ " (expected one of " ++
      ", ".intercalate networkNames ++ ")")
  | badChainId text => some ("CHAIN_ID must be an integer: " ++ text)
  | badPrivateKey cause => some ("Failed to parse private key: " ++ cause.text)
  | noPassphrase => some "PASSPHRASE not set for KEYSTORE_FILE"
  | keystoreMissing path => some ("keystore file not found: " ++ path)
  | undecryptable path cause =>
    cause.text.toOption.map ("Failed to decrypt keystore " ++ path ++ ": " ++ ·)
  | noCredentials => some "PRIVATE_KEY or KEYSTORE_FILE env var not supplied"
  | noAnalyticsKey => some "ANALYTICS_API_KEY not set (or pass --api-key)"

/-- A variable that is set and not empty. -/
def present? (env : Keyed String String) (name : String) : Option String :=
  (env.find? name).filter (! ·.isEmpty)

/-- The address in a variable, or else that of the preset. -/
def addressOr (env : Keyed String String) (name preset : String) : String :=
  ((present? env name).map Text.trim).getD preset

/-- The identity of the chain in the environment, or else that of the preset. -/
def chainIdOr (env : Keyed String String) (preset : Option Int) : Except ConfigError (Option Int) :=
  match present? env "CHAIN_ID" with
  | none => .ok preset
  | some text =>
    match readInteger (Text.trim text) with
    | .ok n => .ok (some n)
    | .error _ => .error (.badChainId text)

/-- A preset with what an environment changes about it. -/
def Network.configure (n : Network) (env : Keyed String String) : Except ConfigError Network := do
  let chainId ← chainIdOr env n.chainId
  return { n with
    rpcUrl := addressOr env "RPC_URL" n.rpcUrl
    registryAddress := addressOr env "REGISTRY_ADDRESS" n.registryAddress
    chainId
    beaconApiUrl := addressOr env "BEACON_API_URL" n.beaconApiUrl
    explorerApiUrl := addressOr env "EXPLORER_API_URL" n.explorerApiUrl
    analyticsApiUrl := addressOr env "ANALYTICS_API_URL" n.analyticsApiUrl
    analyticsApiKey := present? env "ANALYTICS_API_KEY"
    privateKey := present? env "PRIVATE_KEY"
    keystoreFile := present? env "KEYSTORE_FILE"
    keystorePassword := env.find? "PASSPHRASE" }

/-- The network of a name in an environment. -/
def loadNetwork (name : String) (env : Keyed String String) : Except ConfigError Network :=
  match presets.find? fun n => n.name = name with
  | some n => n.configure env
  | none => .error (.unknownNetwork name)

/-- A text that may be missing as a JSON value. -/
def optionalText : Option String → Json.Value
  | some s => .text s
  | none => .null

/-- What may be shown of a network, by name. -/
def Network.shown (n : Network) : Keyed String Json.Value := [
  ("name", .text n.name),
  ("rpc_url", .text n.rpcUrl),
  ("registry_address", .text n.registryAddress),
  ("chain_id", match n.chainId with | some c => .int c | none => .null),
  ("beacon_api_url", .text n.beaconApiUrl),
  ("explorer_api_url", .text n.explorerApiUrl),
  ("new_registry_address", optionalText n.newRegistryAddress),
  ("analytics_api_url", .text n.analyticsApiUrl),
  ("keystore_file", optionalText n.keystoreFile)]

/-- What is not shown of a network, by name: the credentials. -/
def Network.hidden (n : Network) : Keyed String Json.Value := [
  ("analytics_api_key", optionalText n.analyticsApiKey),
  ("private_key", optionalText n.privateKey),
  ("keystore_password", optionalText n.keystorePassword)]

/-- A network as it is told: the name and the quoted form of each part that may be shown. -/
def Network.quoted (n : Network) : String :=
  "NetworkConfig(" ++ ", ".intercalate (n.shown.map fun (name, v) => name ++ "=" ++ v.quoted) ++ ")"

/-- Does one of the credentials stand in what is told of a network? -/
def Network.tellsSecret (n : Network) : Bool :=
  n.hidden.any fun (_, secret) => secret.isTruthy && Text.contains secret.asText n.quoted

end StakeRegistry.Config
