/-
The daemon's configuration (`config.rs`).

`Config::load` starts from the defaults, takes the system file, merges the user's file over
it and applies environment variables. Of the TOML parser only its result is used: the
sections present in a file, with the fields they leave out at their defaults. It is a
parameter of the results, as is everything `load` sees of the host: who runs the daemon,
which variables are set (to Unicode; others are not seen by `std::env::var`), where the
user's configuration directory is and which files can be read.

`layered` states what the layers are for: each section from the user's file, or else from
the system's, or else by default, with the variables on top. `Overrides` describes that top
layer without the code: a text is taken as it stands, a number counts if it is a decimal
numeral of its type (`Text.IsNumeral`), a flag is on for `1` and `true`, and a variable that
is not set, or whose text reads as nothing, leaves the field below it alone. `merge_from`
does not layer sections: it replaces all five, those the user's file does not have by their
defaults.

* `applyEnvOverrides_iff` — the code's environment layer is the one `Overrides` describes,
  for every environment and every configuration below it.
* `load_eq_layered_iff` — loading yields the layers exactly when every section missing in the
  user's file is at its defaults in the system's, variables apart.
* `system_denials_dropped` — a user's file that only sets the port lifts the system's
  restrictions on devices.
-/

import Extender.Daemon.DeviceAcl

namespace Extender.Daemon

open Text

/-! ### Sections -/

structure ServerConfig where
  listenAddress : String
  port : UInt16
  maxConnections : UInt32
  tlsCert : Option String
  tlsKey : Option String
  sessionTimeoutSecs : UInt64
deriving DecidableEq, Repr

structure ClientConfig where
  vhciPath : String
  autoReconnect : Bool
  reconnectMaxRetries : UInt32
  reconnectDelaySecs : UInt64
  reconnectMaxDelaySecs : UInt64
deriving DecidableEq, Repr

structure DaemonConfig where
  socketPath : String
  pidFile : String
  logLevel : String
  logFormat : String
  dropUser : Option String
  dropGroup : Option String
  mdnsEnabled : Bool
deriving DecidableEq, Repr

structure TlsConfig where
  cert : Option String
  key : Option String
  ca : Option String
  requireTls : Bool
deriving DecidableEq, Repr

@[ext]
structure Config where
  server : ServerConfig
  client : ClientConfig
  daemon : DaemonConfig
  security : SecurityConfig
  tls : TlsConfig
deriving DecidableEq, Repr

/-- What `load` sees of the host: the user, the environment (variables that are set, to
Unicode), the user's configuration directory and the files that can be read. -/
structure ConfigHost where
  isRoot : Bool
  vars : String → Option String
  configDir : Option String
  readToString : String → Option String

/-- What a file holds: the sections present, complete with defaults, as the parser fills in
what a section leaves out. -/
structure ConfigFile where
  server : Option ServerConfig
  client : Option ClientConfig
  daemon : Option DaemonConfig
  security : Option SecurityConfig
  tls : Option TlsConfig
deriving DecidableEq, Repr

/-! ### Defaults -/

def ServerConfig.default : ServerConfig :=
  { listenAddress := "127.0.0.1", port := 3240, maxConnections := 16, tlsCert := none
    tlsKey := none, sessionTimeoutSecs := 30 }

def ClientConfig.default : ClientConfig :=
  { vhciPath := "/sys/devices/platform/vhci_hcd.0", autoReconnect := true
    reconnectMaxRetries := 0, reconnectDelaySecs := 1, reconnectMaxDelaySecs := 30 }

/-- `default_daemon_paths` on Unix: socket and PID file of root, or those in the user's
runtime directory. -/
def defaultDaemonPaths (host : ConfigHost) : String × String :=
  if host.isRoot then ("/var/run/extender.sock", "/var/run/extender.pid")
  else
    let runtimeDir := (host.vars "XDG_RUNTIME_DIR").getD "/tmp"
    (runtimeDir ++ "/extender.sock", runtimeDir ++ "/extender.pid")

def DaemonConfig.default (host : ConfigHost) : DaemonConfig :=
  { socketPath := (defaultDaemonPaths host).1, pidFile := (defaultDaemonPaths host).2
    logLevel := "info", logFormat := "text", dropUser := none, dropGroup := none
    mdnsEnabled := true }

def SecurityConfig.default : SecurityConfig := { allowedDevices := [], deniedDevices := [] }

def TlsConfig.default : TlsConfig := { cert := none, key := none, ca := none, requireTls := false }

def Config.default (host : ConfigHost) : Config :=
  { server := .default, client := .default, daemon := .default host, security := .default
    tls := .default }

/-! ### Loading -/

def systemConfigPath : String := "/etc/extender/config.toml"

def userConfigPath (host : ConfigHost) : Option String :=
  host.configDir.map fun dir => dir ++ "/extender/config.toml"

/-- `val.parse()` for an unsigned type with values below `limit`. -/
def parseUnsigned (limit : Nat) (val : String) : Option Nat :=
  match fromStrRadix 10 limit val.toList with
  | .ok n => some n
  | .error _ => none

/-- `val == "1" || val.eq_ignore_ascii_case("true")`. -/
def isTruthy (val : String) : Bool := val == "1" || val.toList.map Char.toLower == "true".toList

/-- The value of `EXTENDER_PORT`, if it is set and valid; an invalid one is logged and passed
over. -/
def portVar (vars : String → Option String) : Option UInt16 :=
  ((vars "EXTENDER_PORT").bind (parseUnsigned (2 ^ 16))).map UInt16.ofNat

/-- The value of `EXTENDER_SESSION_TIMEOUT`, if it is set and valid. -/
def sessionTimeoutVar (vars : String → Option String) : Option UInt64 :=
  ((vars "EXTENDER_SESSION_TIMEOUT").bind (parseUnsigned (2 ^ 64))).map UInt64.ofNat

section Load

-- `toml` is `toml::from_str`, which fails on text that is no configuration.
variable (toml : String → Option ConfigFile) (host : ConfigHost)

/-- The file at a path, if it can be read and parsed. -/
def parsedFile (path : String) : Option ConfigFile := (host.readToString path).bind toml

/-- The configuration a file is deserialised to: sections it does not have are at their
defaults. -/
def Config.ofFile (file : ConfigFile) : Config :=
  { server := file.server.getD .default
    client := file.client.getD .default
    daemon := file.daemon.getD (.default host)
    security := file.security.getD .default
    tls := file.tls.getD .default }

def loadFile (path : String) : Option Config :=
  (parsedFile toml host path).map (Config.ofFile host)

def Config.mergeFrom (self other : Config) : Config :=
  { self with
    server := other.server, client := other.client, daemon := other.daemon
    security := other.security, tls := other.tls }

/-- `apply_env_overrides`; each variable sets a field of its own, after the files are
loaded. -/
def Config.applyEnvOverrides (vars : String → Option String) (self : Config) : Config :=
  { self with
    server := { self.server with
      listenAddress := (vars "EXTENDER_HOST").getD self.server.listenAddress
      port := (portVar vars).getD self.server.port
      tlsCert := ((vars "EXTENDER_TLS_CERT").map some).getD self.server.tlsCert
      tlsKey := ((vars "EXTENDER_TLS_KEY").map some).getD self.server.tlsKey
      sessionTimeoutSecs := (sessionTimeoutVar vars).getD self.server.sessionTimeoutSecs }
    client := { self.client with
      autoReconnect :=
        ((vars "EXTENDER_AUTO_RECONNECT").map isTruthy).getD self.client.autoReconnect }
    daemon := { self.daemon with
      socketPath := (vars "EXTENDER_SOCKET").getD self.daemon.socketPath
      logLevel := (vars "EXTENDER_LOG_LEVEL").getD self.daemon.logLevel
      mdnsEnabled := ((vars "EXTENDER_MDNS").map isTruthy).getD self.daemon.mdnsEnabled }
    tls := { self.tls with ca := ((vars "EXTENDER_TLS_CA").map some).getD self.tls.ca } }

def load : Config :=
  let config := Config.default host
  let config :=
    match loadFile toml host systemConfigPath with
    | some system => system
    | none => config
  let config :=
    match userConfigPath host with
    | none => config
    | some userPath =>
        match loadFile toml host userPath with
        | some user => config.mergeFrom user
        | none => config
  config.applyEnvOverrides host.vars

/-! ### The layers -/

/-- The system's file, if it is loaded. -/
def systemFile : Option ConfigFile := parsedFile toml host systemConfigPath

/-- The user's file, if it is loaded. -/
def userFile : Option ConfigFile := (userConfigPath host).bind (parsedFile toml host)

/-- A section of the first of two files that has it, or its default: what the comments of the
module promise. -/
def layer {α : Type} (section? : ConfigFile → Option α) (default : α)
    (user system : Option ConfigFile) : α :=
  ((user.bind section?).or (system.bind section?)).getD default

/-- What the layers are to yield: each section from the first file that has it, and the
environment, which `Overrides` describes field by field, on top. -/
def layered : Config :=
  let user := userFile toml host
  let system := systemFile toml host
  Config.applyEnvOverrides host.vars
    { server := layer ConfigFile.server .default user system
      client := layer ConfigFile.client .default user system
      daemon := layer ConfigFile.daemon (.default host) user system
      security := layer ConfigFile.security .default user system
      tls := layer ConfigFile.tls .default user system }

end Load

/-! ### The environment -/

/-- What a variable makes of a field. If it is set to a text that reads as a value, the field
has that value; otherwise it keeps the one from the layers below. -/
def Overridden {α : Type} (vars : String → Option String) (name : String)
    (Reads : String → α → Prop) (below value : α) : Prop :=
  (∃ text, vars name = some text ∧ Reads text value) ∨
    (∀ text, vars name = some text → ∀ v, ¬ Reads text v) ∧ value = below

/-- A flag is on for the text `1` and for `true` in any mixture of cases, and off for every
other text. -/
def IsFlag (text : String) (value : Bool) : Prop :=
  value = true ↔ text = "1" ∨
    List.Forall₂ (fun c letter => c = letter ∨ c = letter.toUpper) text.toList "true".toList

/-- The environment described field by field: `config` is `below` with the variables applied.
A text is taken as it is, a number has to be a decimal numeral of its type, and the fields
that no variable names stay as they are. -/
structure Overrides (vars : String → Option String) (below config : Config) : Prop where
  listenAddress : Overridden vars "EXTENDER_HOST" (fun text value => value = text)
    below.server.listenAddress config.server.listenAddress
  port : Overridden vars "EXTENDER_PORT" (fun text value => IsNumeral 10 text.toList value.toNat)
    below.server.port config.server.port
  tlsCert : Overridden vars "EXTENDER_TLS_CERT" (fun text value => value = some text)
    below.server.tlsCert config.server.tlsCert
  tlsKey : Overridden vars "EXTENDER_TLS_KEY" (fun text value => value = some text)
    below.server.tlsKey config.server.tlsKey
  sessionTimeoutSecs : Overridden vars "EXTENDER_SESSION_TIMEOUT"
    (fun text value => IsNumeral 10 text.toList value.toNat)
    below.server.sessionTimeoutSecs config.server.sessionTimeoutSecs
  autoReconnect : Overridden vars "EXTENDER_AUTO_RECONNECT" IsFlag
    below.client.autoReconnect config.client.autoReconnect
  socketPath : Overridden vars "EXTENDER_SOCKET" (fun text value => value = text)
    below.daemon.socketPath config.daemon.socketPath
  logLevel : Overridden vars "EXTENDER_LOG_LEVEL" (fun text value => value = text)
    below.daemon.logLevel config.daemon.logLevel
  mdnsEnabled : Overridden vars "EXTENDER_MDNS" IsFlag
    below.daemon.mdnsEnabled config.daemon.mdnsEnabled
  ca : Overridden vars "EXTENDER_TLS_CA" (fun text value => value = some text)
    below.tls.ca config.tls.ca
  server : config.server = { below.server with
    listenAddress := config.server.listenAddress, port := config.server.port
    tlsCert := config.server.tlsCert, tlsKey := config.server.tlsKey
    sessionTimeoutSecs := config.server.sessionTimeoutSecs }
  client : config.client = { below.client with autoReconnect := config.client.autoReconnect }
  daemon : config.daemon = { below.daemon with
    socketPath := config.daemon.socketPath, logLevel := config.daemon.logLevel
    mdnsEnabled := config.daemon.mdnsEnabled }
  security : config.security = below.security
  tls : config.tls = { below.tls with ca := config.tls.ca }

/-- A field that is read by a function follows its variable. -/
theorem overridden_iff {α : Type} {vars : String → Option String} {name : String}
    {Reads : String → α → Prop} (read : String → Option α)
    (hread : ∀ text v, read text = some v ↔ Reads text v) {below value : α} :
    Overridden vars name Reads below value ↔ value = ((vars name).bind read).getD below := by
  unfold Overridden
  cases hvar : vars name with
  | none => simp
  | some text =>
      rw [Option.bind_some]
      cases hvalue : read text with
      | none =>
          have hnone : ∀ v, ¬ Reads text v := by
            intro v hv
            rw [(hread text v).mpr hv] at hvalue
            cases hvalue
          simp [hnone]
      | some v =>
          have honly : ∀ w, Reads text w ↔ w = v := by
            intro w
            rw [← hread, hvalue, Option.some.injEq, eq_comm]
          simp [honly]

theorem parseUnsigned_eq_some_iff {limit n : Nat} (hpos : 0 < limit) {text : String} :
    parseUnsigned limit text = some n ↔ IsNumeral 10 text.toList n ∧ n < limit := by
  rw [← fromStrRadix_eq_ok_iff (by decide) hpos, parseUnsigned]
  cases fromStrRadix 10 limit text.toList with
  | ok v => simp
  | error e => simp

/-- The code's test recognises the texts that stand for a flag that is on. -/
theorem isFlag_iff (text : String) (value : Bool) :
    IsFlag text value ↔ value = isTruthy text := by
  have hletters : ∀ letter ∈ "true".toList, 'a'.val ≤ letter.val ∧ letter.val ≤ 'z'.val := by
    simp
  unfold IsFlag isTruthy
  rw [← map_toLower_eq_iff hletters]
  cases value with
  | true => simp
  | false => simp

section Fields

variable {vars : String → Option String} {name : String}

theorem overridden_text {below value : String} :
    Overridden vars name (fun text value => value = text) below value ↔
      value = (vars name).getD below := by
  rw [overridden_iff some fun text v => by rw [Option.some.injEq, eq_comm],
    Option.bind_fun_some]

theorem overridden_path {below value : Option String} :
    Overridden vars name (fun text value => value = some text) below value ↔
      value = ((vars name).map some).getD below := by
  rw [overridden_iff (some ∘ some) fun text v => by
    rw [Function.comp_apply, Option.some.injEq, eq_comm], ← Option.map_eq_bind]

theorem overridden_flag {below value : Bool} :
    Overridden vars name IsFlag below value ↔
      value = ((vars name).map isTruthy).getD below := by
  rw [overridden_iff (some ∘ isTruthy) fun text v => by
    rw [Function.comp_apply, Option.some.injEq, eq_comm, isFlag_iff], ← Option.map_eq_bind]

/-- A numeral of a type with values below `limit`, which `ofNat` and `toNat` count. -/
theorem overridden_numeral {α : Type} {limit : Nat} {ofNat : Nat → α} {toNat : α → Nat}
    (hlt : ∀ v, toNat v < limit) (hofNat : ∀ v, ofNat (toNat v) = v)
    (htoNat : ∀ n < limit, toNat (ofNat n) = n) {below value : α} :
    Overridden vars name (fun text v => IsNumeral 10 text.toList (toNat v)) below value ↔
      value = (((vars name).bind (parseUnsigned limit)).map ofNat).getD below := by
  have hpos : 0 < limit := Nat.zero_lt_of_lt (hlt value)
  have hread : ∀ text v, (parseUnsigned limit text).map ofNat = some v ↔
      IsNumeral 10 text.toList (toNat v) := by
    intro text v
    rw [Option.map_eq_some_iff]
    constructor
    · rintro ⟨n, hn, rfl⟩
      obtain ⟨hnumeral, hn⟩ := (parseUnsigned_eq_some_iff hpos).mp hn
      rwa [htoNat n hn]
    · intro hnumeral
      exact ⟨toNat v, (parseUnsigned_eq_some_iff hpos).mpr ⟨hnumeral, hlt v⟩, hofNat v⟩
  rw [overridden_iff _ hread, Option.map_bind]
  rfl

theorem overridden_port {below value : UInt16} :
    Overridden vars "EXTENDER_PORT" (fun text value => IsNumeral 10 text.toList value.toNat)
      below value ↔ value = (portVar vars).getD below :=
  overridden_numeral UInt16.toNat_lt (fun _ => UInt16.ofNat_toNat)
    (fun _ => UInt16.toNat_ofNat_of_lt')

theorem overridden_sessionTimeout {below value : UInt64} :
    Overridden vars "EXTENDER_SESSION_TIMEOUT"
      (fun text value => IsNumeral 10 text.toList value.toNat) below value ↔
        value = (sessionTimeoutVar vars).getD below :=
  overridden_numeral UInt64.toNat_lt (fun _ => UInt64.ofNat_toNat)
    (fun _ => UInt64.toNat_ofNat_of_lt')

end Fields

/-- **The environment layer.** `applyEnvOverrides` yields the configuration the variables
describe, field by field, and no other. -/
theorem applyEnvOverrides_iff (vars : String → Option String) (below config : Config) :
    config = below.applyEnvOverrides vars ↔ Overrides vars below config := by
  constructor
  · rintro rfl
    exact
      { listenAddress := overridden_text.mpr rfl
        port := overridden_port.mpr rfl
        tlsCert := overridden_path.mpr rfl
        tlsKey := overridden_path.mpr rfl
        sessionTimeoutSecs := overridden_sessionTimeout.mpr rfl
        autoReconnect := overridden_flag.mpr rfl
        socketPath := overridden_text.mpr rfl
        logLevel := overridden_text.mpr rfl
        mdnsEnabled := overridden_flag.mpr rfl
        ca := overridden_path.mpr rfl
        server := rfl
        client := rfl
        daemon := rfl
        security := rfl
        tls := rfl }
  · intro h
    have hserver : config.server = (below.applyEnvOverrides vars).server := by
      rw [h.server, overridden_text.mp h.listenAddress, overridden_port.mp h.port,
        overridden_path.mp h.tlsCert, overridden_path.mp h.tlsKey,
        overridden_sessionTimeout.mp h.sessionTimeoutSecs]
      rfl
    have hclient : config.client = (below.applyEnvOverrides vars).client := by
      rw [h.client, overridden_flag.mp h.autoReconnect]
      rfl
    have hdaemon : config.daemon = (below.applyEnvOverrides vars).daemon := by
      rw [h.daemon, overridden_text.mp h.socketPath, overridden_text.mp h.logLevel,
        overridden_flag.mp h.mdnsEnabled]
      rfl
    have htls : config.tls = (below.applyEnvOverrides vars).tls := by
      rw [h.tls, overridden_path.mp h.ca]
      rfl
    exact Config.ext hserver hclient hdaemon h.security htls

/-- The layers are the sections of the files with the environment on top of them, in which
each variable decides the field it names. -/
theorem layered_overrides (toml : String → Option ConfigFile) (host : ConfigHost) :
    Overrides host.vars
      { server := layer ConfigFile.server .default (userFile toml host) (systemFile toml host)
        client := layer ConfigFile.client .default (userFile toml host) (systemFile toml host)
        daemon := layer ConfigFile.daemon (.default host) (userFile toml host)
          (systemFile toml host)
        security := layer ConfigFile.security .default (userFile toml host)
          (systemFile toml host)
        tls := layer ConfigFile.tls .default (userFile toml host) (systemFile toml host) }
      (layered toml host) :=
  (applyEnvOverrides_iff host.vars _ _).mp rfl

/-! ### Agreement outside the variables -/

/-- The two agree in every field that no set and valid variable overrides. -/
def ServerConfig.AgreesOutside (vars : String → Option String) (a b : ServerConfig) : Prop :=
  (a.listenAddress = b.listenAddress ∨ (vars "EXTENDER_HOST").isSome) ∧
    (a.port = b.port ∨ (portVar vars).isSome) ∧
    a.maxConnections = b.maxConnections ∧
    (a.tlsCert = b.tlsCert ∨ (vars "EXTENDER_TLS_CERT").isSome) ∧
    (a.tlsKey = b.tlsKey ∨ (vars "EXTENDER_TLS_KEY").isSome) ∧
    (a.sessionTimeoutSecs = b.sessionTimeoutSecs ∨ (sessionTimeoutVar vars).isSome)

@[inherit_doc ServerConfig.AgreesOutside]
def ClientConfig.AgreesOutside (vars : String → Option String) (a b : ClientConfig) : Prop :=
  a.vhciPath = b.vhciPath ∧
    (a.autoReconnect = b.autoReconnect ∨ (vars "EXTENDER_AUTO_RECONNECT").isSome) ∧
    a.reconnectMaxRetries = b.reconnectMaxRetries ∧
    a.reconnectDelaySecs = b.reconnectDelaySecs ∧
    a.reconnectMaxDelaySecs = b.reconnectMaxDelaySecs

@[inherit_doc ServerConfig.AgreesOutside]
def DaemonConfig.AgreesOutside (vars : String → Option String) (a b : DaemonConfig) : Prop :=
  (a.socketPath = b.socketPath ∨ (vars "EXTENDER_SOCKET").isSome) ∧
    a.pidFile = b.pidFile ∧
    (a.logLevel = b.logLevel ∨ (vars "EXTENDER_LOG_LEVEL").isSome) ∧
    a.logFormat = b.logFormat ∧ a.dropUser = b.dropUser ∧ a.dropGroup = b.dropGroup ∧
    (a.mdnsEnabled = b.mdnsEnabled ∨ (vars "EXTENDER_MDNS").isSome)

@[inherit_doc ServerConfig.AgreesOutside]
def TlsConfig.AgreesOutside (vars : String → Option String) (a b : TlsConfig) : Prop :=
  a.cert = b.cert ∧ a.key = b.key ∧ (a.ca = b.ca ∨ (vars "EXTENDER_TLS_CA").isSome) ∧
    a.requireTls = b.requireTls

theorem getD_eq_getD_iff {α : Type} (x : Option α) (a b : α) :
    x.getD a = x.getD b ↔ a = b ∨ x.isSome := by
  cases x with
  | none => simp
  | some v => simp

/-- The variables hide a difference in the fields they set, and no other; so two
configurations are told apart by the rest. -/
theorem applyEnvOverrides_eq_iff (vars : String → Option String) (a b : Config) :
    a.applyEnvOverrides vars = b.applyEnvOverrides vars ↔
      a.server.AgreesOutside vars b.server ∧ a.client.AgreesOutside vars b.client ∧
        a.daemon.AgreesOutside vars b.daemon ∧ a.security = b.security ∧
        a.tls.AgreesOutside vars b.tls := by
  simp only [Config.applyEnvOverrides, Config.mk.injEq, ServerConfig.mk.injEq,
    ClientConfig.mk.injEq, DaemonConfig.mk.injEq, TlsConfig.mk.injEq, getD_eq_getD_iff,
    Option.isSome_map, ServerConfig.AgreesOutside, ClientConfig.AgreesOutside,
    DaemonConfig.AgreesOutside, TlsConfig.AgreesOutside]

/-- A section missing in the user's file is the one the system's file is compared with. -/
theorem layer_some_iff {α : Type} (R : α → α → Prop) (hrefl : ∀ a, R a a)
    (section? : ConfigFile → Option α) (default : α) (user : ConfigFile)
    (system : Option ConfigFile) :
    R ((section? user).getD default) (layer section? default (some user) system) ↔
      (section? user = none → R default ((system.bind section?).getD default)) := by
  unfold layer
  cases huser : section? user with
  | none => simp [huser]
  | some a => simp [huser, hrefl]

section Layers

variable (toml : String → Option ConfigFile) (host : ConfigHost)

/-- Each section that `user` lacks is at its defaults in the system's file, or missing there
too, in the fields that no variable overrides. -/
structure DefaultWhereMissing (user : ConfigFile) : Prop where
  server : user.server = none → ServerConfig.AgreesOutside host.vars .default
    (((systemFile toml host).bind ConfigFile.server).getD .default)
  client : user.client = none → ClientConfig.AgreesOutside host.vars .default
    (((systemFile toml host).bind ConfigFile.client).getD .default)
  daemon : user.daemon = none → DaemonConfig.AgreesOutside host.vars (.default host)
    (((systemFile toml host).bind ConfigFile.daemon).getD (.default host))
  security : user.security = none → SecurityConfig.default =
    ((systemFile toml host).bind ConfigFile.security).getD .default
  tls : user.tls = none → TlsConfig.AgreesOutside host.vars .default
    (((systemFile toml host).bind ConfigFile.tls).getD .default)

/-- The layers below the variables, without a user's file. -/
def systemLayers : Config :=
  { server := layer ConfigFile.server .default none (systemFile toml host)
    client := layer ConfigFile.client .default none (systemFile toml host)
    daemon := layer ConfigFile.daemon (.default host) none (systemFile toml host)
    security := layer ConfigFile.security .default none (systemFile toml host)
    tls := layer ConfigFile.tls .default none (systemFile toml host) }

theorem loadFile_system :
    (match loadFile toml host systemConfigPath with
      | some system => system
      | none => Config.default host) = systemLayers toml host := by
  unfold loadFile systemLayers systemFile layer
  cases parsedFile toml host systemConfigPath with
  | none => rfl
  | some file => rfl

/-- What is loaded: the user's file and nothing else, if there is one, since merging takes all
five of its sections. -/
theorem load_eq :
    load toml host =
      ((match userFile toml host with
        | some user => Config.ofFile host user
        | none => systemLayers toml host).applyEnvOverrides host.vars) := by
  unfold load
  simp only [loadFile_system]
  unfold userFile
  cases userConfigPath host with
  | none => rfl
  | some path =>
      simp only [Option.bind_some, loadFile]
      cases parsedFile toml host path with
      | none => rfl
      | some file => rfl

/-- **Layering.** For every parser, host, system and user file and environment, loading
yields the layers if and only if every section missing in the user's file is at its defaults
in the system's, variables apart; without a user's file it always does. -/
theorem load_eq_layered_iff :
    load toml host = layered toml host ↔
      ∀ user, userFile toml host = some user → DefaultWhereMissing toml host user := by
  rw [load_eq]
  unfold layered
  cases userFile toml host with
  | none => exact iff_of_true rfl fun _ h => nomatch h
  | some user =>
      simp only [applyEnvOverrides_eq_iff]
      have hserver := layer_some_iff (ServerConfig.AgreesOutside host.vars)
        (fun _ => by simp [ServerConfig.AgreesOutside]) ConfigFile.server .default user
        (systemFile toml host)
      have hclient := layer_some_iff (ClientConfig.AgreesOutside host.vars)
        (fun _ => by simp [ClientConfig.AgreesOutside]) ConfigFile.client .default user
        (systemFile toml host)
      have hdaemon := layer_some_iff (DaemonConfig.AgreesOutside host.vars)
        (fun _ => by simp [DaemonConfig.AgreesOutside]) ConfigFile.daemon (.default host) user
        (systemFile toml host)
      have hsecurity := layer_some_iff Eq (fun _ => rfl) ConfigFile.security .default user
        (systemFile toml host)
      have htls := layer_some_iff (TlsConfig.AgreesOutside host.vars)
        (fun _ => by simp [TlsConfig.AgreesOutside]) ConfigFile.tls .default user
        (systemFile toml host)
      show ServerConfig.AgreesOutside _ _ _ ∧ ClientConfig.AgreesOutside _ _ _ ∧
        DaemonConfig.AgreesOutside _ _ _ ∧ _ ∧ TlsConfig.AgreesOutside _ _ _ ↔ _
      constructor
      · rintro ⟨h₁, h₂, h₃, h₄, h₅⟩ user' huser'
        cases huser'
        exact ⟨hserver.mp h₁, hclient.mp h₂, hdaemon.mp h₃, hsecurity.mp h₄, htls.mp h₅⟩
      · intro h
        obtain ⟨h₁, h₂, h₃, h₄, h₅⟩ := h user rfl
        exact ⟨hserver.mpr h₁, hclient.mpr h₂, hdaemon.mpr h₃, hsecurity.mpr h₄, htls.mpr h₅⟩

end Layers

/-- A file without sections. -/
def ConfigFile.empty : ConfigFile :=
  { server := none, client := none, daemon := none, security := none, tls := none }

/-- The parser on the two files of the next theorem. -/
def sampleToml (text : String) : Option ConfigFile :=
  if text = "[security]\ndenied_devices = [\"0bda:*\"]\n" then
    some { ConfigFile.empty with
      security := some { allowedDevices := [], deniedDevices := ["0bda:*"] } }
  else if text = "[server]\nport = 4000\n" then
    some { ConfigFile.empty with server := some { ServerConfig.default with port := 4000 } }
  else none

/-- A host whose system denies the devices of a vendor, and whose user moves the port. -/
def sampleHost : ConfigHost :=
  { isRoot := false, vars := fun _ => none, configDir := some "/home/user/.config"
    readToString := fun path =>
      if path = "/etc/extender/config.toml" then
        some "[security]\ndenied_devices = [\"0bda:*\"]\n"
      else if path = "/home/user/.config/extender/config.toml" then
        some "[server]\nport = 4000\n"
      else none }

/-- The devices the system denies are no longer denied, once a user has a file, whatever is in
it. -/
theorem system_denials_dropped :
    ¬ ∀ (toml : String → Option ConfigFile) (host : ConfigHost),
      load toml host = layered toml host := by
  intro hall
  have hdenied : (load sampleToml sampleHost).security.deniedDevices = [] := by decide +kernel
  have hlayered : (layered sampleToml sampleHost).security.deniedDevices = ["0bda:*"] := by
    decide +kernel
  rw [hall, hlayered] at hdenied
  cases hdenied

end Extender.Daemon
