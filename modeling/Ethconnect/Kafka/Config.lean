import Ethconnect.Basic

/-!
# Kafka connection settings

`CreateTLSConfiguration` turns TLS settings into a `tls.Config`: `nil` when TLS is off, a client
certificate only when both the certificate file and the key file are named, root CAs only when a
CA file is named. `kldutils.CreateTLSConfiguration` and `kafkaCommon.CreateTLSConfiguration`
have one body over fields of two structs, whose key file is `ClientKeyFile` in one and
`PrivateKeyFile` in the other: `createTLSConfiguration`, and
`KafkaCommonConf.createTLSConfiguration` applied to `conf.TLS`. `connect` builds the `cluster.Config` the client is created with, and
`CobraPreRunE` checks a command's settings before it runs.

The TLS library, the UUID generator, the client factory and `kldutils.AllOrNoneReqd` are not
among the repository's files: what they return is a parameter. `Cert` stands for
`tls.Certificate`, and a certificate pool for the PEM it was filled from.

## Main results

* `createTLSConfiguration_ok`: what a configuration built with TLS on holds.
* `connect_ok`: what the client is created with.
-/

namespace Ethconnect.Kafka

/-- What `tls.LoadX509KeyPair` and `ioutil.ReadFile` return. -/
structure TLSFiles (Cert : Type) where
  loadX509KeyPair : String → String → Except String Cert
  readFile : String → Except String (List UInt8)

/-- `kldutils.TLSConfig`. -/
structure TLSConfig where
  clientCertsFile : String
  clientKeyFile : String
  caCertsFile : String
  enabled : Bool
  insecureSkipVerify : Bool

/-- The fields of the `tls.Config` that `CreateTLSConfiguration` sets. -/
structure TLSClientConfig (Cert : Type) where
  certificates : List Cert
  rootCAs : Option (List UInt8)
  insecureSkipVerify : Bool

variable {Cert : Type}

/-- `mutualAuth := ClientCertsFile != "" && ClientKeyFile != ""`. -/
def TLSConfig.mutualAuth (t : TLSConfig) : Bool := t.clientCertsFile != "" && t.clientKeyFile != ""

/-- `kldutils.CreateTLSConfiguration(tlsConfig)`. -/
def createTLSConfiguration (files : TLSFiles Cert) (tlsConfig : TLSConfig) :
    Except String (Option (TLSClientConfig Cert)) := do
  if !tlsConfig.enabled then return none
  let clientCerts ← if tlsConfig.mutualAuth then
      (files.loadX509KeyPair tlsConfig.clientCertsFile tlsConfig.clientKeyFile).map ([·])
    else pure []
  let caCertPool ← if tlsConfig.caCertsFile != "" then
      (files.readFile tlsConfig.caCertsFile).map some
    else pure none
  return some ⟨clientCerts, caCertPool, tlsConfig.insecureSkipVerify⟩

/-- With TLS off the configuration is nil; with TLS on it holds a client certificate exactly
when both the certificate and the key file are named (a lone one is dropped without an error),
root CAs exactly when a CA file is named, and `InsecureSkipVerify` as given. -/
theorem createTLSConfiguration_ok {files : TLSFiles Cert} {t : TLSConfig}
    {r : Option (TLSClientConfig Cert)} (h : createTLSConfiguration files t = .ok r) :
    r.isSome = t.enabled ∧ ∀ cfg ∈ r,
      cfg.certificates.length = (if t.mutualAuth then 1 else 0) ∧
      (cfg.rootCAs.isSome ↔ t.caCertsFile ≠ "") ∧
      cfg.insecureSkipVerify = t.insecureSkipVerify := by
  simp only [createTLSConfiguration, bind, Except.bind, pure, Except.pure, Except.map] at h
  cases he : t.enabled
  · simp only [he] at h
    cases h
    simp
  · cases hl : files.loadX509KeyPair t.clientCertsFile t.clientKeyFile <;>
    cases hr : files.readFile t.caCertsFile <;> cases hm : t.mutualAuth <;>
    cases hc : (t.caCertsFile != "") <;> simp [he, hl, hr, hm, hc] at h <;> subst h <;> simp_all

/-- `KafkaCommonConf.TLS`. -/
structure KafkaTLS where
  clientCertsFile : String
  caCertsFile : String
  enabled : Bool
  privateKeyFile : String
  insecureSkipVerify : Bool

/-- `KafkaCommonConf.SASL`. -/
structure KafkaSASL where
  username : String
  password : String

/-- `KafkaCommonConf`. -/
structure KafkaCommonConf where
  brokers : List String
  clientID : String
  consumerGroup : String
  topicIn : String
  topicOut : String
  sasl : KafkaSASL
  tls : KafkaTLS

/-- `kafkaCommon.CreateTLSConfiguration()`: the same body on `k.conf.TLS`. -/
def KafkaCommonConf.createTLSConfiguration (files : TLSFiles Cert) (conf : KafkaCommonConf) :
    Except String (Option (TLSClientConfig Cert)) :=
  Kafka.createTLSConfiguration files
    ⟨conf.tls.clientCertsFile, conf.tls.privateKeyFile, conf.tls.caCertsFile, conf.tls.enabled,
      conf.tls.insecureSkipVerify⟩

/-- The fields of the `cluster.Config` that `connect` sets; the others keep
`cluster.NewConfig()`'s values. -/
structure ClientConf (Cert : Type) where
  saslEnable : Bool
  saslUser : String
  saslPassword : String
  producerReturnSuccesses : Bool
  producerReturnErrors : Bool
  /-- `sarama.WaitForLocal`. -/
  producerRequiredAcks : Int
  producerFlushFrequencyMs : Nat
  consumerReturnErrors : Bool
  groupReturnNotifications : Bool
  tlsEnable : Bool
  tlsConfig : Option (TLSClientConfig Cert)
  clientID : String

/-- `cluster.NewConfig()`'s SASL settings, which `connect` keeps when it does not turn SASL on. -/
def defaultSASL : Bool × String × String := (false, "", "")

/-- `connect()`: the configuration `factory.NewClient` is given, or the error that ends it.
`uuid` is what `kldutils.UUIDv4()` returns, and `newClient` the error of `NewClient`. -/
def connect (files : TLSFiles Cert) (uuid : String) (newClient : ClientConf Cert → Option String)
    (conf : KafkaCommonConf) : Except String (ClientConf Cert) := do
  let tlsConfig ← conf.createTLSConfiguration files
  let sasl := if conf.sasl.username != "" && conf.sasl.password != "" then
      (true, conf.sasl.username, conf.sasl.password)
    else defaultSASL
  let clientConf : ClientConf Cert :=
    { saslEnable := sasl.1
      saslUser := sasl.2.1
      saslPassword := sasl.2.2
      producerReturnSuccesses := true
      producerReturnErrors := true
      producerRequiredAcks := 1
      producerFlushFrequencyMs := 500
      consumerReturnErrors := true
      groupReturnNotifications := true
      tlsEnable := tlsConfig.isSome
      tlsConfig := tlsConfig
      clientID := if conf.clientID = "" then uuid else conf.clientID }
  match newClient clientConf with
  | some err => throw err
  | none => return clientConf

/-- When `connect` succeeds, `NewClient` accepted a configuration with TLS exactly as configured,
SASL exactly when both a user name and a password are given, and the configured client ID or
else a generated one. -/
theorem connect_ok {files : TLSFiles Cert} {uuid : String}
    {newClient : ClientConf Cert → Option String} {conf : KafkaCommonConf} {cc : ClientConf Cert}
    (h : connect files uuid newClient conf = .ok cc) :
    newClient cc = none ∧ cc.tlsEnable = conf.tls.enabled ∧ cc.tlsEnable = cc.tlsConfig.isSome ∧
      (cc.saslEnable = true ↔ conf.sasl.username ≠ "" ∧ conf.sasl.password ≠ "") ∧
      cc.clientID = (if conf.clientID = "" then uuid else conf.clientID) := by
  simp only [connect, bind, Except.bind] at h
  cases hT : conf.createTLSConfiguration files with
  | error err => simp [hT] at h
  | ok r =>
    have hr := (createTLSConfiguration_ok hT).1
    simp only [hT] at h
    split at h
    · cases h
    · cases h
      refine ⟨‹_›, hr, rfl, ?_, rfl⟩
      by_cases hu : conf.sasl.username = "" <;> by_cases hp : conf.sasl.password = "" <;>
        simp [hu, hp, defaultSASL]

/-- `CobraPreRunE(cmd)`. `allOrNoneReqd` is the error of `kldutils.AllOrNoneReqd(cmd, ...)`. -/
def cobraPreRunE (allOrNoneReqd : List String → Option String) (conf : KafkaCommonConf) :
    Option String :=
  if conf.topicOut = "" then some "No output topic specified for bridge to send events to"
  else if conf.topicIn = "" then some "No input topic specified for bridge to listen to"
  else if conf.consumerGroup = "" then some "No consumer group specified"
  else match allOrNoneReqd ["tls-clientcerts", "tls-clientkey"] with
    | some err => some err
    | none => allOrNoneReqd ["sasl-username", "sasl-password"]

end Ethconnect.Kafka
