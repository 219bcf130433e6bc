import BlockchainWatcher.Foundation.Primitives

/-! # `NewSuperNodeConfigs` (`super_node/shared/config.go`)

A pass's `err` is the loop's outer one: an Ethereum sync dial assigns it and
nothing reads it before the next pass's `NewChainType` overwrites it. -/

namespace BlockchainWatcher.Shared

/-- Modelled from the spec: `ChainType`, one of the two chains. -/
inductive ChainType where
  | ethereum
  | bitcoin
  deriving DecidableEq, Repr

structure Node where
  genesisBlock : String
  networkID : String
  id : String
  clientName : String
  deriving DecidableEq, Repr, Inhabited

structure DatabaseConfig where
  name : String
  hostname : String
  port : BitVec 64
  user : String
  password : String
  deriving DecidableEq, Repr

structure ConnConfig where
  host : String
  httpPostMode : Bool
  disableTLS : Bool
  pass : String
  user : String
  deriving DecidableEq, Repr

/-- The `interface{}` values of the client fields. -/
inductive Client where
  /-- `nil`. -/
  | nil
  /-- The `*client.RPCClient` that `getEthNodeAndClient` dials at a path. -/
  | rpc (path : String)
  /-- A `*rpcclient.ConnConfig`. -/
  | connConfig (config : ConnConfig)
  deriving DecidableEq, Repr

/-- `SuperNodeConfig`, without the `DB` that `LoadPostgres` opens and the fresh
`Quit` channel. `int` and `time.Duration` are 64-bit words read as signed,
`uint64` the same word read as unsigned. -/
structure SuperNodeConfig where
  chain : ChainType
  ipfsPath : String
  dbConfig : DatabaseConfig
  serve : Bool
  wsEndpoint : String
  httpEndpoint : String
  ipcEndpoint : String
  sync : Bool
  workers : BitVec 64
  wsClient : Client
  nodeInfo : Node
  backFill : Bool
  httpClient : Client
  frequency : BitVec 64
  batchSize : BitVec 64
  deriving DecidableEq, Repr

def SuperNodeConfig.new (chain : ChainType) : SuperNodeConfig where
  chain := chain
  ipfsPath := ""
  dbConfig := ⟨"", "", 0, "", ""⟩
  serve := false
  wsEndpoint := ""
  httpEndpoint := ""
  ipcEndpoint := ""
  sync := false
  workers := 0
  wsClient := .nil
  nodeInfo := default
  backFill := false
  httpClient := .nil
  frequency := 0
  batchSize := 0

/-- The configuration `viper` has read, through the getters the file calls. A
missing key reads as the zero of the getter's type. -/
structure Viper where
  getString : String → String
  getInt : String → BitVec 64
  getInt64 : String → BitVec 64
  getBool : String → Bool
  getStringSlice : String → List String

structure Environment where
  /-- `os.UserHomeDir()`. -/
  userHomeDir : Except String String
  /-- `filepath.Join`. -/
  join : String → String → String
  /-- Modelled from the spec: `NewChainType`. -/
  newChainType : String → Except String ChainType
  /-- `rpc.Dial(path)`, answering the node the client built on it describes
  (`blockChain.Node()`). -/
  dial : String → Except String Node
  /-- The error of `postgres.NewDB`, if any. -/
  newDB : DatabaseConfig → Node → Option String

def chainKey (chain suffix : String) : String :=
  "superNode." ++ chain ++ "." ++ suffix

def second : BitVec 64 :=
  1000000000

section Config

variable (viper : Viper) (env : Environment)

def getEthNodeAndClient (path : String) : Node × Client × Option String :=
  match env.dial path with
  | .error err => (default, .nil, some err)
  | .ok node => (node, .rpc path, none)

def backFillClient (chainType : ChainType) : Except String Client :=
  match chainType with
  | .ethereum =>
      match getEthNodeAndClient env (viper.getString "superNode.ethereum.backFill.httpPath") with
      | (_, _, some err) => .error err
      | (_, httpClient, none) => .ok httpClient
  | .bitcoin =>
      .ok (.connConfig
        { host := viper.getString "superNode.bitcoin.backFill.httpPath"
          httpPostMode := true
          disableTLS := true
          pass := viper.getString "superNode.bitcoin.backFill.pass"
          user := viper.getString "superNode.bitcoin.backFill.user" })

/-- `BackFillFields`. It sets `BackFill` before the client's error, but on an
error the caller drops the config, so the error leaves nothing behind. -/
def backFillFields (sn : SuperNodeConfig) (chain : String) : Except String SuperNodeConfig :=
  match backFillClient viper env sn.chain with
  | .error err => .error err
  | .ok httpClient =>
      let freq := viper.getInt (chainKey chain "backFill.frequency")
      let frequency := if freq.toInt ≤ 0 then second * 30 else second * freq
      .ok { sn with
        backFill := true
        httpClient := httpClient
        frequency := frequency
        batchSize := viper.getInt64 (chainKey chain "backFill.batchSize") }

/-- The `if sn.Sync` block: the workers, at least one, and the chain's node and
client. An Ethereum dial's error is what the outer `err` holds after it. -/
def syncFields (sn : SuperNodeConfig) : SuperNodeConfig × Option String :=
  if sn.sync then
    let workers := viper.getInt "superNode.sync.workers"
    let sn := { sn with workers := if workers.toInt < 1 then 1 else workers }
    match sn.chain with
    | .ethereum =>
        match getEthNodeAndClient env (viper.getString "superNode.ethereum.sync.wsPath") with
        | (nodeInfo, wsClient, err) => ({ sn with nodeInfo := nodeInfo, wsClient := wsClient }, err)
    | .bitcoin =>
        ({ sn with
          nodeInfo :=
            { id := viper.getString "superNode.bitcoin.node.nodeID"
              clientName := viper.getString "superNode.bitcoin.node.clientName"
              genesisBlock := viper.getString "superNode.bitcoin.node.genesisBlock"
              networkID := viper.getString "superNode.bitcoin.node.networkID" }
          wsClient := .connConfig
            { host := viper.getString "superNode.bitcoin.sync.wsPath"
              httpPostMode := true
              disableTLS := true
              pass := viper.getString "superNode.bitcoin.sync.pass"
              user := viper.getString "superNode.bitcoin.sync.user" } }, none)
  else (sn, none)

/-- The `if sn.Serve` block: the three endpoints, each with its default. The
IPC default needs the home directory, whose error ends the call. -/
def serveFields (sn : SuperNodeConfig) (chain : String) : Except String SuperNodeConfig :=
  if sn.serve then
    let wsPath := viper.getString (chainKey chain "server.wsPath")
    let ipcPath := viper.getString (chainKey chain "server.ipcPath")
    let ipcEndpoint : Except String String :=
      if ipcPath = "" then env.userHomeDir.map fun home => env.join home ".vulcanize/vulcanize.ipc"
      else .ok ipcPath
    match ipcEndpoint with
    | .error err => .error err
    | .ok ipcEndpoint =>
        let httpPath := viper.getString (chainKey chain "server.httpPath")
        .ok { sn with
          wsEndpoint := if wsPath = "" then "ws://127.0.0.1:8546" else wsPath
          ipcEndpoint := ipcEndpoint
          httpEndpoint := if httpPath = "" then "http://127.0.0.1:8545" else httpPath }
  else .ok sn

inductive ChainOutcome where
  /-- The chain's config, and what the outer `err` holds after the pass. -/
  | configured (config : SuperNodeConfig) (err : Option String)
  /-- `return nil, err`. -/
  | returned (err : String)
  /-- `log.Fatalf` in `utils.LoadPostgres`: the process exits. -/
  | fatal (message : String)
  deriving DecidableEq, Repr

def chainConfig (ipfsPath chain : String) (chainType : ChainType) : SuperNodeConfig :=
  { SuperNodeConfig.new chainType with
    dbConfig :=
      { name := viper.getString (chainKey chain "database.name")
        hostname := viper.getString (chainKey chain "database.hostname")
        port := viper.getInt (chainKey chain "database.port")
        user := viper.getString (chainKey chain "database.user")
        password := viper.getString (chainKey chain "database.password") }
    ipfsPath := ipfsPath
    serve := viper.getBool (chainKey chain "server.on")
    sync := viper.getBool (chainKey chain "sync.on") }

def configureChain (ipfsPath chain : String) : ChainOutcome :=
  match env.newChainType chain with
  | .error err => .returned err
  | .ok chainType =>
      let (sn, err) := syncFields viper env (chainConfig viper ipfsPath chain chainType)
      match serveFields viper env sn chain with
      | .error err => .returned err
      | .ok sn =>
          match env.newDB sn.dbConfig sn.nodeInfo with
          | some dbErr => .fatal ("Error loading postgres\n" ++ dbErr)
          | none =>
              if viper.getBool (chainKey chain "backFill.on") then
                match backFillFields viper env sn chain with
                | .error err => .returned err
                | .ok sn => .configured sn err
              else .configured sn err

inductive Outcome where
  | returned (configs : Option (List SuperNodeConfig)) (err : Option String)
  | fatal (message : String)
  deriving DecidableEq, Repr

def newSuperNodeConfigsLoop (ipfsPath : String) :
    List String → List SuperNodeConfig → Option String → Outcome
  | [], configs, err => .returned (some configs) err
  | chain :: rest, configs, _ =>
      match configureChain viper env ipfsPath chain with
      | .configured sn err => newSuperNodeConfigsLoop ipfsPath rest (configs ++ [sn]) err
      | .returned err => .returned none (some err)
      | .fatal message => .fatal message

def resolveIpfsPath : Except String String :=
  let ipfsPath := viper.getString "superNode.ipfsPath"
  if ipfsPath = "" then env.userHomeDir.map fun home => env.join home ".ipfs" else .ok ipfsPath

def newSuperNodeConfigs : Outcome :=
  match resolveIpfsPath viper env with
  | .error err => .returned none (some err)
  | .ok ipfsPath =>
      newSuperNodeConfigsLoop viper env ipfsPath (viper.getStringSlice "superNode.chains") [] none

end Config

/-! ## A concrete configuration -/

/-- Two chains, Ethereum then Bitcoin, both syncing; Bitcoin back-fills with a
frequency past the `int64` range of nanoseconds and a batch size of -1. -/
def sampleViper : Viper where
  getString key := if key = "superNode.ipfsPath" then "/ipfs" else ""
  getInt key := if key = chainKey "bitcoin" "backFill.frequency" then 9223372037 else 0
  getInt64 key := if key = chainKey "bitcoin" "backFill.batchSize" then -1 else 0
  getBool key := key = chainKey "ethereum" "sync.on" || key = chainKey "bitcoin" "sync.on" ||
    key = chainKey "bitcoin" "backFill.on"
  getStringSlice _ := ["ethereum", "bitcoin"]

def sampleEnvironment : Environment where
  userHomeDir := .ok "/root"
  join home path := home ++ "/" ++ path
  newChainType chain :=
    if chain = "ethereum" then .ok .ethereum
    else if chain = "bitcoin" then .ok .bitcoin
    else .error ("invalid chain type: " ++ chain)
  dial path := .error ("dial " ++ path ++ ": connection refused")
  newDB _ _ := none

/-! ## Passes and runs -/

/-- What the defaults guarantee of a config: a syncing chain has a worker, and a
serving chain a WebSocket and an HTTP endpoint. -/
def SuperNodeConfig.Checked (config : SuperNodeConfig) : Prop :=
  (config.sync = true → 1 ≤ config.workers.toInt) ∧
    (config.serve = true → config.wsEndpoint ≠ "" ∧ config.httpEndpoint ≠ "")

theorem second_toInt : second.toInt = 1000000000 := by
  decide

theorem toNat_eq_int64 (x : BitVec 64) :
    (x.toNat : Int) = if x.toInt < 0 then x.toInt + 2 ^ 64 else x.toInt := by
  rw [BitVec.toInt_eq_toNat_cond]
  have := x.isLt
  simp only [Nat.reducePow] at *
  split <;> split <;> omega

section Passes

variable (viper : Viper) (env : Environment)

/-- The error a pass leaves in the outer `err`: the failed dial of an Ethereum
chain's sync. -/
def syncDialError (chain : String) : Option String :=
  match env.newChainType chain with
  | .ok .ethereum =>
      if viper.getBool (chainKey chain "sync.on") then
        (getEthNodeAndClient env (viper.getString "superNode.ethereum.sync.wsPath")).2.2
      else none
  | _ => none

theorem syncFields_fst (sn : SuperNodeConfig) :
    ∃ workers nodeInfo wsClient, (sn.sync = true → 1 ≤ workers.toInt) ∧
      (syncFields viper env sn).1 =
        { sn with workers := workers, nodeInfo := nodeInfo, wsClient := wsClient } := by
  unfold syncFields
  split
  · have positive :
        ∀ workers : BitVec 64, 1 ≤ (if workers.toInt < 1 then 1 else workers).toInt := by
      intro workers
      split
      · decide
      · omega
    dsimp only
    cases sn.chain <;> exact ⟨_, _, _, fun _ => positive _, rfl⟩
  · exact ⟨sn.workers, sn.nodeInfo, sn.wsClient, by simp_all, rfl⟩

theorem syncFields_snd (sn : SuperNodeConfig) :
    (syncFields viper env sn).2 =
      if sn.sync then
        match sn.chain with
        | .ethereum =>
            (getEthNodeAndClient env (viper.getString "superNode.ethereum.sync.wsPath")).2.2
        | .bitcoin => none
      else none := by
  unfold syncFields
  split
  · dsimp only
    cases sn.chain <;> rfl
  · rfl

variable {viper env}

theorem backFillFields_eq_ok {sn sn' : SuperNodeConfig} {chain : String}
    (filled : backFillFields viper env sn chain = .ok sn') :
    ∃ httpClient, sn' = { sn with
      backFill := true
      httpClient := httpClient
      frequency :=
        let freq := viper.getInt (chainKey chain "backFill.frequency")
        if freq.toInt ≤ 0 then second * 30 else second * freq
      batchSize := viper.getInt64 (chainKey chain "backFill.batchSize") } := by
  unfold backFillFields at filled
  cases client : backFillClient viper env sn.chain with
  | error err => simp [client] at filled
  | ok httpClient => exact ⟨httpClient, by simpa [client, eq_comm] using filled⟩

theorem serveFields_eq_ok {sn sn' : SuperNodeConfig} {chain : String}
    (served : serveFields viper env sn chain = .ok sn') :
    sn.serve = false ∧ sn' = sn ∨ sn.serve = true ∧ ∃ wsEndpoint ipcEndpoint httpEndpoint,
      wsEndpoint ≠ "" ∧ httpEndpoint ≠ "" ∧
      sn' = { sn with
        wsEndpoint := wsEndpoint
        ipcEndpoint := ipcEndpoint
        httpEndpoint := httpEndpoint } := by
  unfold serveFields at served
  split at served
  · dsimp only at served
    split at served
    · simp at served
    · refine .inr ⟨by assumption, _, _, _, ?_, ?_, (Except.ok.inj served).symm⟩ <;>
        split <;> simp_all
  · exact .inl ⟨by simpa using ‹¬sn.serve = true›, (Except.ok.inj served).symm⟩

theorem configureChain_configured {ipfsPath chain : String} {config : SuperNodeConfig}
    {err : Option String}
    (configured : configureChain viper env ipfsPath chain = .configured config err) :
    env.newChainType chain = .ok config.chain ∧ config.ipfsPath = ipfsPath ∧ config.Checked ∧
      err = syncDialError viper env chain := by
  unfold configureChain at configured
  rcases typed : env.newChainType chain with failure | chainType
  · simp [typed] at configured
  simp only [typed] at configured
  obtain ⟨workers, nodeInfo, wsClient, working, synced⟩ :=
    syncFields_fst viper env (chainConfig viper ipfsPath chain chainType)
  have dialled := syncFields_snd viper env (chainConfig viper ipfsPath chain chainType)
  generalize syncFields viper env (chainConfig viper ipfsPath chain chainType) = pass
    at configured synced dialled
  obtain ⟨sn, passErr⟩ := pass
  dsimp only at configured synced dialled
  have passed : passErr = syncDialError viper env chain := by
    simp only [syncDialError, typed, dialled]
    cases chainType <;> simp [chainConfig, SuperNodeConfig.new]
  rcases served : serveFields viper env sn chain with failure | sn'
  · simp [served] at configured
  have settled : sn'.chain = chainType ∧ sn'.ipfsPath = ipfsPath ∧ sn'.Checked := by
    subst synced
    rcases serveFields_eq_ok served with
      ⟨off, rfl⟩ | ⟨-, ws, ipc, http, wsSet, httpSet, rfl⟩
    · exact ⟨rfl, rfl, working, by simp_all⟩
    · exact ⟨rfl, rfl, working, fun _ => ⟨wsSet, httpSet⟩⟩
  simp only [served] at configured
  rcases opened : env.newDB sn'.dbConfig sn'.nodeInfo with _ | dbErr
  · simp only [opened] at configured
    split at configured
    · rcases filled : backFillFields viper env sn' chain with failure | sn''
      · simp [filled] at configured
      simp only [filled, ChainOutcome.configured.injEq] at configured
      obtain ⟨rfl, rfl⟩ := configured
      obtain ⟨httpClient, rfl⟩ := backFillFields_eq_ok filled
      exact ⟨settled.1 ▸ rfl, settled.2.1, settled.2.2, passed⟩
    · simp only [ChainOutcome.configured.injEq] at configured
      obtain ⟨rfl, rfl⟩ := configured
      exact ⟨settled.1 ▸ rfl, settled.2.1, settled.2.2, passed⟩
  · simp [opened] at configured

theorem newSuperNodeConfigsLoop_returned {ipfsPath : String} {chains : List String}
    {configs configs' : List SuperNodeConfig} {err err' : Option String}
    (returned : newSuperNodeConfigsLoop viper env ipfsPath chains configs err =
      .returned (some configs') err') :
    ∃ added, configs' = configs ++ added ∧
      List.Forall₂ (fun chain config => ∃ chainErr,
        configureChain viper env ipfsPath chain = .configured config chainErr) chains added ∧
      err' = (chains.getLast?.map (syncDialError viper env)).getD err := by
  induction chains generalizing configs err with
  | nil =>
      simp only [newSuperNodeConfigsLoop, Outcome.returned.injEq, Option.some.injEq] at returned
      obtain ⟨rfl, rfl⟩ := returned
      exact ⟨[], by simp, .nil, rfl⟩
  | cons chain rest induction =>
      unfold newSuperNodeConfigsLoop at returned
      rcases pass : configureChain viper env ipfsPath chain with
        ⟨sn, chainErr⟩ | failure | message
      all_goals simp only [pass] at returned
      · obtain ⟨added, rfl, all, lastErr⟩ := induction returned
        refine ⟨sn :: added, by simp, .cons ⟨chainErr, pass⟩ all, ?_⟩
        rw [lastErr, List.getLast?_cons]
        cases rest.getLast? with
        | none => exact (configureChain_configured pass).2.2.2
        | some last => rfl
      · cases returned
      · cases returned

theorem newSuperNodeConfigs_configs {configs : List SuperNodeConfig} {err : Option String}
    (returned : newSuperNodeConfigs viper env = .returned (some configs) err) :
    ∃ ipfsPath, resolveIpfsPath viper env = .ok ipfsPath ∧
      List.Forall₂ (fun chain config => env.newChainType chain = .ok config.chain ∧
        config.ipfsPath = ipfsPath ∧ config.Checked)
        (viper.getStringSlice "superNode.chains") configs := by
  unfold newSuperNodeConfigs at returned
  rcases resolved : resolveIpfsPath viper env with failure | ipfsPath
  · simp [resolved] at returned
  simp only [resolved] at returned
  obtain ⟨added, rfl, all, -⟩ := newSuperNodeConfigsLoop_returned returned
  refine ⟨ipfsPath, rfl, all.imp fun _ _ ⟨_, pass⟩ => ?_⟩
  obtain ⟨typed, path, checked, -⟩ := configureChain_configured pass
  exact ⟨typed, path, checked⟩

theorem newSuperNodeConfigs_err {configs : List SuperNodeConfig} {err : Option String}
    (returned : newSuperNodeConfigs viper env = .returned (some configs) err) :
    err = (viper.getStringSlice "superNode.chains").getLast?.bind (syncDialError viper env) := by
  unfold newSuperNodeConfigs at returned
  rcases resolved : resolveIpfsPath viper env with failure | ipfsPath
  · simp [resolved] at returned
  simp only [resolved] at returned
  obtain ⟨-, -, -, lastErr⟩ := newSuperNodeConfigsLoop_returned returned
  rw [lastErr]
  cases (viper.getStringSlice "superNode.chains").getLast? <;> rfl

theorem newSuperNodeConfigs_err_sample :
    ∃ configs err, newSuperNodeConfigs sampleViper sampleEnvironment =
        .returned (some configs) err ∧ err = none ∧
      syncDialError sampleViper sampleEnvironment "ethereum" =
        some "dial : connection refused" := by
  have returned : newSuperNodeConfigs sampleViper sampleEnvironment = .returned (some _) _ := rfl
  exact ⟨_, _, returned, (newSuperNodeConfigs_err returned).trans rfl, rfl⟩

theorem backFillFields_frequency_batchSize {sn sn' : SuperNodeConfig} {chain : String}
    (filled : backFillFields viper env sn chain = .ok sn') :
    let freq := (viper.getInt (chainKey chain "backFill.frequency")).toInt
    let batchSize := (viper.getInt64 (chainKey chain "backFill.batchSize")).toInt
    sn'.frequency.toInt =
        (if freq ≤ 0 then 30000000000 else (freq * 1000000000).bmod (2 ^ 64)) ∧
      (freq ≤ 9223372036 → 0 < sn'.frequency.toInt) ∧
      (sn'.batchSize.toNat : Int) = if batchSize < 0 then batchSize + 2 ^ 64 else batchSize := by
  obtain ⟨httpClient, rfl⟩ := backFillFields_eq_ok filled
  intro freq batchSize
  have frequency : (if freq ≤ 0 then second * 30 else
      second * viper.getInt (chainKey chain "backFill.frequency")).toInt =
      if freq ≤ 0 then 30000000000 else (freq * 1000000000).bmod (2 ^ 64) := by
    split
    · decide
    · rw [BitVec.toInt_mul, second_toInt, Int.mul_comm]
  refine ⟨frequency, fun bounded => ?_, toNat_eq_int64 _⟩
  dsimp only
  rw [frequency]
  split
  · decide
  · have lower : 0 ≤ freq * 1000000000 := by omega
    have upper : freq * 1000000000 < ((2 ^ 64 : Nat) : Int) := by
      simp only [Nat.reducePow, Nat.cast_ofNat]
      omega
    have half : freq * 1000000000 < ((2 ^ 64 : Nat) + 1 : Int) / 2 := by
      simp only [Nat.reducePow, Nat.cast_ofNat]
      omega
    rw [Int.bmod_pos _ _ (by rwa [Int.emod_eq_of_lt lower upper]), Int.emod_eq_of_lt lower upper]
    omega

theorem backFillFields_frequency_batchSize_sample :
    ∃ sn', backFillFields sampleViper sampleEnvironment (SuperNodeConfig.new .bitcoin) "bitcoin" =
        .ok sn' ∧ sn'.frequency.toInt < 0 ∧ (sn'.batchSize.toNat : Int) = 2 ^ 64 - 1 := by
  have filled : backFillFields sampleViper sampleEnvironment (SuperNodeConfig.new .bitcoin)
      "bitcoin" = .ok _ := rfl
  obtain ⟨wrapped, -, batch⟩ := backFillFields_frequency_batchSize filled
  refine ⟨_, filled, ?_, ?_⟩
  · rw [wrapped]
    decide
  · rw [batch]
    decide

end Passes

end BlockchainWatcher.Shared
