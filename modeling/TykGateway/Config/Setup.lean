import TykGateway.Config

/-! # Configuration setup

`afterConfSetup` runs once at start-up, on the loaded configuration. It fills
in the MDCB timeouts and group id when `SlaveOptions.UseRPC` is set, the
analytics purge interval and the health and readiness endpoint names, each
only where the loaded value is zero. Then it passes each secret field through
`kvStore`, which resolves a `secrets://`, `env://`, `consul://` or `vault://`
reference and returns any other value as it is, and it stops the process with
`log.Fatal` at the first field whose lookup fails.

## Implementation notes

`log.Fatal` ends the process, so `afterConfSetup` returns the message it logs
and the error. What `kvStore` reads outside the gateway (the environment, what
creating a KV store gives, a store's `Get`) is `KVEnv`; the state it changes is
whether `gw.consulKVStore` and `gw.vaultKVStore` are set. `SetDefaults` of the
OpenTelemetry options and `config.DefaultOTelResourceName` are parameters.

The secret fields are one family: each is read, passed through `kvStore` and
written back, with its own `Fatal` message and guard. A `SecretField` holds
one member; the API key's member also saves the key's original value.

`Start` then calls `setupPortsWhitelist`, which adds the listen port and the
control API port to the whitelist of the protocol the gateway serves.
-/

namespace TykGateway

/-- `strings.HasPrefix(s, prefix)`. -/
def hasPrefix (s pre : String) : Bool := pre.toList.isPrefixOf s.toList

/-- `strings.TrimPrefix(s, prefix)`. -/
def trimPrefix (s pre : String) : String :=
  if hasPrefix s pre then ⟨s.toList.drop pre.length⟩ else s

/-- Whether `gw.consulKVStore` and `gw.vaultKVStore` are set. -/
structure KVClients where
  consul : Bool
  vault : Bool
  deriving DecidableEq, Repr

/-- What `kvStore` reads outside the gateway: `os.Getenv`, `strings.ToUpper`
(whose Unicode case mapping is left to the library), the error of
`kv.NewConsul` and of `kv.NewVault`, and what each store's `Get` gives. -/
structure KVEnv where
  getenv : String → String
  toUpper : String → String
  newConsul : Option GoError
  consulGet : String → Except GoError String
  newVault : Option GoError
  vaultGet : String → Except GoError String

/-- A secret reference: a value `kvStore` does not return as it is. -/
def isReference (value : String) : Bool :=
  hasPrefix value "secrets://" || hasPrefix value "env://" || hasPrefix value "consul://" ||
    hasPrefix value "vault://"

section KVStore

variable (env : KVEnv)

/-- `setUpConsul` and `setUpVault`: nothing to do when the store is set;
otherwise the store is set when creating it succeeds, and the error of
creating it is returned. -/
def setUpStore (isSet : Bool) (created : Option GoError) : Option GoError × Bool :=
  if isSet then (none, true) else (created, created.isNone)

/-- `setUpConsul`. -/
def setUpConsul (kv : KVClients) : Option GoError × KVClients :=
  let r := setUpStore kv.consul env.newConsul
  (r.1, { kv with consul := r.2 })

/-- `setUpVault`. -/
def setUpVault (kv : KVClients) : Option GoError × KVClients :=
  let r := setUpStore kv.vault env.newVault
  (r.1, { kv with vault := r.2 })

/-- `kvStore(value)`, where `secrets` is the configuration's `Secrets`. -/
def kvStore (secrets : GoMap String) (value : String) (kv : KVClients) :
    Except GoError String × KVClients :=
  if hasPrefix value "secrets://" then
    let key := trimPrefix value "secrets://"
    match secrets.lookup key with
    | some val => (.ok val, kv)
    | none => (.error (.new ("secrets does not exist in config.. " ++ key ++ " not found")), kv)
  else if hasPrefix value "env://" then
    (.ok (env.getenv ("TYK_SECRET_" ++ env.toUpper (trimPrefix value "env://"))), kv)
  else if hasPrefix value "consul://" then
    match setUpConsul env kv with
    | (some _, kv) => (.ok value, kv)
    | (none, kv) => (env.consulGet (trimPrefix value "consul://"), kv)
  else if hasPrefix value "vault://" then
    match setUpVault env kv with
    | (some _, kv) => (.ok value, kv)
    | (none, kv) => (env.vaultGet (trimPrefix value "vault://"), kv)
  else (.ok value, kv)

variable (secrets : GoMap String)

/-- A value that is no reference is returned as it is. -/
theorem kvStore_of_not_reference {value : String} (h : isReference value = false)
    (kv : KVClients) : kvStore env secrets value kv = (.ok value, kv) := by
  simp only [isReference, Bool.or_eq_false_iff] at h
  simp [kvStore, h]

/-- Why `kvStore` can fail on `value` at the clients `kv` with `e`: a
`secrets://` reference with no entry in `Secrets`, with the error naming the
key, or a `consul://` or `vault://` reference whose store is set up, or set up
now, and whose `Get` fails with `e`. -/
def KVStoreFailure (value : String) (kv : KVClients) (e : GoError) : Prop :=
  (hasPrefix value "secrets://" ∧ secrets.lookup (trimPrefix value "secrets://") = none ∧
      e = .new ("secrets does not exist in config.. " ++ trimPrefix value "secrets://" ++
        " not found")) ∨
    (hasPrefix value "consul://" ∧ (setUpConsul env kv).1 = none ∧
      env.consulGet (trimPrefix value "consul://") = .error e) ∨
    (hasPrefix value "vault://" ∧ (setUpVault env kv).1 = none ∧
      env.vaultGet (trimPrefix value "vault://") = .error e)

/-- `kvStore` fails only for a `KVStoreFailure`: an `env://` reference, and a
store that cannot be set up, never make it fail. -/
theorem kvStore_error {value : String} {kv : KVClients} {e : GoError}
    (h : (kvStore env secrets value kv).1 = .error e) : KVStoreFailure env secrets value kv e := by
  unfold kvStore at h
  by_cases hs : hasPrefix value "secrets://" = true
  · rw [if_pos hs] at h
    cases hl : secrets.lookup (trimPrefix value "secrets://") <;> simp only [hl] at h
    · exact .inl ⟨hs, hl, (Except.error.inj h).symm⟩
    · cases h
  rw [if_neg hs] at h
  by_cases he : hasPrefix value "env://" = true
  · rw [if_pos he] at h; cases h
  rw [if_neg he] at h
  by_cases hc : hasPrefix value "consul://" = true
  · rw [if_pos hc] at h
    rcases hu : setUpConsul env kv with ⟨_ | _, kv₁⟩ <;> simp only [hu] at h
    · exact .inr (.inl ⟨hc, by rw [hu], h⟩)
    · cases h
  rw [if_neg hc] at h
  by_cases hv : hasPrefix value "vault://" = true
  · rw [if_pos hv] at h
    rcases hu : setUpVault env kv with ⟨_ | _, kv₁⟩ <;> simp only [hu] at h
    · exact .inr (.inr ⟨hv, by rw [hu], h⟩)
    · cases h
  rw [if_neg hv] at h; cases h

end KVStore

/-! ### `afterConfSetup` -/

/-- `if v == zero { v = d }`. -/
def withDefault {α : Type} [DecidableEq α] (zero v d : α) : α := if v = zero then d else v

theorem withDefault_ne {α : Type} [DecidableEq α] {zero d : α} (hd : d ≠ zero) (v : α) :
    withDefault zero v d ≠ zero := by
  unfold withDefault
  split_ifs with h
  · exact hd
  · exact h

theorem withDefault_of_ne {α : Type} [DecidableEq α] {zero v : α} (hv : v ≠ zero) (d : α) :
    withDefault zero v d = v := if_neg hv

/-- The `SlaveOptions` defaults, made when `UseRPC` is set. -/
def slaveOptionsDefaults (conf : Config) : Config :=
  { conf with
    groupID := withDefault "" conf.groupID "ungrouped"
    callTimeout := withDefault 0 conf.callTimeout 30
    pingTimeout := withDefault 0 conf.pingTimeout 60
    keySpaceSyncInterval := withDefault 0 conf.keySpaceSyncInterval 10
    rpcCertCacheExpiration := withDefault 0 conf.rpcCertCacheExpiration 3600
    rpcGlobalCacheExpiration := withDefault 0 conf.rpcGlobalCacheExpiration 30 }

/-- The defaults `afterConfSetup` fills in before it resolves the secrets. -/
def confDefaults (conf : Config) : Config :=
  let conf := if conf.useRPC then slaveOptionsDefaults conf else conf
  { conf with
    purgeInterval := withDefault 0 conf.purgeInterval 10
    healthCheckEndpointName := withDefault "" conf.healthCheckEndpointName "hello"
    readinessCheckEndpointName := withDefault "" conf.readinessCheckEndpointName "ready" }

/-- One secret field of `afterConfSetup`: the `Fatal` message when `kvStore`
fails on it, whether it is resolved, and how it is read and written. -/
structure SecretField where
  fatal : String
  resolved : Config → Bool
  get : Config → String
  set : Config → String → Config
  get_set : ∀ conf v, get (set conf v) = v

/-- The secret fields resolved before the API key, in the order
`afterConfSetup` resolves them. -/
def secretFields : List SecretField :=
  [⟨"Could not retrieve the secret key...", fun _ => true, Config.secret,
      fun c v => { c with secret := v }, fun _ _ => rfl⟩,
    ⟨"Could not retrieve the NodeSecret key...", fun _ => true, Config.nodeSecret,
      fun c v => { c with nodeSecret := v }, fun _ _ => rfl⟩,
    ⟨"Could not retrieve redis password...", fun _ => true, Config.storagePassword,
      fun c v => { c with storagePassword := v }, fun _ _ => rfl⟩,
    ⟨"Could not retrieve cache storage password...", fun _ => true, Config.cacheStoragePassword,
      fun c v => { c with cacheStoragePassword := v }, fun _ _ => rfl⟩,
    ⟨"Could not retrieve the private certificate encoding secret...", fun _ => true,
      Config.privateCertificateEncodingSecret,
      fun c v => { c with privateCertificateEncodingSecret := v }, fun _ _ => rfl⟩,
    ⟨"Could not fetch dashboard connection string.", Config.useDBAppConfigs,
      Config.dbAppConfConnectionString, fun c v => { c with dbAppConfConnectionString := v },
      fun _ _ => rfl⟩,
    ⟨"Could not fetch policy connection string.", fun c => c.policySource == "service",
      Config.policyConnectionString, fun c v => { c with policyConnectionString := v },
      fun _ _ => rfl⟩]

/-- `SlaveOptions.APIKey`, resolved when it is set, after its original value
is saved in `Private.EdgeOriginalAPIKeyPath`. -/
def apiKeyField : SecretField :=
  ⟨"Could not retrieve API key from KV store.", fun c => c.slaveAPIKey != "", Config.slaveAPIKey,
    fun c v => { c with edgeOriginalAPIKeyPath := c.slaveAPIKey, slaveAPIKey := v },
    fun _ _ => rfl⟩

section Setup

variable (env : KVEnv) (secrets : GoMap String)

/-- `field, err = gw.kvStore(field)`, and `log.Fatal` when `err != nil`. -/
def resolveSecret (f : SecretField) (st : Config × KVClients) :
    Except (String × GoError) (Config × KVClients) :=
  if f.resolved st.1 then
    match kvStore env secrets (f.get st.1) st.2 with
    | (.ok v, kv) => .ok (f.set st.1 v, kv)
    | (.error e, _) => .error (f.fatal, e)
  else .ok st

/-- The secret fields resolved one after another. -/
def resolveSecrets : List SecretField → Config × KVClients →
    Except (String × GoError) (Config × KVClients)
  | [], st => .ok st
  | f :: fs, st => resolveSecret env secrets f st >>= resolveSecrets fs

variable (defaultOTelResourceName : String) (setDefaults : OpenTelemetry → OpenTelemetry)

/-- The OpenTelemetry defaults, made when it is enabled. -/
def openTelemetryDefaults (conf : Config) : Config :=
  if conf.openTelemetry.enabled then
    { conf with
      openTelemetry := setDefaults
        { conf.openTelemetry with
          resourceName := withDefault "" conf.openTelemetry.resourceName defaultOTelResourceName } }
  else conf

/-- `afterConfSetup`: the configuration it sets and the KV stores it leaves set
up, or the message and error of the `log.Fatal` it stops at. -/
def afterConfSetup (conf : Config) (kv : KVClients) :
    Except (String × GoError) (Config × KVClients) := do
  let st ← resolveSecrets env conf.secrets (secretFields ++ [apiKeyField]) (confDefaults conf, kv)
  pure (openTelemetryDefaults defaultOTelResourceName setDefaults st.1, st.2)

/-! ### What each step reads and writes -/

/-- `t` changes neither the value of `f` nor its guard. -/
def Unread (t : Config → Config) (f : SecretField) : Prop :=
  ∀ c, f.get (t c) = f.get c ∧ f.resolved (t c) = f.resolved c

/-- Writing `f` leaves what `g` reads, and writing `g` what `f` reads. -/
def Independent (f g : SecretField) : Prop :=
  (∀ v, Unread (f.set · v) g) ∧ ∀ v, Unread (g.set · v) f

theorem except_bind_eq_ok {ε α β : Type} {x : Except ε α} {g : α → Except ε β} {b : β} :
    x >>= g = .ok b ↔ ∃ a, x = .ok a ∧ g a = .ok b := by
  cases x <;> simp [bind, Except.bind]

theorem except_bind_eq_error {ε α β : Type} {x : Except ε α} {g : α → Except ε β} {e : ε} :
    x >>= g = .error e ↔ x = .error e ∨ ∃ a, x = .ok a ∧ g a = .error e := by
  cases x <;> simp [bind, Except.bind]

theorem resolveSecret_eq_ok {f : SecretField} {st st' : Config × KVClients}
    (h : resolveSecret env secrets f st = .ok st') :
    (f.resolved st.1 = true ∧ ∃ v kv, kvStore env secrets (f.get st.1) st.2 = (.ok v, kv) ∧
      st' = (f.set st.1 v, kv)) ∨ (f.resolved st.1 = false ∧ st' = st) := by
  unfold resolveSecret at h
  split_ifs at h with hr
  · refine .inl ⟨hr, ?_⟩
    split at h
    · exact ⟨_, _, ‹_›, (Except.ok.inj h).symm⟩
    · cases h
  · exact .inr ⟨by simpa using hr, (Except.ok.inj h).symm⟩

theorem resolveSecret_eq_error {f : SecretField} {st : Config × KVClients} {m : String}
    {e : GoError} (h : resolveSecret env secrets f st = .error (m, e)) :
    m = f.fatal ∧ f.resolved st.1 = true ∧
      ∃ kv, kvStore env secrets (f.get st.1) st.2 = (.error e, kv) := by
  unfold resolveSecret at h
  split_ifs at h with hr
  split at h
  · cases h
  · cases h
    exact ⟨rfl, hr, _, ‹_›⟩

/-- A field that writing `g` leaves is as it was after `g` is resolved. -/
theorem resolveSecret_unread {g f : SecretField} (hg : ∀ v, Unread (g.set · v) f)
    {st st' : Config × KVClients} (h : resolveSecret env secrets g st = .ok st') :
    f.get st'.1 = f.get st.1 ∧ f.resolved st'.1 = f.resolved st.1 := by
  rcases resolveSecret_eq_ok env secrets h with ⟨-, v, kv, -, rfl⟩ | ⟨-, rfl⟩
  · exact hg v st.1
  · exact ⟨rfl, rfl⟩

/-- A property of the configuration that writing any of `fs` keeps holds
after they are resolved. -/
theorem resolveSecrets_preserves {P : Config → Prop} :
    ∀ {fs : List SecretField}, (∀ f ∈ fs, ∀ c v, P c → P (f.set c v)) →
      ∀ {st st'}, resolveSecrets env secrets fs st = .ok st' → P st.1 → P st'.1
  | [], _, _, _, h, hp => by cases h; exact hp
  | g :: gs, hP, st, st', h, hp => by
    obtain ⟨st₁, h₁, h₂⟩ := except_bind_eq_ok.mp h
    refine resolveSecrets_preserves (fun f hf => hP f (List.mem_cons_of_mem _ hf)) h₂ ?_
    rcases resolveSecret_eq_ok env secrets h₁ with ⟨-, v, kv, -, rfl⟩ | ⟨-, rfl⟩
    · exact hP g (List.mem_cons_self _ _) _ v hp
    · exact hp

theorem resolveSecrets_frame {fs : List SecretField} {g : SecretField}
    (hg : ∀ f ∈ fs, ∀ v, Unread (f.set · v) g) {st st' : Config × KVClients}
    (h : resolveSecrets env secrets fs st = .ok st') :
    g.get st'.1 = g.get st.1 ∧ g.resolved st'.1 = g.resolved st.1 :=
  resolveSecrets_preserves env secrets
    (P := fun c => g.get c = g.get st.1 ∧ g.resolved c = g.resolved st.1)
    (fun f hf c v hc => ⟨(hg f hf v c).1.trans hc.1, (hg f hf v c).2.trans hc.2⟩) h ⟨rfl, rfl⟩

/-- The fields `fs` resolved one after another, read from `c`, with `c'` the
configuration they leave and the KV clients going from `kv` to `kv'`: each
resolved field holds what `kvStore` gives for its value at the clients the
fields before it left, and each other field keeps its value. -/
def Threaded (c c' : Config) : List SecretField → KVClients → KVClients → Prop
  | [], kv, kv' => kv' = kv
  | f :: fs, kv, kv' =>
    if f.resolved c then
      ∃ kv₁, kvStore env secrets (f.get c) kv = (.ok (f.get c'), kv₁) ∧ Threaded c c' fs kv₁ kv'
    else f.get c' = f.get c ∧ Threaded c c' fs kv kv'

/-- `Threaded` reads only the fields' values and guards. -/
theorem Threaded.congr {c₀ c₁ d₀ d₁ : Config} :
    ∀ {fs : List SecretField}, (∀ f ∈ fs,
      f.get d₀ = f.get c₀ ∧ f.resolved d₀ = f.resolved c₀ ∧ f.get d₁ = f.get c₁) →
      ∀ {kv kv'}, Threaded env secrets c₀ c₁ fs kv kv' → Threaded env secrets d₀ d₁ fs kv kv'
  | [], _, _, _, h => h
  | f :: fs, hf, kv, kv', h => by
    obtain ⟨hg, hr, hg'⟩ := hf f (List.mem_cons_self _ _)
    have ih := @Threaded.congr c₀ c₁ d₀ d₁ fs fun g hg => hf g (List.mem_cons_of_mem _ hg)
    by_cases hres : f.resolved c₀ = true
    · rw [Threaded, if_pos hres] at h
      rw [Threaded, if_pos (hr.trans hres), hg, hg']
      obtain ⟨kv₁, hkv, ht⟩ := h
      exact ⟨kv₁, hkv, ih ht⟩
    · rw [Threaded, if_neg hres] at h
      rw [Threaded, if_neg fun h' => hres (hr.symm.trans h'), hg, hg']
      exact ⟨h.1, ih h.2⟩

/-- What `Threaded` says of one of the fields. -/
theorem Threaded.mem {c c' : Config} :
    ∀ {fs : List SecretField} {kv kv'}, Threaded env secrets c c' fs kv kv' → ∀ f ∈ fs,
      (f.resolved c = true → ∃ kv₁, (kvStore env secrets (f.get c) kv₁).1 = .ok (f.get c')) ∧
      (f.resolved c = false → f.get c' = f.get c)
  | [], _, _, _, f, hf => absurd hf (List.not_mem_nil f)
  | g :: gs, kv, kv', h, f, hf => by
    unfold Threaded at h
    split at h <;> rename_i hr
    · obtain ⟨kv₁, hkv, ht⟩ := h
      rcases List.mem_cons.mp hf with rfl | hf
      · exact ⟨fun _ => ⟨kv, by rw [hkv]⟩, fun h' => by simp [hr] at h'⟩
      · exact Threaded.mem ht f hf
    · rcases List.mem_cons.mp hf with rfl | hf
      · exact ⟨fun h' => absurd h' hr, fun _ => h.1⟩
      · exact Threaded.mem h.2 f hf

/-- Resolving independent fields one after another is a `Threaded` run from
the configuration before to the one after. -/
theorem resolveSecrets_threaded :
    ∀ {fs : List SecretField}, fs.Pairwise Independent →
      ∀ {c c' kv kv'}, resolveSecrets env secrets fs (c, kv) = .ok (c', kv') →
        Threaded env secrets c c' fs kv kv'
  | [], _, _, _, _, _, h => by cases h; rfl
  | g :: gs, hpw, c, c', kv, kv', h => by
    obtain ⟨hg, hgs⟩ := List.pairwise_cons.mp hpw
    obtain ⟨⟨c₁, kv₁⟩, h₁, h₂⟩ := except_bind_eq_ok.mp h
    have ht := resolveSecrets_threaded hgs h₂
    have hframe := (resolveSecrets_frame env secrets (fun f hf v => (hg f hf).2 v) h₂).1
    -- the later fields read from `c` what they read from `c₁`
    have hback : ∀ f ∈ gs,
        f.get c = f.get c₁ ∧ f.resolved c = f.resolved c₁ ∧ f.get c' = f.get c' := fun f hf => by
        obtain ⟨hget, hres⟩ := resolveSecret_unread env secrets (hg f hf).1 h₁
        exact ⟨hget.symm, hres.symm, rfl⟩
    unfold Threaded
    rcases resolveSecret_eq_ok env secrets h₁ with ⟨hr, v, kv₂, hkv, hst⟩ | ⟨hr, hst⟩
    · obtain ⟨rfl, rfl⟩ := Prod.mk.inj hst
      rw [if_pos hr]
      exact ⟨_, hkv.trans (by rw [hframe, g.get_set]), ht.congr env secrets hback⟩
    · obtain ⟨rfl, rfl⟩ := Prod.mk.inj hst
      rw [if_neg (by simp [hr])]
      exact ⟨hframe, ht⟩

/-- When resolving independent fields fails, it fails at a resolved field,
with its message, and `kvStore` fails on that field's value at the clients
the fields before it left. -/
theorem resolveSecrets_error :
    ∀ {fs : List SecretField}, fs.Pairwise Independent →
      ∀ {c kv m e}, resolveSecrets env secrets fs (c, kv) = .error (m, e) →
        ∃ pre f post, fs = pre ++ f :: post ∧ m = f.fatal ∧ f.resolved c = true ∧
          ∃ c₁ kv₁, Threaded env secrets c c₁ pre kv kv₁ ∧
            (kvStore env secrets (f.get c) kv₁).1 = .error e
  | [], _, _, _, _, _, h => by cases h
  | g :: gs, hpw, c, kv, m, e, h => by
    obtain ⟨hg, hgs⟩ := List.pairwise_cons.mp hpw
    rcases except_bind_eq_error.mp h with h₁ | ⟨⟨c₁, kv₁⟩, h₁, h₂⟩
    · obtain ⟨hm, hr, kv₂, hkv⟩ := resolveSecret_eq_error env secrets h₁
      exact ⟨[], g, gs, rfl, hm, hr, c, kv, rfl, by rw [hkv]⟩
    · obtain ⟨pre, f, post, rfl, hm, hr, c₂, kv₂, ht, hkv⟩ := resolveSecrets_error hgs h₂
      have hunread : ∀ f' ∈ pre ++ f :: post,
          f'.get c₁ = f'.get c ∧ f'.resolved c₁ = f'.resolved c := fun f' hf' =>
        resolveSecret_unread env secrets (hg f' hf').1 h₁
      have hf := hunread f (by simp)
      -- writing `g` at the end leaves what the fields before `f` read
      have hback : ∀ w, ∀ f' ∈ pre, f'.get c = f'.get c₁ ∧ f'.resolved c = f'.resolved c₁ ∧
          f'.get (g.set c₂ w) = f'.get c₂ := fun w f' hf' =>
        ⟨(hunread f' (by simp [hf'])).1.symm, (hunread f' (by simp [hf'])).2.symm,
          ((hg f' (by simp [hf'])).1 w c₂).1⟩
      refine ⟨g :: pre, f, post, rfl, hm, hf.2 ▸ hr, g.set c₂ (g.get c₁), kv₂, ?_, hf.1 ▸ hkv⟩
      unfold Threaded
      rcases resolveSecret_eq_ok env secrets h₁ with ⟨hrg, v, kv₃, hkv₃, hst⟩ | ⟨hrg, hst⟩
      · obtain ⟨rfl, rfl⟩ := Prod.mk.inj hst
        rw [if_pos hrg, g.get_set, g.get_set]
        exact ⟨_, hkv₃, ht.congr env secrets (hback _)⟩
      · obtain ⟨rfl, rfl⟩ := Prod.mk.inj hst
        rw [if_neg (by simp [hrg]), g.get_set]
        exact ⟨rfl, ht.congr env secrets (hback _)⟩

/-! ### The fields of `afterConfSetup` -/

theorem setupFields_pairwise : (secretFields ++ [apiKeyField]).Pairwise Independent := by
  simp only [secretFields, apiKeyField, List.cons_append, List.nil_append, List.pairwise_cons,
    List.forall_mem_cons, List.Pairwise.nil, List.not_mem_nil, false_implies, implies_true,
    and_true]
  repeat' constructor
  all_goals exact fun _ _ => ⟨rfl, rfl⟩

/-- Each field has its own `Fatal` message. -/
theorem setupFields_fatal_nodup :
    ((secretFields ++ [apiKeyField]).map SecretField.fatal).Nodup := by
  decide

theorem mem_setupFields {f : SecretField} (hf : f ∈ secretFields ++ [apiKeyField]) :
    f = secretFields[0] ∨ f = secretFields[1] ∨ f = secretFields[2] ∨ f = secretFields[3] ∨
      f = secretFields[4] ∨ f = secretFields[5] ∨ f = secretFields[6] ∨ f = apiKeyField := by
  simpa [secretFields] using hf

theorem confDefaults_unread : ∀ f ∈ secretFields ++ [apiKeyField], Unread confDefaults f := by
  intro f hf c
  unfold confDefaults
  split <;> rcases mem_setupFields hf with rfl | rfl | rfl | rfl | rfl | rfl | rfl | rfl <;>
    exact ⟨rfl, rfl⟩

theorem openTelemetryDefaults_unread : ∀ f ∈ secretFields ++ [apiKeyField],
    Unread (openTelemetryDefaults defaultOTelResourceName setDefaults) f := by
  intro f hf c
  unfold openTelemetryDefaults
  split <;> rcases mem_setupFields hf with rfl | rfl | rfl | rfl | rfl | rfl | rfl | rfl <;>
    exact ⟨rfl, rfl⟩

/-! ### The defaults -/

/-- The checks the defaults of `afterConfSetup` make the configuration pass. -/
structure Defaulted (conf : Config) : Prop where
  groupID : conf.useRPC = true → conf.groupID ≠ ""
  callTimeout : conf.useRPC = true → conf.callTimeout ≠ 0
  pingTimeout : conf.useRPC = true → conf.pingTimeout ≠ 0
  keySpaceSyncInterval : conf.useRPC = true → conf.keySpaceSyncInterval ≠ 0
  rpcCertCacheExpiration : conf.useRPC = true → conf.rpcCertCacheExpiration ≠ 0
  rpcGlobalCacheExpiration : conf.useRPC = true → conf.rpcGlobalCacheExpiration ≠ 0
  purgeInterval : conf.purgeInterval ≠ 0
  healthCheckEndpointName : conf.healthCheckEndpointName ≠ ""
  readinessCheckEndpointName : conf.readinessCheckEndpointName ≠ ""

/-- `conf'` keeps each value of `conf` that the defaults must not replace: the
`SlaveOptions` values when `UseRPC` is off, and every value that is set. -/
structure KeepsSettings (conf conf' : Config) : Prop where
  useRPC : conf'.useRPC = conf.useRPC
  groupID : conf.useRPC = false ∨ conf.groupID ≠ "" → conf'.groupID = conf.groupID
  callTimeout : conf.useRPC = false ∨ conf.callTimeout ≠ 0 → conf'.callTimeout = conf.callTimeout
  pingTimeout : conf.useRPC = false ∨ conf.pingTimeout ≠ 0 → conf'.pingTimeout = conf.pingTimeout
  keySpaceSyncInterval : conf.useRPC = false ∨ conf.keySpaceSyncInterval ≠ 0 →
    conf'.keySpaceSyncInterval = conf.keySpaceSyncInterval
  rpcCertCacheExpiration : conf.useRPC = false ∨ conf.rpcCertCacheExpiration ≠ 0 →
    conf'.rpcCertCacheExpiration = conf.rpcCertCacheExpiration
  rpcGlobalCacheExpiration : conf.useRPC = false ∨ conf.rpcGlobalCacheExpiration ≠ 0 →
    conf'.rpcGlobalCacheExpiration = conf.rpcGlobalCacheExpiration
  purgeInterval : conf.purgeInterval ≠ 0 → conf'.purgeInterval = conf.purgeInterval
  healthCheckEndpointName : conf.healthCheckEndpointName ≠ "" →
    conf'.healthCheckEndpointName = conf.healthCheckEndpointName
  readinessCheckEndpointName : conf.readinessCheckEndpointName ≠ "" →
    conf'.readinessCheckEndpointName = conf.readinessCheckEndpointName

theorem defaulted_confDefaults (conf : Config) : Defaulted (confDefaults conf) := by
  have h10 : (10 : ℚ) ≠ 0 := by decide
  have h30 : (30 : ℚ) ≠ 0 := by decide
  have h3600 : (3600 : ℚ) ≠ 0 := by decide
  cases hr : conf.useRPC <;> constructor <;>
    simp [confDefaults, slaveOptionsDefaults, hr, withDefault_ne, h10, h30, h3600]

theorem keepsSettings_confDefaults (conf : Config) : KeepsSettings conf (confDefaults conf) := by
  cases hr : conf.useRPC <;> constructor <;>
    simp only [confDefaults, slaveOptionsDefaults, hr, if_true, if_false, Bool.false_eq_true,
      Bool.true_eq_false, true_or, false_or, forall_const] <;>
    first | rfl | exact fun h => withDefault_of_ne h _

/-- Resolving a secret field keeps the defaults and the settings. -/
theorem setupFields_keep_defaults (conf : Config) : ∀ f ∈ secretFields ++ [apiKeyField], ∀ c v,
    Defaulted c ∧ KeepsSettings conf c →
      Defaulted (f.set c v) ∧ KeepsSettings conf (f.set c v) := by
  intro f hf c v ⟨hd, hk⟩
  rcases mem_setupFields hf with rfl | rfl | rfl | rfl | rfl | rfl | rfl | rfl <;>
    exact ⟨by cases hd; constructor <;> assumption, by cases hk; constructor <;> assumption⟩

theorem openTelemetryDefaults_keep_defaults {conf c : Config}
    (h : Defaulted c ∧ KeepsSettings conf c) :
    Defaulted (openTelemetryDefaults defaultOTelResourceName setDefaults c) ∧
      KeepsSettings conf (openTelemetryDefaults defaultOTelResourceName setDefaults c) := by
  obtain ⟨hd, hk⟩ := h
  unfold openTelemetryDefaults
  split
  · exact ⟨by cases hd; constructor <;> assumption, by cases hk; constructor <;> assumption⟩
  · exact ⟨hd, hk⟩

/-! ### The API key -/

theorem resolveSecrets_append (fs gs : List SecretField) :
    ∀ st, resolveSecrets env secrets (fs ++ gs) st =
      resolveSecrets env secrets fs st >>= resolveSecrets env secrets gs := by
  induction fs with
  | nil => intro st; rfl
  | cons f fs ih =>
    intro st
    simp only [List.cons_append, resolveSecrets]
    cases resolveSecret env secrets f st with
    | error e => rfl
    | ok st₁ => exact ih st₁

/-- The API key is resolved last, so the value it had is what
`Private.EdgeOriginalAPIKeyPath` holds afterwards. -/
theorem resolveSecrets_edgeOriginalAPIKeyPath {st st' : Config × KVClients}
    (h : resolveSecrets env secrets (secretFields ++ [apiKeyField]) st = .ok st')
    (hk : st.1.slaveAPIKey ≠ "") : st'.1.edgeOriginalAPIKeyPath = st.1.slaveAPIKey := by
  rw [resolveSecrets_append] at h
  obtain ⟨st₁, h₁, h₂⟩ := except_bind_eq_ok.mp h
  obtain ⟨st₂, h₃, h₄⟩ := except_bind_eq_ok.mp h₂
  obtain rfl : st₂ = st' := Except.ok.inj h₄
  have hkey : st₁.1.slaveAPIKey = st.1.slaveAPIKey :=
    (resolveSecrets_frame env secrets (g := apiKeyField) (fun f hf v =>
      ((List.pairwise_append.mp setupFields_pairwise).2.2 f hf apiKeyField
        (List.mem_singleton_self _)).1 v) h₁).1
  rcases resolveSecret_eq_ok env secrets h₃ with ⟨-, v, kv, -, rfl⟩ | ⟨hr, -⟩
  · exact hkey
  · simp [apiKeyField, hkey, hk] at hr

/-! ### What `afterConfSetup` returns -/

/-- A property that the defaults give and that writing a secret field and the
OpenTelemetry defaults keep holds of the configuration `afterConfSetup` sets. -/
theorem afterConfSetup_preserves {P : Config → Prop}
    (hf : ∀ f ∈ secretFields ++ [apiKeyField], ∀ c v, P c → P (f.set c v))
    (ho : ∀ c, P c → P (openTelemetryDefaults defaultOTelResourceName setDefaults c))
    {conf conf' : Config} {kv kv' : KVClients}
    (h : afterConfSetup env defaultOTelResourceName setDefaults conf kv = .ok (conf', kv'))
    (hp : P (confDefaults conf)) : P conf' := by
  obtain ⟨st, hst, hpure⟩ := except_bind_eq_ok.mp h
  obtain ⟨rfl, rfl⟩ := Prod.mk.inj (Except.ok.inj hpure)
  exact ho _ (resolveSecrets_preserves env conf.secrets hf hst hp)

/-- When `afterConfSetup` returns, every default passes its check and no value
that was set is replaced. -/
theorem afterConfSetup_defaulted {conf conf' : Config} {kv kv' : KVClients}
    (h : afterConfSetup env defaultOTelResourceName setDefaults conf kv = .ok (conf', kv')) :
    Defaulted conf' ∧ KeepsSettings conf conf' :=
  afterConfSetup_preserves env defaultOTelResourceName setDefaults (setupFields_keep_defaults conf)
    (fun _ => openTelemetryDefaults_keep_defaults defaultOTelResourceName setDefaults) h
    ⟨defaulted_confDefaults conf, keepsSettings_confDefaults conf⟩

/-- With `UseRPC`, the cache expirations `afterConfSetup` sets are the loaded
ones, or an hour and thirty seconds where they were not set. -/
theorem afterConfSetup_rpcCacheExpirations {conf conf' : Config} {kv kv' : KVClients}
    (h : afterConfSetup env defaultOTelResourceName setDefaults conf kv = .ok (conf', kv'))
    (hrpc : conf.useRPC = true) :
    conf'.rpcCertCacheExpiration = withDefault 0 conf.rpcCertCacheExpiration 3600 ∧
      conf'.rpcGlobalCacheExpiration = withDefault 0 conf.rpcGlobalCacheExpiration 30 :=
  afterConfSetup_preserves env defaultOTelResourceName setDefaults
    (P := fun c => c.rpcCertCacheExpiration = withDefault 0 conf.rpcCertCacheExpiration 3600 ∧
      c.rpcGlobalCacheExpiration = withDefault 0 conf.rpcGlobalCacheExpiration 30)
    (fun f hf c v hc => by
      rcases mem_setupFields hf with rfl | rfl | rfl | rfl | rfl | rfl | rfl | rfl <;> exact hc)
    (fun c hc => by unfold openTelemetryDefaults; split <;> exact hc) h
    (by simp [confDefaults, slaveOptionsDefaults, hrpc])

/-- The OpenTelemetry section `afterConfSetup` sets is the loaded one with its
defaults, whatever the KV lookups give. -/
theorem afterConfSetup_openTelemetry {conf conf' : Config} {kv kv' : KVClients}
    (h : afterConfSetup env defaultOTelResourceName setDefaults conf kv = .ok (conf', kv')) :
    conf'.openTelemetry =
      (openTelemetryDefaults defaultOTelResourceName setDefaults conf).openTelemetry := by
  obtain ⟨st, hst, hpure⟩ := except_bind_eq_ok.mp h
  obtain ⟨rfl, rfl⟩ := Prod.mk.inj (Except.ok.inj hpure)
  have hot : st.1.openTelemetry = conf.openTelemetry :=
    resolveSecrets_preserves env conf.secrets (P := fun c => c.openTelemetry = conf.openTelemetry)
      (fun f hf c v hc => by
        rcases mem_setupFields hf with rfl | rfl | rfl | rfl | rfl | rfl | rfl | rfl <;> exact hc)
      hst (by unfold confDefaults; split <;> rfl)
  unfold openTelemetryDefaults
  rw [hot]
  split
  · rfl
  · exact hot

/-- For every loaded configuration, every result of the KV lookups and every
state of the KV clients: when `afterConfSetup` returns, every default passes
its check and no value that was set is replaced; the secret fields are a
`Threaded` run from the loaded configuration and clients to those it returns,
so each resolved field holds what `kvStore` gives for its loaded value at the
clients the fields before it left; a field that is not resolved, or holds no
reference, keeps its loaded value; and the loaded API key, when set, is saved
in `Private.EdgeOriginalAPIKeyPath`. -/
theorem afterConfSetup_ok {conf conf' : Config} {kv kv' : KVClients}
    (h : afterConfSetup env defaultOTelResourceName setDefaults conf kv = .ok (conf', kv')) :
    Defaulted conf' ∧ KeepsSettings conf conf' ∧
      Threaded env conf.secrets conf conf' (secretFields ++ [apiKeyField]) kv kv' ∧
      (∀ f ∈ secretFields ++ [apiKeyField],
        f.resolved conf = false ∨ isReference (f.get conf) = false → f.get conf' = f.get conf) ∧
      (conf.slaveAPIKey ≠ "" → conf'.edgeOriginalAPIKeyPath = conf.slaveAPIKey) := by
  obtain ⟨⟨c₁, kv₁⟩, hst, hpure⟩ := except_bind_eq_ok.mp h
  simp only [pure, Except.pure, Except.ok.injEq, Prod.mk.injEq] at hpure
  obtain ⟨rfl, rfl⟩ := hpure
  have ht : Threaded env conf.secrets conf (openTelemetryDefaults defaultOTelResourceName
      setDefaults c₁) (secretFields ++ [apiKeyField]) kv kv₁ :=
    (resolveSecrets_threaded env conf.secrets setupFields_pairwise hst).congr env conf.secrets
      fun f hf => ⟨(confDefaults_unread f hf conf).1.symm, (confDefaults_unread f hf conf).2.symm,
        (openTelemetryDefaults_unread defaultOTelResourceName setDefaults f hf c₁).1⟩
  obtain ⟨hdef, hkeep⟩ := afterConfSetup_defaulted env defaultOTelResourceName setDefaults h
  refine ⟨hdef, hkeep, ht, fun f hf hn => ?_, fun hk => ?_⟩
  · obtain ⟨hok, hnot⟩ := ht.mem env conf.secrets f hf
    cases hr : f.resolved conf
    · exact hnot hr
    · obtain ⟨kv₂, hkv⟩ := hok hr
      rw [kvStore_of_not_reference env conf.secrets (hn.resolve_left (by simp [hr]))] at hkv
      exact (Except.ok.inj hkv).symm
  · have hkey : (confDefaults conf).slaveAPIKey = conf.slaveAPIKey :=
      (confDefaults_unread apiKeyField (by simp) conf).1
    have hedge := resolveSecrets_edgeOriginalAPIKeyPath env conf.secrets hst
      (hkey.symm ▸ hk : (confDefaults conf).slaveAPIKey ≠ "")
    dsimp only at hedge
    rw [hkey] at hedge
    unfold openTelemetryDefaults
    split <;> exact hedge

/-- A gateway on MDCB with no group id, whose secret is kept in `Secrets`. -/
def loadedConf : Config :=
  { (default : Config) with
    useRPC := true, secret := "secrets://gw", secrets := (∅ : GoMap String).insert "gw" "s3cr3t" }

/-- A KV environment whose stores can be set up and echo the key. -/
def echoEnv : KVEnv := ⟨fun _ => "", id, none, .ok, none, .ok⟩

/-- What `afterConfSetup` makes of `loadedConf`. -/
def setupConf : Config :=
  { loadedConf with
    groupID := "ungrouped", callTimeout := 30, pingTimeout := 60, keySpaceSyncInterval := 10,
    rpcCertCacheExpiration := 3600, rpcGlobalCacheExpiration := 30, purgeInterval := 10,
    healthCheckEndpointName := "hello", readinessCheckEndpointName := "ready", secret := "s3cr3t" }

theorem afterConfSetup_ok_loaded :
    afterConfSetup echoEnv "gateway" id loadedConf ⟨false, false⟩ =
        .ok (setupConf, ⟨false, false⟩) ∧
      Defaulted setupConf ∧ KeepsSettings loadedConf setupConf ∧
      Threaded echoEnv loadedConf.secrets loadedConf setupConf (secretFields ++ [apiKeyField])
        ⟨false, false⟩ ⟨false, false⟩ ∧
      (∀ f ∈ secretFields ++ [apiKeyField],
        f.resolved loadedConf = false ∨ isReference (f.get loadedConf) = false →
          f.get setupConf = f.get loadedConf) ∧
      (loadedConf.slaveAPIKey ≠ "" → setupConf.edgeOriginalAPIKeyPath = loadedConf.slaveAPIKey) :=
  ⟨rfl, @afterConfSetup_ok echoEnv "gateway" id loadedConf setupConf ⟨false, false⟩ ⟨false, false⟩
    rfl⟩

/-- For every loaded configuration, every result of the KV lookups and every
state of the KV clients: when `afterConfSetup` stops at `log.Fatal`, the
message is that of exactly one secret field, which is resolved; the fields
before it are a `Threaded` run from the loaded clients, and at the clients
they leave `kvStore` fails on the field's loaded value with the logged error,
for one of the reasons of `KVStoreFailure`. -/
theorem afterConfSetup_fatal {conf : Config} {kv : KVClients} {m : String} {e : GoError}
    (h : afterConfSetup env defaultOTelResourceName setDefaults conf kv = .error (m, e)) :
    ∃ pre f post, secretFields ++ [apiKeyField] = pre ++ f :: post ∧ f.fatal = m ∧
      (∀ g ∈ secretFields ++ [apiKeyField], g.fatal = m → g = f) ∧ f.resolved conf = true ∧
      ∃ c₁ kv₁, Threaded env conf.secrets conf c₁ pre kv kv₁ ∧
        (kvStore env conf.secrets (f.get conf) kv₁).1 = .error e ∧
        KVStoreFailure env conf.secrets (f.get conf) kv₁ e := by
  rcases except_bind_eq_error.mp h with hst | ⟨_, -, hpure⟩
  · obtain ⟨pre, f, post, hsplit, rfl, hr, c₁, kv₁, ht, hkv⟩ :=
      resolveSecrets_error env conf.secrets setupFields_pairwise hst
    have hf : f ∈ secretFields ++ [apiKeyField] := hsplit ▸ by simp
    obtain ⟨hg, hrd⟩ := confDefaults_unread f hf conf
    rw [hg] at hkv
    refine ⟨pre, f, post, hsplit, rfl,
      fun g hg' hm => List.inj_on_of_nodup_map setupFields_fatal_nodup hg' hf hm, hrd ▸ hr, c₁,
      kv₁, ht.congr env conf.secrets fun f' hf' => ?_, hkv, kvStore_error env conf.secrets hkv⟩
    have := confDefaults_unread f' (hsplit ▸ by simp [hf']) conf
    exact ⟨this.1.symm, this.2.symm, rfl⟩
  · cases hpure

theorem afterConfSetup_fatal_missing_secret :
    afterConfSetup echoEnv "gateway" id { (default : Config) with secret := "secrets://gw" }
        ⟨false, false⟩ =
      .error ("Could not retrieve the secret key...",
        .new "secrets does not exist in config.. gw not found") ∧
    ∃ pre f post, secretFields ++ [apiKeyField] = pre ++ f :: post ∧
      f.fatal = "Could not retrieve the secret key..." ∧
      (∀ g ∈ secretFields ++ [apiKeyField], g.fatal = "Could not retrieve the secret key..." →
        g = f) ∧
      f.resolved { (default : Config) with secret := "secrets://gw" } = true ∧
      ∃ c₁ kv₁, Threaded echoEnv (∅ : GoMap String)
          { (default : Config) with secret := "secrets://gw" } c₁ pre ⟨false, false⟩ kv₁ ∧
        (kvStore echoEnv (∅ : GoMap String)
          (f.get { (default : Config) with secret := "secrets://gw" }) kv₁).1 =
            .error (.new "secrets does not exist in config.. gw not found") ∧
        KVStoreFailure echoEnv (∅ : GoMap String)
          (f.get { (default : Config) with secret := "secrets://gw" }) kv₁
          (.new "secrets does not exist in config.. gw not found") :=
  ⟨rfl, @afterConfSetup_fatal echoEnv "gateway" id
    { (default : Config) with secret := "secrets://gw" } ⟨false, false⟩ _ _ rfl⟩

end Setup

/-! ### `setupPortsWhitelist` -/

/-- The protocol `setupPortsWhitelist` whitelists the ports for. -/
def listenProtocol (conf : Config) : String := if conf.useSSL then "https" else "http"

/-- `setupPortsWhitelist`, on the configuration it reads and sets. -/
def setupPortsWhitelist (conf : Config) : Config :=
  let w := conf.portWhiteList
  let ls := (w.lookup (listenProtocol conf)).getD ⟨[]⟩
  let ls := { ls with ports := ls.ports ++ [conf.listenPort] }
  let ls := if conf.controlAPIPort ≠ 0 then { ls with ports := ls.ports ++ [conf.controlAPIPort] }
    else ls
  { conf with portWhiteList := w.insert (listenProtocol conf) ls }

end TykGateway
