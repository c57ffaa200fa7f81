import OpenRouter.Base.Base64
import OpenRouter.Base.Transition
import OpenRouter.Cli.Config

/-!
# Credentials — where the CLI keeps its tokens

`repository/auth.ts` over `repository/config.ts`: each process picks the keychain or an encrypted
file, once, and keeps what it has read of the configuration.  The commands are written over a
`Medium`; on the disk it is JSON, base64 and AES-GCM in a file named after the account.
`replies_onDisk` says that commands whose accounts have files of their own cannot tell it from one
that holds configurations and tokens as they are.
-/

namespace OpenRouter
namespace Cli

open Base

/-! ## The runtime -/

/-- `node:crypto`, `userInfo` and the conversions of a JavaScript engine. -/
structure NodeRuntime extends ConfigRuntime where
  /-- `username:uid:homedir`. -/
  material : String
  /-- `scryptSync(material, salt, 32)`. -/
  scryptSync : String → Bytes → Bytes
  /-- The ciphertext and the tag of `createCipheriv('aes-256-gcm', key, iv)`. -/
  encipher : Bytes → Bytes → Bytes → Bytes × Bytes
  /-- The plaintext of `createDecipheriv` with the tag, unless it throws. -/
  decipher : Bytes → Bytes → Bytes → Bytes → Option Bytes
  decipher_encipher : ∀ key iv pt,
    decipher key iv (encipher key iv pt).2 (encipher key iv pt).1 = some pt
  /-- `Buffer.from(v, 'base64')` of a value that is no string, unless it throws. -/
  bufferFrom : Option Json → Option Bytes
  /-- `n === 1`. -/
  isOne : Number → Bool
  isOne_one : isOne (intNumber 1) = true

variable (rt : NodeRuntime)

/-! ## The encrypted file -/

/-- `account.replace(/[^a-z0-9._-]/gi, '_')`.  The expression goes by code units, of which a
character beyond the first plane has two. -/
def safe (account : String) : String :=
  String.ofList (account.toList.flatMap fun c =>
    if c.isAlphanum && c.toNat < 128 || "._-".toList.contains c then [c]
    else if c.toNat < 0x10000 then ['_']
    else ['_', '_'])

/-- `creds.${safe}.enc`. -/
def credsFile (account : String) : String :=
  "creds." ++ safe account ++ ".enc"

/-- `Buffer.from(v, 'base64')`. -/
def buffer : Option Json → Option Bytes
  | some (.str s) => some (Base64.decode s.toList)
  | v => rt.bufferFrom v

def readFailed : Thrown :=
  .cli (.auth "Failed to read encrypted credentials.")

/-- `EncryptedFileStore.get` on the content of the file. -/
def openRecord : Option Bytes → Except Thrown (Option String)
  | none => .ok none
  | some raw =>
      match parse (decode raw) with
      | none | some .null => .error readFailed
      | some record =>
          match property "v" (some record), property "alg" (some record) with
          | some (.num n), some (.str "aes-256-gcm") =>
              if rt.isOne n then
                let plaintext : Option Bytes := do
                  let salt ← buffer rt (property "salt" (some record))
                  let iv ← buffer rt (property "iv" (some record))
                  let tag ← buffer rt (property "tag" (some record))
                  let ct ← buffer rt (property "ct" (some record))
                  rt.decipher (rt.scryptSync rt.material salt) iv tag ct
                match plaintext with
                | some pt => .ok (some (String.ofList (decode pt)))
                | none => .error readFailed
              else .ok none
          | _, _ => .ok none

def base64Json (bs : Bytes) : Json :=
  .str (String.ofList (Base64.encode bs))

/-- What `EncryptedFileStore.set` writes. -/
def sealRecord (token : String) (salt iv : Bytes) : Bytes :=
  let (ct, tag) := rt.encipher (rt.scryptSync rt.material salt) iv (bytesOf token)
  let record : Json := .obj
    [("v", .num (intNumber 1)), ("alg", .str "aes-256-gcm"), ("iv", base64Json iv),
      ("tag", base64Json tag), ("salt", base64Json salt), ("ct", base64Json ct)]
  encode (record.write compact 0)

theorem buffer_base64Json (bs : Bytes) : buffer rt (some (base64Json bs)) = some bs := by
  rw [base64Json, buffer, String.toList_ofList, Base64.decode_encode]

/-- What was sealed is what is opened. -/
theorem openRecord_sealRecord (token : String) (salt iv : Bytes) :
    openRecord rt (some (sealRecord rt token salt iv)) = .ok (some token) := by
  have hbytes : decode (bytesOf token) = token.toList := decode_encode token.toList
  rw [openRecord, sealRecord]
  simp only [decode_encode, parse_write]
  simp [property, lastMember, rt.isOne_one, buffer_base64Json, rt.decipher_encipher, hbytes]

/-! ## Commands over a medium -/

inductive StoreKind
  | keytar
  | encryptedFile

/-- What holds the configuration, and the tokens by account. -/
structure Medium (σ : Type) where
  readConfig : σ → Except Thrown (CliConfig rt.toConfigRuntime)
  writeConfig : CliConfig rt.toConfigRuntime → σ → σ
  /-- The user edits the configuration by hand. -/
  editConfig : Option Bytes → σ → σ
  readToken : String → σ → Except Thrown (Option String)
  /-- The salt and the vector are drawn for each write. -/
  writeToken : String → String → Bytes → Bytes → σ → σ
  unlink : String → σ → Bool × σ

/-- The medium, the keychain, and what the running process has cached. -/
structure Machine (σ : Type) where
  medium : σ
  keychain : String → Option String := fun _ => none
  cached : Option (CliConfig rt.toConfigRuntime) := none
  cachedStore : Option StoreKind := none

/-- `keytar` says whether the keychain answers to the probe. -/
inductive Command
  | newProcess
  | editConfig (file : Option Bytes)
  | loadConfig
  | saveConfig (next : ConfigPatch)
  | get (keytar : Bool) (account : String)
  | set (keytar : Bool) (token account : String) (salt iv : Bytes)
  | remove (keytar : Bool) (account : String)

inductive Reply
  | done
  | config (cfg : CliConfig rt.toConfigRuntime)
  | token (t : Option String)
  | removed (existed : Bool)
  | thrown (err : Thrown)

/-- The account that a command is about. -/
def Command.account : Command → Option String
  | get _ account | set _ _ account _ _ | remove _ account => some account
  | newProcess | editConfig _ | loadConfig | saveConfig _ => none

variable {rt} {σ : Type} (med : Medium rt σ)

def loadConfig (m : Machine rt σ) :
    Except Thrown (CliConfig rt.toConfigRuntime) × Machine rt σ :=
  match m.cached with
  | some cfg => (.ok cfg, m)
  | none =>
      match med.readConfig m.medium with
      | .ok cfg => (.ok cfg, { m with cached := some cfg })
      | .error err => (.error err, m)

def saveConfig (m : Machine rt σ) (next : ConfigPatch) : Reply rt × Machine rt σ :=
  match loadConfig med m with
  | (.error err, m) => (.thrown err, m)
  | (.ok current, m) =>
      match current.merge next with
      | .error err => (.thrown err, m)
      | .ok merged =>
          (.config merged,
            { m with medium := med.writeConfig merged m.medium, cached := some merged })

/-- The store that a configuration asks for. -/
def select (keytar : Bool) : AuthBackend → Except Thrown StoreKind
  | .encryptedFile => .ok .encryptedFile
  | .keytar =>
      if keytar then .ok .keytar
      else .error (.cli (.auth "keytar backend requested but unavailable on this system."))
  | .auto => .ok (if keytar then .keytar else .encryptedFile)

def getCredentialStore (m : Machine rt σ) (keytar : Bool) :
    Except Thrown StoreKind × Machine rt σ :=
  match m.cachedStore with
  | some kind => (.ok kind, m)
  | none =>
      match loadConfig med m with
      | (.error err, m) => (.error err, m)
      | (.ok cfg, m) =>
          match select keytar cfg.authBackend with
          | .ok kind => (.ok kind, { m with cachedStore := some kind })
          | .error err => (.error err, m)

/-- A call on the store that is selected. -/
def withStore (m : Machine rt σ) (keytar : Bool)
    (call : StoreKind → Machine rt σ → Reply rt × Machine rt σ) : Reply rt × Machine rt σ :=
  match getCredentialStore med m keytar with
  | (.ok kind, m) => call kind m
  | (.error err, m) => (.thrown err, m)

def getCall (account : String) (kind : StoreKind) (m : Machine rt σ) :
    Reply rt × Machine rt σ :=
  match kind with
  | .keytar => (.token (m.keychain account), m)
  | .encryptedFile =>
      match med.readToken account m.medium with
      | .ok t => (.token t, m)
      | .error err => (.thrown err, m)

def setCall (token account : String) (salt iv : Bytes) (kind : StoreKind) (m : Machine rt σ) :
    Reply rt × Machine rt σ :=
  match kind with
  | .keytar => (.done, { m with keychain := Function.update m.keychain account (some token) })
  | .encryptedFile =>
      (.done, { m with medium := med.writeToken account token salt iv m.medium })

def removeCall (account : String) (kind : StoreKind) (m : Machine rt σ) :
    Reply rt × Machine rt σ :=
  match kind with
  | .keytar =>
      (.removed (m.keychain account).isSome,
        { m with keychain := Function.update m.keychain account none })
  | .encryptedFile =>
      let (existed, medium) := med.unlink account m.medium
      (.removed existed, { m with medium := medium })

def serve (m : Machine rt σ) : Command → Reply rt × Machine rt σ
  | .newProcess => (.done, { m with cached := none, cachedStore := none })
  | .editConfig file => (.done, { m with medium := med.editConfig file m.medium })
  | .loadConfig =>
      match loadConfig med m with
      | (.ok cfg, m) => (.config cfg, m)
      | (.error err, m) => (.thrown err, m)
  | .saveConfig next => saveConfig med m next
  | .get keytar account => withStore med m keytar (getCall med account)
  | .set keytar token account salt iv =>
      withStore med m keytar (setCall med token account salt iv)
  | .remove keytar account => withStore med m keytar (removeCall med account)

/-! ## Media that cannot be told apart -/

/-- Related contents answer the same about the accounts, and stay related. -/
structure Alike {τ : Type} (accounts : Set String) (med : Medium rt σ) (med' : Medium rt τ)
    (R : σ → τ → Prop) : Prop where
  readConfig : ∀ {x y}, R x y → med.readConfig x = med'.readConfig y
  writeConfig : ∀ {x y} cfg, R x y → R (med.writeConfig cfg x) (med'.writeConfig cfg y)
  editConfig : ∀ {x y} file, R x y → R (med.editConfig file x) (med'.editConfig file y)
  readToken : ∀ {x y}, ∀ account ∈ accounts, R x y →
    med.readToken account x = med'.readToken account y
  writeToken : ∀ {x y}, ∀ account ∈ accounts, ∀ token salt iv, R x y →
    R (med.writeToken account token salt iv x) (med'.writeToken account token salt iv y)
  unlink : ∀ {x y}, ∀ account ∈ accounts, R x y →
    (med.unlink account x).1 = (med'.unlink account y).1 ∧
      R (med.unlink account x).2 (med'.unlink account y).2

section Alike

variable {τ : Type} {accounts : Set String} {med : Medium rt σ} {med' : Medium rt τ}
  {R : σ → τ → Prop}

/-- Processes that have cached the same, over related contents. -/
structure Beside (R : σ → τ → Prop) (m : Machine rt σ) (m' : Machine rt τ) : Prop where
  medium : R m.medium m'.medium
  keychain : m.keychain = m'.keychain
  cached : m.cached = m'.cached
  cachedStore : m.cachedStore = m'.cachedStore

variable {m : Machine rt σ} {m' : Machine rt τ}

theorem Alike.loadConfig (h : Alike accounts med med' R) (hm : Beside R m m') :
    (loadConfig med m).1 = (loadConfig med' m').1 ∧
      Beside R (Cli.loadConfig med m).2 (Cli.loadConfig med' m').2 := by
  unfold Cli.loadConfig
  rw [← hm.cached, ← h.readConfig hm.medium]
  cases hcached : m.cached with
  | some cfg => exact ⟨rfl, hm⟩
  | none =>
      cases med.readConfig m.medium with
      | ok cfg => exact ⟨rfl, { hm with cached := rfl }⟩
      | error err => exact ⟨rfl, hm⟩

theorem Alike.getCredentialStore (h : Alike accounts med med' R) (hm : Beside R m m')
    (keytar : Bool) :
    (getCredentialStore med m keytar).1 = (getCredentialStore med' m' keytar).1 ∧
      Beside R (Cli.getCredentialStore med m keytar).2
        (Cli.getCredentialStore med' m' keytar).2 := by
  unfold Cli.getCredentialStore
  rw [← hm.cachedStore]
  cases m.cachedStore with
  | some kind => exact ⟨rfl, hm⟩
  | none =>
      rcases h.loadConfig hm with ⟨hreply, hnext⟩
      rcases hleft : Cli.loadConfig med m with ⟨reply, m₁⟩
      rcases hright : Cli.loadConfig med' m' with ⟨reply', m₁'⟩
      rw [hleft, hright] at hreply hnext
      cases hreply
      cases reply with
      | error err => exact ⟨rfl, hnext⟩
      | ok cfg =>
          simp only
          cases select keytar cfg.authBackend with
          | ok kind => exact ⟨rfl, { hnext with cachedStore := rfl }⟩
          | error err => exact ⟨rfl, hnext⟩

/-- A call that keeps processes beside each other does so on the store that is selected. -/
theorem Alike.withStore (h : Alike accounts med med' R) (hm : Beside R m m') (keytar : Bool)
    {call : StoreKind → Machine rt σ → Reply rt × Machine rt σ}
    {call' : StoreKind → Machine rt τ → Reply rt × Machine rt τ}
    (hcall : ∀ kind m m', Beside R m m' →
      (call kind m).1 = (call' kind m').1 ∧ Beside R (call kind m).2 (call' kind m').2) :
    (withStore med m keytar call).1 = (withStore med' m' keytar call').1 ∧
      Beside R (Cli.withStore med m keytar call).2 (Cli.withStore med' m' keytar call').2 := by
  unfold Cli.withStore
  rcases h.getCredentialStore hm keytar with ⟨hreply, hnext⟩
  rcases hleft : Cli.getCredentialStore med m keytar with ⟨reply, m₁⟩
  rcases hright : Cli.getCredentialStore med' m' keytar with ⟨reply', m₁'⟩
  rw [hleft, hright] at hreply hnext
  cases hreply
  cases reply with
  | ok kind => exact hcall kind m₁ m₁' hnext
  | error err => exact ⟨rfl, hnext⟩

theorem Alike.saveConfig (h : Alike accounts med med' R) (hm : Beside R m m') (next : ConfigPatch) :
    (saveConfig med m next).1 = (saveConfig med' m' next).1 ∧
      Beside R (Cli.saveConfig med m next).2 (Cli.saveConfig med' m' next).2 := by
  unfold Cli.saveConfig
  rcases h.loadConfig hm with ⟨hreply, hnext⟩
  rcases hleft : Cli.loadConfig med m with ⟨reply, m₁⟩
  rcases hright : Cli.loadConfig med' m' with ⟨reply', m₁'⟩
  rw [hleft, hright] at hreply hnext
  cases hreply
  cases reply with
  | error err => exact ⟨rfl, hnext⟩
  | ok current =>
      simp only
      cases current.merge next with
      | error err => exact ⟨rfl, hnext⟩
      | ok merged =>
          exact ⟨rfl,
            { hnext with medium := h.writeConfig merged hnext.medium, cached := rfl }⟩

/-- The step lemma. -/
theorem Alike.serve (h : Alike accounts med med' R) (hm : Beside R m m') (c : Command)
    (hc : ∀ account, c.account = some account → account ∈ accounts) :
    (serve med m c).1 = (serve med' m' c).1 ∧
      Beside R (Cli.serve med m c).2 (Cli.serve med' m' c).2 := by
  cases c with
  | newProcess => exact ⟨rfl, { hm with cached := rfl, cachedStore := rfl }⟩
  | editConfig file => exact ⟨rfl, { hm with medium := h.editConfig file hm.medium }⟩
  | saveConfig next => exact h.saveConfig hm next
  | loadConfig =>
      unfold Cli.serve
      rcases h.loadConfig hm with ⟨hreply, hnext⟩
      rcases hleft : Cli.loadConfig med m with ⟨reply, m₁⟩
      rcases hright : Cli.loadConfig med' m' with ⟨reply', m₁'⟩
      rw [hleft, hright] at hreply hnext
      cases hreply
      cases reply with
      | ok cfg => exact ⟨rfl, hnext⟩
      | error err => exact ⟨rfl, hnext⟩
  | get keytar account =>
      refine h.withStore hm keytar fun kind m m' hm => ?_
      cases kind with
      | keytar =>
          have htoken : m.keychain account = m'.keychain account := congrFun hm.keychain account
          exact ⟨congrArg Reply.token htoken, hm⟩
      | encryptedFile =>
          unfold getCall
          rw [h.readToken account (hc account rfl) hm.medium]
          cases med'.readToken account m'.medium with
          | ok t => exact ⟨rfl, hm⟩
          | error err => exact ⟨rfl, hm⟩
  | set keytar token account salt iv =>
      refine h.withStore hm keytar fun kind m m' hm => ?_
      cases kind with
      | keytar =>
          have hkeychain : Function.update m.keychain account (some token) =
              Function.update m'.keychain account (some token) := by
            rw [hm.keychain]
          exact ⟨rfl, { hm with keychain := hkeychain }⟩
      | encryptedFile =>
          have hnext := h.writeToken account (hc account rfl) token salt iv hm.medium
          exact ⟨rfl, { hm with medium := hnext }⟩
  | remove keytar account =>
      refine h.withStore hm keytar fun kind m m' hm => ?_
      cases kind with
      | keytar =>
          have hexisted : (m.keychain account).isSome = (m'.keychain account).isSome := by
            rw [hm.keychain]
          have hkeychain : Function.update m.keychain account none =
              Function.update m'.keychain account none := by
            rw [hm.keychain]
          exact ⟨congrArg Reply.removed hexisted, { hm with keychain := hkeychain }⟩
      | encryptedFile =>
          rcases h.unlink account (hc account rfl) hm.medium with ⟨hexisted, hnext⟩
          exact ⟨congrArg Reply.removed hexisted, { hm with medium := hnext }⟩

end Alike

/-! ## The disk and the ideal medium -/

variable (rt)

/-- The files of the configuration directory. -/
structure Disk where
  config : Option Bytes := none
  creds : String → Option Bytes := fun _ => none

def onDisk : Medium rt Disk where
  readConfig d := readConfig rt.toConfigRuntime d.config
  writeConfig cfg d := { d with config := some (encode cfg.text) }
  editConfig file d := { d with config := file }
  readToken account d := openRecord rt (d.creds (credsFile account))
  writeToken account token salt iv d :=
    { d with
      creds := Function.update d.creds (credsFile account) (some (sealRecord rt token salt iv)) }
  unlink account d :=
    ((d.creds (credsFile account)).isSome,
      { d with creds := Function.update d.creds (credsFile account) none })

/-- The values themselves. -/
structure Ideal where
  config : Except Thrown (CliConfig rt.toConfigRuntime)
  tokens : String → Option String := fun _ => none

/-- No file, no salt, no key, no text of a configuration that was saved. -/
def ideal : Medium rt (Ideal rt) where
  readConfig i := i.config
  writeConfig cfg i := { i with config := .ok cfg }
  editConfig file i := { i with config := readConfig rt.toConfigRuntime file }
  readToken account i := .ok (i.tokens account)
  writeToken account token _ _ i :=
    { i with tokens := Function.update i.tokens account (some token) }
  unlink account i :=
    ((i.tokens account).isSome, { i with tokens := Function.update i.tokens account none })

/-- The content of a file of credentials that stands for what the ideal medium has. -/
inductive Stands : Option Bytes → Option String → Prop
  | missing : Stands none none
  | sealed (token : String) (salt iv : Bytes) :
      Stands (some (sealRecord rt token salt iv)) (some token)

/-- The refinement relation. -/
structure Realises (accounts : Set String) (d : Disk) (i : Ideal rt) : Prop where
  config : readConfig rt.toConfigRuntime d.config = i.config
  creds : ∀ account ∈ accounts, Stands rt (d.creds (credsFile account)) (i.tokens account)

variable {rt}

theorem Stands.openRecord {raw : Option Bytes} {token : Option String}
    (h : Stands rt raw token) : openRecord rt raw = .ok token := by
  cases h with
  | missing => rfl
  | sealed token salt iv => exact openRecord_sealRecord rt token salt iv

theorem Stands.isSome {raw : Option Bytes} {token : Option String} (h : Stands rt raw token) :
    raw.isSome = token.isSome := by
  cases h with
  | missing => rfl
  | sealed => rfl

/-- Where accounts have files of their own, a new token is in the file of its account alone. -/
theorem Realises.update {accounts : Set String} {d : Disk} {i : Ideal rt}
    (h : Realises rt accounts d i) (hown : Set.InjOn credsFile accounts) {raw : Option Bytes}
    {token : Option String} (hnew : Stands rt raw token) {account : String}
    (hmem : account ∈ accounts) :
    Realises rt accounts { d with creds := Function.update d.creds (credsFile account) raw }
      { i with tokens := Function.update i.tokens account token } where
  config := h.config
  creds := by
    intro other hother
    by_cases hsame : other = account
    · subst hsame
      simp only [Function.update_self]
      exact hnew
    · have hfile : credsFile other ≠ credsFile account := fun heq => hsame (hown hother hmem heq)
      simp only [Function.update_of_ne hsame, Function.update_of_ne hfile]
      exact h.creds other hother

theorem alike_onDisk {accounts : Set String} (hown : Set.InjOn credsFile accounts) :
    Alike accounts (onDisk rt) (ideal rt) (Realises rt accounts) where
  readConfig h := h.config
  writeConfig cfg h := ⟨readConfig_text cfg, h.creds⟩
  editConfig _ h := ⟨rfl, h.creds⟩
  readToken account hmem h := (h.creds account hmem).openRecord
  writeToken _ hmem token salt iv h := h.update hown (.sealed token salt iv) hmem
  unlink account hmem h := ⟨(h.creds account hmem).isSome, h.update hown .missing hmem⟩

/-- Whatever commands the processes run, and however the configuration is edited meanwhile, they
are answered as if tokens and configurations were kept as they are, when no two of their accounts
share a file. -/
theorem replies_onDisk (rt : NodeRuntime) (config : Option Bytes)
    (keychain : String → Option String) (cs : List Command)
    (hown : Set.InjOn credsFile {account | ∃ c ∈ cs, c.account = some account}) :
    replies (serve (onDisk rt)) { medium := { config := config }, keychain := keychain } cs =
      replies (serve (ideal rt))
        { medium := { config := readConfig rt.toConfigRuntime config }, keychain := keychain }
        cs := by
  have hstart : @Beside rt _ _ (Realises rt {account | ∃ c ∈ cs, c.account = some account})
      { medium := { config := config }, keychain := keychain }
      { medium := { config := readConfig rt.toConfigRuntime config }, keychain := keychain } :=
    ⟨⟨rfl, fun _ _ => .missing⟩, rfl, rfl, rfl⟩
  refine (replies_of_related cs (fun m m' c hc hm => ?_) hstart).1
  exact (alike_onDisk hown).serve hm c fun _ haccount => ⟨c, hc, haccount⟩

/-- A runtime whose cipher leaves the bytes as they are. -/
def NodeRuntime.bare : NodeRuntime where
  configFile := "config.json"
  isUrl s := s == defaultBaseUrl
  isUrl_default := beq_self_eq_true defaultBaseUrl
  zodMessage _ := "Invalid input"
  syntaxError _ := "Unexpected token"
  material := "ada:1000:/home/ada"
  scryptSync _ salt := salt
  encipher _ _ pt := (pt, [])
  decipher _ _ _ ct := some ct
  decipher_encipher _ _ _ := rfl
  bufferFrom _ := none
  isOne := fun n => n.text = (intNumber 1).text
  isOne_one := decide_eq_true rfl

/-- Two accounts, of which one is cleared. -/
def twoAccounts : List Command :=
  [.set false "t1" "default" [1] [2], .set false "t2" "work" [3] [4], .newProcess,
    .get false "default", .remove false "work", .get false "work"]

theorem replies_onDisk_twoAccounts :
    replies (serve (onDisk .bare)) { medium := {} } twoAccounts =
      [.done, .done, .done, .token (some "t1"), .removed true, .token none] := by
  have hmem : ∀ account, (∃ c ∈ twoAccounts, c.account = some account) →
      account = "default" ∨ account = "work" := by
    rintro account ⟨c, hc, haccount⟩
    simp only [twoAccounts, List.mem_cons, List.not_mem_nil, or_false] at hc
    rcases hc with rfl | rfl | rfl | rfl | rfl | rfl <;> simp_all [Command.account]
  have hapart : credsFile "default" ≠ credsFile "work" := by decide
  have hown : Set.InjOn credsFile {account | ∃ c ∈ twoAccounts, c.account = some account} := by
    intro a ha b hb heq
    rcases hmem a ha with rfl | rfl <;> rcases hmem b hb with rfl | rfl
    · rfl
    · exact absurd heq hapart
    · exact absurd heq.symm hapart
    · rfl
  rw [replies_onDisk .bare none (fun _ => none) twoAccounts hown]
  rfl

end Cli
end OpenRouter
