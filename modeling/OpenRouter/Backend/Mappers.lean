import OpenRouter.Backend.Keys

/-!
# Mappers — entities and their rows

`SqlAPIKeyRepository` and `SqlVideoJobRepository`: an entity is written field by field, into columns
with widths and defaults, and read field by field.  `add` leaves `created_at` to the database and
does not write `revoked_at` and `completed_at`; every other field comes back
(`mappers_keep_entities`).
-/

namespace OpenRouter
namespace Backend
namespace Mappers

/-! ## Columns -/

/-- PostgreSQL stores no zero character in a text. -/
def hasNul (s : String) : Bool :=
  s.toList.contains '\x00'

def text (s : String) : Except DbError String :=
  if hasNul s then .error .other else .ok s

/-- `VARCHAR(n)`: what is too long is cut where it ends in spaces. -/
def varchar (n : ℕ) (s : String) : Except DbError String :=
  if hasNul s then .error .other
  else if s.length ≤ n then .ok s
  else if (s.toList.drop n).all (· == ' ') then .ok (String.ofList (s.toList.take n))
  else .error .stringTooLong

/-- `JSONB` of a list of strings. -/
def jsonb (xs : List String) : Except DbError (List String) :=
  if xs.any hasNul then .error .other else .ok xs

/-- The text is stored as it is. -/
def FitsVarchar (n : ℕ) (s : String) : Prop :=
  hasNul s = false ∧ s.length ≤ n

theorem text_of_fits {s : String} (h : hasNul s = false) : text s = .ok s := by
  simp [text, h]

theorem varchar_of_fits {n : ℕ} {s : String} (h : FitsVarchar n s) : varchar n s = .ok s := by
  simp [varchar, h.1, h.2]

theorem varchar_of_long {n : ℕ} {cs : List Char} (hlong : n < cs.length)
    (hplain : ∀ c ∈ cs, c ≠ '\x00' ∧ c ≠ ' ') :
    varchar n (String.ofList cs) = .error .stringTooLong := by
  have hnul : hasNul (String.ofList cs) = false := by
    simp only [hasNul, String.toList_ofList, List.contains_eq_mem, decide_eq_false_iff_not]
    exact fun h => (hplain _ h).1 rfl
  have hspaces : ((String.ofList cs).toList.drop n).all (· == ' ') = false := by
    rw [String.toList_ofList, List.all_eq_false]
    refine ⟨cs[n], List.mem_drop_iff_getElem.2 ⟨0, by simpa using hlong, by simp⟩, ?_⟩
    simpa using (hplain cs[n] (List.getElem_mem hlong)).2
  have hlen : ¬ (String.ofList cs).length ≤ n := by
    rw [String.length_ofList]
    exact not_le.2 hlong
  simp only [varchar, hnul, hspaces, if_neg hlen, Bool.false_eq_true, if_false]

theorem jsonb_of_fits {xs : List String} (h : xs.any hasNul = false) : jsonb xs = .ok xs := by
  simp [jsonb, h]

/-- An amount that a column holds is stored as it is. -/
theorem store_toDecimal (n : Numeric) : Numeric.store n.toDecimal = .ok n := by
  have hround : Base.roundHalfAway (n.toDecimal * 10 ^ 6) = n.micros := by
    rw [Numeric.toDecimal_mul, Base.roundHalfAway_intCast]
  have hfits : Numeric.Fits n.toDecimal := by
    rw [Numeric.Fits, hround]
    exact n.bounded
  rcases Numeric.exists_store_of_fits hfits with ⟨m, hm⟩
  have hmicros : m.micros = n.micros := by
    rw [Numeric.micros_of_store hm, hround]
  rw [hm, Numeric.ext hmicros]

/-! ## Entities -/

def scopeValue : KeyScope → String
  | .personal => "personal"
  | .project => "project"
  | .team => "team"
  | .admin => "admin"
  | .byok => "byok"

/-- `KeyScope(value)`. -/
def keyScope (value : String) : Except String KeyScope :=
  match [KeyScope.personal, .project, .team, .admin, .byok].find? (scopeValue · == value) with
  | some scope => .ok scope
  | none => .error ("'" ++ value ++ "' is not a valid KeyScope")

/-- `APIKey` of the domain; instants are integers on one clock. -/
structure KeyEntity where
  id : UUID
  orgId : UUID
  userId : UUID
  name : String
  scope : KeyScope := .personal
  keyHash : String
  keyLookup : String
  allowedModels : List String := []
  deniedModels : List String := []
  expiresAt : Option ℤ := none
  revokedAt : Option ℤ := none
  createdAt : ℤ
  deriving DecidableEq

/-- The key whose checks the requests go through. -/
def KeyEntity.toKey (k : KeyEntity) : APIKey where
  id := k.id
  orgId := k.orgId
  userId := k.userId
  name := k.name
  scope := k.scope
  keyHash := k.keyHash
  keyLookup := k.keyLookup
  allowedModels := k.allowedModels
  deniedModels := k.deniedModels
  expiresAt := k.expiresAt
  revokedAt := k.revokedAt
  createdAt := k.createdAt

inductive VideoJobStatus
  | pending
  | processing
  | completed
  | failed
  deriving DecidableEq, Repr

namespace VideoJobStatus

def value : VideoJobStatus → String
  | .pending => "pending"
  | .processing => "processing"
  | .completed => "completed"
  | .failed => "failed"

/-- `VideoJobStatus(value)`. -/
def ofValue (s : String) : Except String VideoJobStatus :=
  match [VideoJobStatus.pending, .processing, .completed, .failed].find? (value · == s) with
  | some status => .ok status
  | none => .error ("'" ++ s ++ "' is not a valid VideoJobStatus")

end VideoJobStatus

structure VideoJob where
  id : UUID
  orgId : UUID
  keyId : UUID
  model : String
  prompt : String
  status : VideoJobStatus := .pending
  outputUrls : List String := []
  cost : Money := .zero
  error : Option String := none
  createdAt : ℤ
  completedAt : Option ℤ := none

theorem keyScope_scopeValue (scope : KeyScope) : keyScope (scopeValue scope) = .ok scope := by
  cases scope <;> rfl

theorem ofValue_value (status : VideoJobStatus) :
    VideoJobStatus.ofValue status.value = .ok status := by
  cases status <;> rfl

/-! ## Rows -/

/-- A row of `api_keys`; a JSON null is `none`. -/
structure APIKeyRow where
  id : UUID
  orgId : UUID
  userId : UUID
  name : String
  scope : String
  keyHash : String
  keyLookup : String
  allowedModels : Option (List String)
  deniedModels : Option (List String)
  expiresAt : Option ℤ
  revokedAt : Option ℤ
  revocationReason : Option String
  createdAt : ℤ

/-- A row of `video_jobs`. -/
structure VideoJobRow where
  id : UUID
  orgId : UUID
  keyId : UUID
  model : String
  prompt : String
  status : String
  outputUrls : Option (List String)
  costUsd : Numeric
  error : Option String
  createdAt : ℤ
  completedAt : Option ℤ

structure Tables where
  organizations : List UUID
  users : List UUID
  apiKeys : List APIKeyRow
  videoJobs : List VideoJobRow

/-- A transaction: the tables as it sees them, and when it began (`now()`). -/
structure Session where
  tables : Tables
  now : ℤ

/-- The tables that the next transactions see. -/
def Session.commit (s : Session) : Tables :=
  s.tables

/-! ## Keys -/

/-- The columns of `orm.APIKey(...)`; those that `add` does not name take their defaults. -/
def keyRow (now : ℤ) (key : KeyEntity) : Except DbError APIKeyRow := do
  let name ← varchar 200 key.name
  let scope ← varchar 20 (scopeValue key.scope)
  let keyHash ← varchar 200 key.keyHash
  let keyLookup ← varchar 64 key.keyLookup
  let allowedModels ← jsonb key.allowedModels
  let deniedModels ← jsonb key.deniedModels
  return {
    id := key.id
    orgId := key.orgId
    userId := key.userId
    name := name
    scope := scope
    keyHash := keyHash
    keyLookup := keyLookup
    allowedModels := some allowedModels
    deniedModels := some deniedModels
    expiresAt := key.expiresAt
    -- `add` names none of these three.
    revokedAt := none
    revocationReason := none
    createdAt := now }

/-- `SqlAPIKeyRepository.add`, up to the flush. -/
def addKey (s : Session) (key : KeyEntity) : Except DbError (KeyEntity × Session) := do
  let row ← keyRow s.now key
  if (s.tables.apiKeys.any fun r => r.id == row.id || r.keyLookup == row.keyLookup) then
    .error .duplicateKey
  else if s.tables.organizations.contains row.orgId && s.tables.users.contains row.userId then
    .ok (key, { s with tables := { s.tables with apiKeys := row :: s.tables.apiKeys } })
  else
    .error .other

/-- `_to_domain` of a key. -/
def keyToDomain (row : APIKeyRow) : Except String KeyEntity := do
  let scope ← keyScope row.scope
  return {
    id := row.id
    orgId := row.orgId
    userId := row.userId
    name := row.name
    scope := scope
    keyHash := row.keyHash
    keyLookup := row.keyLookup
    allowedModels := row.allowedModels.getD []
    deniedModels := row.deniedModels.getD []
    expiresAt := row.expiresAt
    revokedAt := row.revokedAt
    createdAt := row.createdAt }

/-- `get`. -/
def getKey (t : Tables) (id : UUID) : Except String (Option KeyEntity) :=
  match t.apiKeys.find? (·.id == id) with
  | some row => some <$> keyToDomain row
  | none => .ok none

/-- `find_by_lookup_hash`. -/
def findByLookupHash (t : Tables) (lookupHash : String) : Except String (Option KeyEntity) :=
  match t.apiKeys.filter (·.keyLookup == lookupHash) with
  | [] => .ok none
  | [row] => some <$> keyToDomain row
  | _ => .error "Multiple rows were found when one or none was required"

/-! ## Jobs -/

/-- A nullable `TEXT` column. -/
def nullableText : Option String → Except DbError (Option String)
  | some s => some <$> text s
  | none => .ok none

/-- The columns of `orm.VideoJob(...)`. -/
def jobRow (now : ℤ) (job : VideoJob) : Except DbError VideoJobRow := do
  let model ← varchar 200 job.model
  let prompt ← text job.prompt
  let status ← varchar 20 job.status.value
  let outputUrls ← jsonb job.outputUrls
  let costUsd ← Numeric.store job.cost.amount
  let error ← nullableText job.error
  return {
    id := job.id
    orgId := job.orgId
    keyId := job.keyId
    model := model
    prompt := prompt
    status := status
    outputUrls := some outputUrls
    costUsd := costUsd
    error := error
    -- Nor these two.
    createdAt := now
    completedAt := none }

/-- `SqlVideoJobRepository.add`, up to the flush. -/
def addJob (s : Session) (job : VideoJob) : Except DbError (VideoJob × Session) := do
  let row ← jobRow s.now job
  if s.tables.videoJobs.any (·.id == row.id) then
    .error .duplicateKey
  else if s.tables.organizations.contains row.orgId &&
      s.tables.apiKeys.any (·.id == row.keyId) then
    .ok (job, { s with tables := { s.tables with videoJobs := row :: s.tables.videoJobs } })
  else
    .error .other

/-- `update`. -/
def updateJob (s : Session) (job : VideoJob) : Except DbError Session := do
  let status ← varchar 20 job.status.value
  let outputUrls ← jsonb job.outputUrls
  let costUsd ← Numeric.store job.cost.amount
  let error ← nullableText job.error
  let videoJobs := s.tables.videoJobs.map fun row =>
    if row.id = job.id then
      { row with
        status := status
        outputUrls := some outputUrls
        costUsd := costUsd
        error := error
        completedAt := job.completedAt }
    else row
  return { s with tables := { s.tables with videoJobs := videoJobs } }

/-- `_to_domain` of a job. -/
def jobToDomain (row : VideoJobRow) : Except String VideoJob := do
  let status ← VideoJobStatus.ofValue row.status
  let cost ← Money.ofAmount row.costUsd.toDecimal
  return {
    id := row.id
    orgId := row.orgId
    keyId := row.keyId
    model := row.model
    prompt := row.prompt
    status := status
    outputUrls := row.outputUrls.getD []
    cost := cost
    error := row.error
    createdAt := row.createdAt
    completedAt := row.completedAt }

/-- `get`. -/
def getJob (t : Tables) (id : UUID) : Except String (Option VideoJob) :=
  match t.videoJobs.find? (·.id == id) with
  | some row => some <$> jobToDomain row
  | none => .ok none

/-! ## Keys come back -/

/-- The database accepts the key: its references exist, it is new, and its texts fit. -/
structure KeyEntity.Fits (key : KeyEntity) (t : Tables) : Prop where
  org_mem : key.orgId ∈ t.organizations
  user_mem : key.userId ∈ t.users
  id_new : ∀ r ∈ t.apiKeys, r.id ≠ key.id
  lookup_new : ∀ r ∈ t.apiKeys, r.keyLookup ≠ key.keyLookup
  name : FitsVarchar 200 key.name
  keyHash : FitsVarchar 200 key.keyHash
  keyLookup : FitsVarchar 64 key.keyLookup
  allowedModels : key.allowedModels.any hasNul = false
  deniedModels : key.deniedModels.any hasNul = false

/-- The row that `add` stores. -/
def KeyEntity.row (key : KeyEntity) (now : ℤ) : APIKeyRow where
  id := key.id
  orgId := key.orgId
  userId := key.userId
  name := key.name
  scope := scopeValue key.scope
  keyHash := key.keyHash
  keyLookup := key.keyLookup
  allowedModels := some key.allowedModels
  deniedModels := some key.deniedModels
  expiresAt := key.expiresAt
  revokedAt := none
  revocationReason := none
  createdAt := now

/-- What is read of it. -/
def KeyEntity.stored (key : KeyEntity) (now : ℤ) : KeyEntity :=
  { key with revokedAt := none, createdAt := now }

theorem fits_scopeValue (scope : KeyScope) : FitsVarchar 20 (scopeValue scope) := by
  cases scope <;> exact ⟨rfl, by decide⟩

theorem keyToDomain_row (key : KeyEntity) (now : ℤ) :
    keyToDomain (key.row now) = .ok (key.stored now) := by
  have hscope := keyScope_scopeValue key.scope
  simp only [keyToDomain, KeyEntity.row, hscope, bind, Except.bind]
  rfl

variable {s : Session} {key : KeyEntity} {job : VideoJob}

theorem keyRow_of_fits (h : key.Fits s.tables) : keyRow s.now key = .ok (key.row s.now) := by
  simp only [keyRow, varchar_of_fits h.name, varchar_of_fits (fits_scopeValue key.scope),
    varchar_of_fits h.keyHash, varchar_of_fits h.keyLookup, jsonb_of_fits h.allowedModels,
    jsonb_of_fits h.deniedModels, bind, Except.bind]
  rfl

theorem addKey_of_fits (h : key.Fits s.tables) :
    addKey s key = .ok (key,
      { s with tables := { s.tables with apiKeys := key.row s.now :: s.tables.apiKeys } }) := by
  have hnew : (s.tables.apiKeys.any fun r =>
      r.id == (key.row s.now).id || r.keyLookup == (key.row s.now).keyLookup) = false := by
    rw [List.any_eq_false]
    intro r hr
    have hid : r.id ≠ (key.row s.now).id := h.id_new r hr
    have hlookup : r.keyLookup ≠ (key.row s.now).keyLookup := h.lookup_new r hr
    simp [hid, hlookup]
  have hrefs : (s.tables.organizations.contains (key.row s.now).orgId &&
      s.tables.users.contains (key.row s.now).userId) = true := by
    rw [Bool.and_eq_true, List.contains_iff_mem, List.contains_iff_mem]
    exact ⟨h.org_mem, h.user_mem⟩
  simp only [addKey, keyRow_of_fits h, bind, Except.bind, hnew, hrefs]
  rfl

/-- A name that its column refuses. -/
theorem addKey_of_name {e : DbError} (h : varchar 200 key.name = .error e) :
    addKey s key = .error e := by
  simp only [addKey, keyRow, h, bind, Except.bind]

theorem getKey_cons (key : KeyEntity) (now : ℤ) (rows : List APIKeyRow) (t : Tables) :
    getKey { t with apiKeys := key.row now :: rows } key.id = .ok (some (key.stored now)) := by
  have hfind : (key.row now :: rows).find? (·.id == key.id) = some (key.row now) :=
    List.find?_cons_of_pos (beq_self_eq_true key.id)
  simp only [getKey, hfind, keyToDomain_row]
  rfl

theorem findByLookupHash_cons (now : ℤ) {rows : List APIKeyRow} (t : Tables)
    (hnew : ∀ r ∈ rows, r.keyLookup ≠ key.keyLookup) :
    findByLookupHash { t with apiKeys := key.row now :: rows } key.keyLookup =
      .ok (some (key.stored now)) := by
  have hrest : rows.filter (·.keyLookup == key.keyLookup) = [] := by
    rw [List.filter_eq_nil_iff]
    intro r hr
    simpa using hnew r hr
  have hfilter : (key.row now :: rows).filter (·.keyLookup == key.keyLookup) = [key.row now] := by
    have hself : ((key.row now).keyLookup == key.keyLookup) = true := beq_self_eq_true _
    rw [List.filter_cons, if_pos hself, hrest]
  simp only [findByLookupHash, hfilter, keyToDomain_row]
  rfl

/-! ## Jobs come back -/

/-- The database accepts the job, and its cost is a value of the column. -/
structure VideoJob.Fits (job : VideoJob) (t : Tables) : Prop where
  org_mem : job.orgId ∈ t.organizations
  key_mem : ∃ r ∈ t.apiKeys, r.id = job.keyId
  id_new : ∀ r ∈ t.videoJobs, r.id ≠ job.id
  model : FitsVarchar 200 job.model
  prompt : hasNul job.prompt = false
  outputUrls : job.outputUrls.any hasNul = false
  cost : ∃ n : Numeric, n.toDecimal = job.cost.amount
  error : ∀ e, job.error = some e → hasNul e = false

/-- The row that `add` stores. -/
def VideoJob.row (job : VideoJob) (costUsd : Numeric) (now : ℤ) : VideoJobRow where
  id := job.id
  orgId := job.orgId
  keyId := job.keyId
  model := job.model
  prompt := job.prompt
  status := job.status.value
  outputUrls := some job.outputUrls
  costUsd := costUsd
  error := job.error
  createdAt := now
  completedAt := none

/-- What is read of it. -/
def VideoJob.stored (job : VideoJob) (now : ℤ) : VideoJob :=
  { job with createdAt := now, completedAt := none }

theorem fits_value (status : VideoJobStatus) : FitsVarchar 20 status.value := by
  cases status <;> exact ⟨rfl, by decide⟩

theorem nullableText_of_fits {x : Option String} (h : ∀ e, x = some e → hasNul e = false) :
    nullableText x = .ok x := by
  cases x with
  | none => rfl
  | some e =>
      rw [nullableText, text_of_fits (h e rfl)]
      rfl

theorem ofAmount_amount (m : Money) : Money.ofAmount m.amount = .ok m :=
  dif_pos m.nonneg

theorem jobToDomain_row {n : Numeric} (hcost : n.toDecimal = job.cost.amount) (now : ℤ) :
    jobToDomain (job.row n now) = .ok (job.stored now) := by
  have hstatus := ofValue_value job.status
  have hmoney : Money.ofAmount n.toDecimal = .ok job.cost := by
    rw [hcost, ofAmount_amount]
  simp only [jobToDomain, VideoJob.row, hstatus, hmoney, bind, Except.bind]
  rfl

theorem jobRow_of_fits (h : job.Fits s.tables) {n : Numeric}
    (hcost : n.toDecimal = job.cost.amount) : jobRow s.now job = .ok (job.row n s.now) := by
  have hstore : Numeric.store job.cost.amount = .ok n := by
    rw [← hcost, store_toDecimal]
  simp only [jobRow, varchar_of_fits h.model, text_of_fits h.prompt,
    varchar_of_fits (fits_value job.status), jsonb_of_fits h.outputUrls, hstore,
    nullableText_of_fits h.error, bind, Except.bind]
  rfl

theorem addJob_of_fits (h : job.Fits s.tables) {n : Numeric}
    (hcost : n.toDecimal = job.cost.amount) :
    addJob s job = .ok (job, { s with
      tables := { s.tables with videoJobs := job.row n s.now :: s.tables.videoJobs } }) := by
  have hnew : (s.tables.videoJobs.any (·.id == (job.row n s.now).id)) = false := by
    rw [List.any_eq_false]
    intro r hr
    have hid : r.id ≠ (job.row n s.now).id := h.id_new r hr
    simp [hid]
  have hrefs : (s.tables.organizations.contains (job.row n s.now).orgId &&
      s.tables.apiKeys.any (·.id == (job.row n s.now).keyId)) = true := by
    rw [Bool.and_eq_true, List.contains_iff_mem, List.any_eq_true]
    rcases h.key_mem with ⟨r, hr, hid⟩
    exact ⟨h.org_mem, r, hr, by rw [hid]; exact beq_self_eq_true _⟩
  simp only [addJob, jobRow_of_fits h hcost, bind, Except.bind, hnew, hrefs]
  rfl

theorem getJob_cons {n : Numeric} (hcost : n.toDecimal = job.cost.amount) (now : ℤ)
    (rows : List VideoJobRow) (t : Tables) :
    getJob { t with videoJobs := job.row n now :: rows } job.id = .ok (some (job.stored now)) := by
  have hfind : (job.row n now :: rows).find? (·.id == job.id) = some (job.row n now) :=
    List.find?_cons_of_pos (beq_self_eq_true job.id)
  simp only [getJob, hfind, jobToDomain_row hcost]
  rfl

/-- The row that `update` makes of a row. -/
def VideoJob.updated (job : VideoJob) (costUsd : Numeric) (row : VideoJobRow) : VideoJobRow :=
  if row.id = job.id then
    { row with
      status := job.status.value
      outputUrls := some job.outputUrls
      costUsd := costUsd
      error := job.error
      completedAt := job.completedAt }
  else row

theorem id_updated (n : Numeric) (row : VideoJobRow) : (job.updated n row).id = row.id := by
  unfold VideoJob.updated
  split <;> rfl

theorem updateJob_of_fits {n : Numeric} (hcost : n.toDecimal = job.cost.amount)
    (houtput : job.outputUrls.any hasNul = false)
    (herror : ∀ e, job.error = some e → hasNul e = false) :
    updateJob s job = .ok { s with
      tables := { s.tables with videoJobs := s.tables.videoJobs.map (job.updated n) } } := by
  have hstore : Numeric.store job.cost.amount = .ok n := by
    rw [← hcost, store_toDecimal]
  simp only [updateJob, varchar_of_fits (fits_value job.status), jsonb_of_fits houtput, hstore,
    nullableText_of_fits herror, bind, Except.bind]
  rfl

theorem jobToDomain_updated {n : Numeric} (hcost : n.toDecimal = job.cost.amount)
    {old : VideoJobRow} (hid : old.id = job.id) :
    jobToDomain (job.updated n old) = .ok { job with
      orgId := old.orgId
      keyId := old.keyId
      model := old.model
      prompt := old.prompt
      createdAt := old.createdAt } := by
  have hstatus := ofValue_value job.status
  have hmoney : Money.ofAmount n.toDecimal = .ok job.cost := by
    rw [hcost, ofAmount_amount]
  simp only [jobToDomain, VideoJob.updated, if_pos hid, hstatus, hmoney, bind, Except.bind]
  rw [hid]
  rfl

/-- What `update` writes, `completed_at` among it, is read back. -/
theorem getJob_updateJob {n : Numeric} (hcost : n.toDecimal = job.cost.amount)
    (houtput : job.outputUrls.any hasNul = false)
    (herror : ∀ e, job.error = some e → hasNul e = false) {old : VideoJobRow}
    (hold : s.tables.videoJobs.find? (·.id == job.id) = some old) :
    ∃ s', updateJob s job = .ok s' ∧
      getJob s'.commit job.id = .ok (some { job with
        orgId := old.orgId
        keyId := old.keyId
        model := old.model
        prompt := old.prompt
        createdAt := old.createdAt }) := by
  have hid : old.id = job.id := by
    simpa using List.find?_some hold
  have hfind : (s.tables.videoJobs.map (job.updated n)).find? (·.id == job.id) =
      some (job.updated n old) := by
    -- An update leaves the ids as they are, so the row is found in its place.
    have hsame : ((fun row : VideoJobRow => row.id == job.id) ∘ job.updated n) =
        fun row => row.id == job.id := by
      funext row
      rw [Function.comp_apply, id_updated]
    rw [List.find?_map, hsame, hold]
    rfl
  refine ⟨_, updateJob_of_fits hcost houtput herror, ?_⟩
  simp only [Session.commit, getJob, hfind, jobToDomain_updated hcost hid]
  rfl

/-! ## The mappers -/

/-- Every field but the ones that `add` leaves out is read as it was written. -/
theorem mappers_keep_entities :
    (∀ (s : Session) (key : KeyEntity), key.Fits s.tables → ∃ s' stored,
      addKey s key = .ok (key, s') ∧
        getKey s'.commit key.id = .ok (some stored) ∧
        findByLookupHash s'.commit key.keyLookup = .ok (some stored) ∧
        { stored with revokedAt := key.revokedAt, createdAt := key.createdAt } = key ∧
        (key.revokedAt = none → stored.revokedAt = none) ∧ stored.createdAt = s.now) ∧
      ∀ (s : Session) (job : VideoJob), job.Fits s.tables → ∃ s' stored,
        addJob s job = .ok (job, s') ∧
          getJob s'.commit job.id = .ok (some stored) ∧
          { stored with createdAt := job.createdAt, completedAt := job.completedAt } = job ∧
          (job.completedAt = none → stored.completedAt = none) ∧ stored.createdAt = s.now := by
  constructor
  · intro s key h
    exact ⟨_, key.stored s.now, addKey_of_fits h, getKey_cons key s.now _ _,
      findByLookupHash_cons s.now _ h.lookup_new, rfl, fun _ => rfl, rfl⟩
  · intro s job h
    rcases h.cost with ⟨n, hcost⟩
    exact ⟨_, job.stored s.now, addJob_of_fits h hcost, getJob_cons hcost s.now _ _, rfl,
      fun _ => rfl, rfl⟩

/-- One organization with one user. -/
def office : Tables where
  organizations := [1]
  users := [2]
  apiKeys := []
  videoJobs := []

/-- A key that has been revoked before it is stored. -/
def revokedKey : KeyEntity where
  id := 3
  orgId := 1
  userId := 2
  name := "laptop"
  keyHash := "argon2id"
  keyLookup := "sha256"
  revokedAt := some 4
  createdAt := 1

theorem fits_revokedKey : revokedKey.Fits office where
  org_mem := List.mem_singleton_self _
  user_mem := List.mem_singleton_self _
  id_new r hr := absurd hr List.not_mem_nil
  lookup_new r hr := absurd hr List.not_mem_nil
  name := ⟨rfl, by decide⟩
  keyHash := ⟨rfl, by decide⟩
  keyLookup := ⟨rfl, by decide⟩
  allowedModels := rfl
  deniedModels := rfl

/-- The office with the key in it. -/
def keyedOffice : Tables :=
  { office with apiKeys := [revokedKey.row 5] }

/-- A job of that key, for a dollar and a half. -/
def finishedJob : VideoJob where
  id := 6
  orgId := 1
  keyId := 3
  model := "veo-3"
  prompt := "a cat"
  status := .completed
  outputUrls := ["s3://videos/6.mp4"]
  cost := { amount := 3 / 2, nonneg := by norm_num }
  createdAt := 2
  completedAt := some 4

theorem fits_finishedJob : finishedJob.Fits keyedOffice where
  org_mem := List.mem_singleton_self _
  key_mem := ⟨_, List.mem_singleton_self _, rfl⟩
  id_new r hr := absurd hr List.not_mem_nil
  model := ⟨rfl, by decide⟩
  prompt := rfl
  outputUrls := rfl
  cost := by
    refine ⟨{ micros := 1500000, bounded := by norm_num }, ?_⟩
    norm_num [Numeric.toDecimal, finishedJob]
  error e he := by cases he

/-- Both come back but for the fields that `add` does not write. -/
theorem mappers_keep_entities_office :
    (∃ s' stored, addKey { tables := office, now := 5 } revokedKey = .ok (revokedKey, s') ∧
      getKey s'.commit 3 = .ok (some stored) ∧
      findByLookupHash s'.commit "sha256" = .ok (some stored) ∧
      { stored with revokedAt := some 4, createdAt := 1 } = revokedKey) ∧
    ∃ s' stored, addJob { tables := keyedOffice, now := 7 } finishedJob = .ok (finishedJob, s') ∧
      getJob s'.commit 6 = .ok (some stored) ∧
      { stored with createdAt := 2, completedAt := some 4 } = finishedJob := by
  rcases mappers_keep_entities with ⟨hkeys, hjobs⟩
  rcases hkeys { tables := office, now := 5 } revokedKey fits_revokedKey with
    ⟨s, key, hadd, hget, hfind, hkey, -, -⟩
  rcases hjobs { tables := keyedOffice, now := 7 } finishedJob fits_finishedJob with
    ⟨s', job, haddJob, hgetJob, hjob, -, -⟩
  exact ⟨⟨s, key, hadd, hget, hfind, hkey⟩, s', job, haddJob, hgetJob, hjob⟩

/-- It comes back with another `created_at`, and usable; and a name that is too long for its column
does not come back at all. -/
theorem revoked_key_comes_back_usable :
    (∃ s' stored, addKey { tables := office, now := 5 } revokedKey = .ok (revokedKey, s') ∧
      getKey s'.commit revokedKey.id = .ok (some stored) ∧
      stored.createdAt ≠ revokedKey.createdAt ∧ stored.revokedAt ≠ revokedKey.revokedAt ∧
      stored.toKey.assertUsable 5 = .ok () ∧ revokedKey.toKey.assertUsable 5 ≠ .ok ()) ∧
    addKey { tables := office, now := 5 }
      { revokedKey with name := String.ofList (List.replicate 201 'a') } =
        .error .stringTooLong := by
  constructor
  · exact ⟨_, revokedKey.stored 5, addKey_of_fits fits_revokedKey, getKey_cons revokedKey 5 _ _,
      by decide, by decide, rfl, by decide⟩
  · have hname : varchar 200 (String.ofList (List.replicate 201 'a')) = .error .stringTooLong := by
      apply varchar_of_long
      · rw [List.length_replicate]
        decide
      · intro c hc
        rw [List.eq_of_mem_replicate hc]
        decide
    exact addKey_of_name hname

end Mappers
end Backend
end OpenRouter
