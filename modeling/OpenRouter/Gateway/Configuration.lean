import Mathlib.Data.List.Infix
import Mathlib.Data.Rat.Init

/-!
# Configuration — what a variable of the environment overrides

`Load` of `shared/config/config.go`: defaults, an optional file, and the variables that begin with
`GATEWAY_`.  The name of a variable has underscores both for the dots of a key and for the
underscores in it, and the callback takes all of them for dots: `overrides_iff`.
-/

namespace OpenRouter
namespace Gateway
namespace Configuration

/-! ## Keys -/

/-- The characters of the koanf tags. -/
def isTagChar (c : Char) : Bool :=
  'a' ≤ c && c ≤ 'z' || c == '_'

/-- The segments of a key. -/
structure KeyPath where
  segments : List (List Char)
  segments_ne_nil : segments ≠ []
  tagged : segments.all (fun s => !s.isEmpty && s.all isTagChar) = true

/-- The key in one piece, as koanf writes it. -/
def joined (segments : List (List Char)) : List Char :=
  ['.'].intercalate segments

/-- `k = koanf.New(".")`: keys are cut at every dot. -/
def keySegments (key : List Char) : List (List Char) :=
  key.splitOn '.'

namespace KeyPath

variable (p : KeyPath)

def text : List Char :=
  joined p.segments

/-- The variable of a key: the prefix, underscores for the dots, and upper case. -/
def envName : List Char :=
  "GATEWAY_".toList ++ p.text.map fun c => if c = '.' then '_' else c.toUpper

end KeyPath

/-! ## Load -/

/-- `strings.TrimPrefix`. -/
def trimPrefix (front s : List Char) : List Char :=
  if front <+: s then s.drop front.length else s

/-- `strings.ReplaceAll` of one character. -/
def replaceAll (old new : Char) (s : List Char) : List Char :=
  s.map fun c => if c = old then new else c

/-- The callback of `env.Provider`; the names of variables are ASCII. -/
def callback (name : List Char) : List Char :=
  replaceAll '_' '.' ((trimPrefix "GATEWAY_".toList name).map Char.toLower)

/-- What koanf holds: the values at the ends of nested maps, by their paths. -/
abbrev Settings (α : Type) : Type :=
  List (List Char) → Option α

/-- One path is a part of the other. -/
def Nested (p q : List (List Char)) : Prop :=
  p <+: q ∨ q <+: p

instance (p q : List (List Char)) : Decidable (Nested p q) :=
  inferInstanceAs (Decidable (_ ∨ _))

variable {α : Type}

/-- A value is merged in: it replaces what is at its path, below it, or on the way to it. -/
def Settings.merge (s : Settings α) (path : List (List Char)) (value : α) : Settings α :=
  fun q => if q = path then some value else if Nested q path then none else s q

/-- What `k.Load(env.Provider(…))` does with one variable. -/
def loadVar (s : Settings α) (name : List Char) (value : α) : Settings α :=
  -- A variable for which the callback returns an empty key is left out.
  if "GATEWAY_".toList <+: name ∧ callback name ≠ [] then
    s.merge (keySegments (callback name)) value
  else s

/-- The variable of a key is read as the key, so it overrides the field and no other one. -/
def Overrides (α : Type) (p : KeyPath) : Prop :=
  callback p.envName = p.text ∧
    ∀ (s : Settings α) (value : α),
      loadVar s p.envName value p.segments = some value ∧
        ∀ q, ¬ Nested q p.segments → loadVar s p.envName value q = s q

/-! ## Names and keys -/

theorem Settings.merge_self (s : Settings α) (path : List (List Char)) (value : α) :
    s.merge path value path = some value :=
  if_pos rfl

theorem Settings.merge_of_not_nested {path q : List (List Char)} (h : ¬ Nested q path)
    (s : Settings α) (value : α) : s.merge path value q = s q := by
  have hne : q ≠ path := by
    rintro rfl
    exact h (.inl List.prefix_rfl)
  rw [merge, if_neg hne, if_neg h]

theorem mem_joined {c : Char} {segments : List (List Char)} (h : c ∈ joined segments) :
    c = '.' ∨ ∃ s ∈ segments, c ∈ s := by
  induction segments with
  | nil =>
      cases h
  | cons s rest ih =>
      cases rest with
      | nil =>
          rw [joined, List.intercalate_singleton] at h
          exact .inr ⟨s, List.mem_cons_self, h⟩
      | cons t rest =>
          rw [joined, List.intercalate_cons_cons, List.mem_append, List.mem_append,
            List.mem_singleton] at h
          rcases h with (hs | hdot) | hrest
          · exact .inr ⟨s, List.mem_cons_self, hs⟩
          · exact .inl hdot
          · exact (ih hrest).imp_right fun ⟨u, hu, hc⟩ => ⟨u, List.mem_cons_of_mem _ hu, hc⟩

/-- The text of a part of a path is the front of its text. -/
theorem joined_prefix {p q : List (List Char)} (h : p <+: q) : joined p <+: joined q := by
  induction p generalizing q with
  | nil =>
      exact List.nil_prefix
  | cons s p ih =>
      rcases h with ⟨rest, rfl⟩
      cases p with
      | nil =>
          cases rest with
          | nil => exact List.prefix_rfl
          | cons t rest =>
              simp only [joined, List.cons_append, List.nil_append, List.intercalate_singleton,
                List.intercalate_cons_cons, List.append_assoc]
              exact List.prefix_append _ _
      | cons t p =>
          have htail := ih (List.prefix_append (t :: p) rest)
          simp only [joined, List.cons_append, List.intercalate_cons_cons] at htail ⊢
          exact (List.prefix_append_right_inj _).2 htail

theorem eq_of_isTagChar {c : Char} (h : isTagChar c = true) :
    'a' ≤ c ∧ c ≤ 'z' ∨ c = '_' := by
  simpa [isTagChar] using h

namespace KeyPath

variable (p : KeyPath)

theorem isTagChar_of_mem {s : List Char} (hs : s ∈ p.segments) {c : Char} (hc : c ∈ s) :
    isTagChar c = true := by
  have hall := List.all_eq_true.1 p.tagged s hs
  rw [Bool.and_eq_true] at hall
  exact List.all_eq_true.1 hall.2 c hc

theorem dot_not_mem {s : List Char} (hs : s ∈ p.segments) : '.' ∉ s := by
  intro hdot
  have htag := p.isTagChar_of_mem hs hdot
  exact absurd htag (by decide)

/-- The segments can be read off the text. -/
theorem keySegments_text : keySegments p.text = p.segments :=
  List.splitOn_intercalate '.' (fun _ hs => p.dot_not_mem hs) p.segments_ne_nil

theorem mem_text {c : Char} (hc : c ∈ p.text) : c = '.' ∨ isTagChar c = true := by
  rcases mem_joined hc with rfl | ⟨s, hs, hcs⟩
  · exact .inl rfl
  · exact .inr (p.isTagChar_of_mem hs hcs)

theorem text_ne_nil : p.text ≠ [] := by
  intro hnil
  have hsegments := p.keySegments_text
  rw [hnil, keySegments, List.splitOn_nil] at hsegments
  -- The only segment would be empty.
  have htagged := p.tagged
  rw [← hsegments] at htagged
  exact absurd htagged (by decide)

end KeyPath

/-- A letter comes back from upper case, and an underscore stays. -/
theorem toLower_toUpper {c : Char} (h : isTagChar c = true) : c.toUpper.toLower = c := by
  -- Tags are ASCII, and in ASCII every character can be tried.
  have hascii : (List.range 128).all (fun n => !isTagChar (Char.ofNat n) ||
      (Char.ofNat n).toUpper.toLower == Char.ofNat n) = true := by
    decide +kernel
  have hlt : c.toNat < 128 := by
    rcases eq_of_isTagChar h with ⟨-, hz⟩ | rfl
    · have hle : c.toNat ≤ 'z'.toNat := hz
      exact lt_of_le_of_lt hle (by decide)
    · decide
  have hc := List.all_eq_true.1 hascii c.toNat (List.mem_range.2 hlt)
  rw [Char.ofNat_toNat, h, Bool.not_true, Bool.false_or, beq_iff_eq] at hc
  exact hc

theorem trimPrefix_append (front s : List Char) : trimPrefix front (front ++ s) = s := by
  rw [trimPrefix, if_pos (List.prefix_append front s), List.drop_left]

theorem replaceAll_eq_self_iff {s : List Char} : replaceAll '_' '.' s = s ↔ '_' ∉ s := by
  induction s with
  | nil =>
      simp [replaceAll]
  | cons c s ih =>
      rw [replaceAll, List.map_cons, List.cons.injEq, List.mem_cons, not_or]
      refine and_congr ?_ ih
      by_cases hc : c = '_'
      · simp [hc]
      · simp [hc, Ne.symm hc]

/-- The callback reads the variable of a key as the key with dots for its underscores. -/
theorem callback_envName (p : KeyPath) : callback p.envName = replaceAll '_' '.' p.text := by
  have htrim : trimPrefix "GATEWAY_".toList p.envName =
      p.text.map fun c => if c = '.' then '_' else c.toUpper :=
    trimPrefix_append _ _
  rw [callback, htrim, replaceAll, replaceAll, List.map_map, List.map_map]
  refine List.map_congr_left fun c hc => ?_
  rcases p.mem_text hc with rfl | htag
  · rfl
  · have hdot : c ≠ '.' := by
      rintro rfl
      exact absurd htag (by decide)
    simp only [Function.comp_apply, if_neg hdot, toLower_toUpper htag]

theorem callback_envName_eq_iff (p : KeyPath) : callback p.envName = p.text ↔ '_' ∉ p.text := by
  rw [callback_envName, replaceAll_eq_self_iff]

/-! ## What a variable overrides -/

/-- The variable of a key is merged in where its callback says. -/
theorem loadVar_envName (s : Settings α) (p : KeyPath) (value : α) :
    loadVar s p.envName value = s.merge (keySegments (replaceAll '_' '.' p.text)) value := by
  have hfront : "GATEWAY_".toList <+: p.envName := List.prefix_append _ _
  have hkey : callback p.envName ≠ [] := by
    rw [callback_envName, replaceAll, ne_eq, List.map_eq_nil_iff]
    exact p.text_ne_nil
  rw [loadVar, if_pos ⟨hfront, hkey⟩, callback_envName]

/-- With an underscore in its key a variable is taken for another one: the field keeps what the
defaults and the file have. -/
theorem loadVar_of_underscore {p : KeyPath} (h : '_' ∈ p.text) (s : Settings α) (value : α) :
    loadVar s p.envName value p.segments = s p.segments := by
  have hjoined : joined (keySegments (replaceAll '_' '.' p.text)) = replaceAll '_' '.' p.text :=
    List.intercalate_splitOn '.'
  have hlength : (replaceAll '_' '.' p.text).length = p.text.length := List.length_map _
  rw [loadVar_envName, Settings.merge_of_not_nested]
  -- Of two nested keys one text is the front of the other; these have the same length.
  rintro (hnested | hnested)
  · have hfront := joined_prefix hnested
    rw [hjoined] at hfront
    exact replaceAll_eq_self_iff.1 (hfront.eq_of_length hlength.symm).symm h
  · have hfront := joined_prefix hnested
    rw [hjoined] at hfront
    exact replaceAll_eq_self_iff.1 (hfront.eq_of_length hlength) h

/-- A variable overrides the field of its key, and no other, exactly when the key has no
underscore. -/
theorem overrides_iff (p : KeyPath) : Overrides α p ↔ '_' ∉ p.text := by
  constructor
  · intro hoverrides
    exact (callback_envName_eq_iff p).1 hoverrides.1
  · intro h
    refine ⟨(callback_envName_eq_iff p).2 h, fun s value => ?_⟩
    rw [loadVar_envName, replaceAll_eq_self_iff.2 h, p.keySegments_text]
    exact ⟨s.merge_self _ value, fun q hq => s.merge_of_not_nested hq value⟩

/-! ## The configuration of the gateway -/

/-- The koanf tags of `Config` and of the structs in it, in their order. -/
def tags : List String :=
  ["environment", "log_level", "service_version", "http.port", "http.read_timeout",
    "http.write_timeout", "http.shutdown_timeout", "metrics.port", "redis.url", "redis.pool_size",
    "backend.grpc_addr", "auth.cache_ttl", "auth.cache_size", "nats.url", "nats.stream",
    "otel.endpoint", "otel.service", "otel.sample_rate", "provider_config"]

/-- What a key holds: the values of the defaults, and the texts of variables. -/
inductive Value
  | text (s : String)
  | int (n : ℤ)
  | float (x : ℚ)
  deriving DecidableEq

/-- `rawDefaults.Read`, with the keys of the nested maps in one piece. -/
def rawDefaults : List (String × Value) :=
  [("environment", .text "dev"), ("log_level", .text "info"), ("service_version", .text "0.1.0"),
    ("http.port", .int 8080), ("http.read_timeout", .text "30s"),
    ("http.write_timeout", .text "30s"), ("http.shutdown_timeout", .text "30s"),
    ("metrics.port", .int 9091), ("redis.url", .text "redis://localhost:6379/0"),
    ("redis.pool_size", .int 50), ("backend.grpc_addr", .text "localhost:50051"),
    ("auth.cache_ttl", .text "60s"), ("auth.cache_size", .int 10000),
    ("nats.url", .text "nats://localhost:4222"), ("nats.stream", .text "GATEWAY_EVENTS"),
    ("otel.endpoint", .text "http://localhost:4317"), ("otel.service", .text "gateway-go"),
    ("otel.sample_rate", .float (1 / 100)), ("provider_config", .text "./configs/providers.yaml")]

/-- The settings after `k.Load(rawDefaults{}, nil)`. -/
def defaults : Settings Value := fun path =>
  (rawDefaults.find? fun d => keySegments d.1.toList == path).map Prod.snd

/-- Every field has a default. -/
theorem tags_eq_map_rawDefaults : tags = rawDefaults.map Prod.fst := rfl

/-- The fields are keys in the sense of the theorem above, and none is a part of another. -/
theorem tags_wellFormed :
    (tags.all fun t => (keySegments t.toList).all fun s => !s.isEmpty && s.all isTagChar) = true ∧
      tags.Pairwise fun t t' => ¬ Nested (keySegments t.toList) (keySegments t'.toList) := by
  decide +kernel

/-- `auth.cache_size`, which `.env.example` sets by `GATEWAY_AUTH_CACHE_SIZE`. -/
def cacheSize : KeyPath where
  segments := ["auth".toList, "cache_size".toList]
  segments_ne_nil := List.cons_ne_nil _ _
  tagged := rfl

/-- The documented variable of the cache size is read as another key, and the default stays. -/
theorem cache_size_ignored :
    cacheSize.envName = "GATEWAY_AUTH_CACHE_SIZE".toList ∧
      callback cacheSize.envName = "auth.cache.size".toList ∧
      loadVar defaults cacheSize.envName (.text "20000") cacheSize.segments = some (.int 10000) ∧
      ¬ Overrides Value cacheSize := by
  have hcallback : callback cacheSize.envName = "auth.cache.size".toList := by decide +kernel
  refine ⟨by decide +kernel, hcallback, by decide +kernel, fun hoverrides => ?_⟩
  have htext : "auth.cache.size".toList = cacheSize.text := hcallback.symm.trans hoverrides.1
  exact absurd htext (by decide +kernel)

end Configuration
end Gateway
end OpenRouter
