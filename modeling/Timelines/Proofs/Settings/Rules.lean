import Timelines.Proofs.Settings.Checks
import Timelines.Proofs.Url.Loopback

/-! Which settings are allowed.

The rules on settings stand in one list (`Raw.rules`), in the order in which they are looked at.
`allowed_iff_rules` says that settings are allowed just if every rule holds, that a failure names
the key of the first rule that does not, and that what is allowed reaches the engine and the cache
as it was given.

A check `Follows` rules if it does this for them. Checks made one after another follow their rules
one after another (`Follows.bind`), so that one lemma for each kind of value is all that the
sections need. -/
namespace Timelines.Settings

/-! ### Rules -/

/-- What has to hold of settings, and the key that is named if it does not. -/
structure Rule where
  key : String
  Holds : Prop
  [decidable : Decidable Holds]

instance (r : Rule) : Decidable r.Holds := r.decidable

/-- The key of the first rule that does not hold. -/
def firstBroken (rules : List Rule) : Option String :=
  (rules.find? fun r => !decide r.Holds).map Rule.key

/-- A place on the web, with blanks around it. -/
def onWeb (value : String) : Bool :=
  match Url.parse (Text.trim value) with
  | .ok url => url.scheme ∈ ["http", "https"]
  | .error _ => false

def RawLogging.rules (raw : RawLogging) : List Rule :=
  [⟨"logging.level", ∀ s ∈ raw.level, (Verbosity.parse? s).isSome⟩]

def RawDatabase.rules (raw : RawDatabase) : List Rule :=
  [⟨"database.max_connections", raw.maxConnections ≠ some 0⟩]

def RawFanout.rules (raw : RawFanout) : List Rule :=
  [⟨"fanout.workers", raw.workers ≠ some 0⟩, ⟨"fanout.queue_capacity", raw.queueCapacity ≠ some 0⟩]

def RawTimeline.rules (raw : RawTimeline) : List Rule :=
  [⟨"timeline.query_limit", raw.queryLimit ≠ some 0⟩,
    ⟨"timeline.cache_refill_timeout_ms", raw.refillTimeout ≠ some 0⟩,
    ⟨"timeline.cache_refill_guard_ms",
      raw.refillGuard.getD 1000 ≤ raw.refillTimeout.getD 2000⟩,
    ⟨"timeline.cache_maintenance",
      raw.maintenance.map Text.trim ∈ [none, some "invalidate", some "push"]⟩,
    ⟨"timeline.publish_policy",
      raw.publishPolicy.map Text.trim ∈ [none, some "strict", some "best_effort"]⟩,
    ⟨"timeline.publish_max_attempts",
      raw.publishPolicy.map Text.trim = some "best_effort" → raw.publishMaxAttempts ≠ some 0⟩]

def RawCache.rules (raw : RawCache) : List Rule :=
  [⟨"cache.ttl_seconds", raw.ttlSeconds ≠ some 0⟩, ⟨"cache.max_users", raw.maxUsers ≠ some 0⟩,
    ⟨"cache.max_entries", raw.maxEntries ≠ some 0⟩]

def RawGraph.rules (raw : RawGraph) : List Rule :=
  [⟨"social_graph.base_url", ∀ s ∈ raw.baseUrl, onWeb s⟩,
    ⟨"social_graph.timeout_ms", raw.timeout ≠ some 0⟩]

def RawEvents.rules (raw : RawEvents) : List Rule :=
  [⟨"events.webhook_url", ∀ s ∈ raw.webhookUrl, Text.blank s ∨ onWeb s⟩,
    ⟨"events.timeout_ms", raw.timeout ≠ some 0⟩,
    ⟨"events.broadcast_capacity", raw.broadcastCapacity ≠ some 0⟩]

def Raw.rules (raw : Raw) : List Rule :=
  raw.logging.rules ++ raw.database.rules ++ raw.fanout.rules ++ raw.timeline.rules ++
    raw.cache.rules ++ raw.graph.rules ++ raw.events.rules

/-! ### What settings come to

Each value is the one that is given, or else the one that stands for it. -/

def RawLogging.Makes (raw : RawLogging) (s : Logging) : Prop :=
  raw.level.elim (some .info) Verbosity.parse? = some s.level ∧ s.json = raw.json.getD false

def RawDatabase.made (raw : RawDatabase) : Database :=
  ⟨(raw.url.map Text.trim).filter fun s => !s.isEmpty, raw.maxConnections.getD 8⟩

def RawFanout.made (raw : RawFanout) : Service.Bounds :=
  ⟨raw.workers.getD 50, raw.queueCapacity.getD 100⟩

def RawTimeline.policy (raw : RawTimeline) : Service.PublishPolicy :=
  if raw.publishPolicy.map Text.trim = some "best_effort" then
    .bestEffort (raw.publishMaxAttempts.getD 3) (raw.publishBackoff.getD 200)
  else .strict

def RawTimeline.upkeep (raw : RawTimeline) : Service.Maintenance :=
  if raw.maintenance.map Text.trim = some "push" then .push else .invalidate

def RawTimeline.made (raw : RawTimeline) : Timeline :=
  ⟨raw.queryLimit.getD 50, raw.refillTimeout.getD 2000, raw.refillGuard.getD 1000, raw.upkeep,
    raw.policy⟩

def RawCache.made (raw : RawCache) : Cache :=
  ⟨raw.maxUsers.getD 10000, raw.maxEntries.getD 100, raw.ttlSeconds⟩

def RawGraph.Makes (raw : RawGraph) (s : Graph) : Prop :=
  Url.parse (Text.trim (raw.baseUrl.getD "http://127.0.0.1:8081")) = .ok s.baseUrl ∧
    s.timeout = raw.timeout.getD 2000

/-- The webhook of some settings; a blank one is none. -/
def RawEvents.Calls (raw : RawEvents) (webhook : Option Url) : Prop :=
  match raw.webhookUrl.filter fun s => !Text.blank s with
  | some s => ∃ url, webhook = some url ∧ Url.parse (Text.trim s) = .ok url
  | none => webhook = none

def RawEvents.Makes (raw : RawEvents) (s : Events) : Prop :=
  raw.Calls s.webhookUrl ∧ s.timeout = raw.timeout.getD 2000 ∧
    s.broadcastCapacity = raw.broadcastCapacity.getD 1024

/-- The settings that given ones come to. -/
structure Raw.Makes (raw : Raw) (s : Settings) : Prop where
  logging : raw.logging.Makes s.logging
  database : s.database = raw.database.made
  fanout : s.fanout = raw.fanout.made
  timeline : s.timeline = raw.timeline.made
  cache : s.cache = raw.cache.made
  graph : raw.graph.Makes s.graph
  events : raw.events.Makes s.events

/-! ### Checks that follow rules -/

/-- A check follows rules: it allows a value, and one that `P` holds of, if they all hold, and else
names the key of the first that does not. -/
inductive Follows {α : Type} (P : α → Prop) (rules : List Rule) : Check α → Prop
  | allowed {a : α} : firstBroken rules = none → P a → Follows P rules (.ok a)
  | refused {key reason : String} :
      firstBroken rules = some key → Follows P rules (.error (.invalid key reason))

theorem firstBroken_append (rules more : List Rule) :
    firstBroken (rules ++ more) = (firstBroken rules).or (firstBroken more) := by
  unfold firstBroken
  rw [List.find?_append]
  cases rules.find? fun r => !decide r.Holds <;> rfl

theorem firstBroken_eq_none {rules : List Rule} :
    firstBroken rules = none ↔ ∀ r ∈ rules, r.Holds := by
  simp [firstBroken]

namespace Follows
variable {α β : Type} {P : α → Prop} {Q : β → Prop} {rules more : List Rule}

/-- One check after another. -/
theorem bind {x : Check α} {f : α → Check β} (hx : Follows P rules x)
    (hf : ∀ a, P a → Follows Q more (f a)) : Follows Q (rules ++ more) (x >>= f) := by
  cases hx with
  | @allowed a hrules ha =>
    show Follows Q (rules ++ more) (f a)
    have hmore := hf a ha
    generalize f a = y at hmore ⊢
    cases hmore with
    | allowed hmore hb => exact .allowed (by rw [firstBroken_append, hrules, hmore]; rfl) hb
    | refused hmore => exact .refused (by rw [firstBroken_append, hrules, hmore]; rfl)
  | refused hrules => exact .refused (by rw [firstBroken_append, hrules]; rfl)

/-- The value is made of what was checked last. -/
theorem last {x : Check α} {f : α → β} (hx : Follows P rules x) (hf : ∀ a, P a → Q (f a)) :
    Follows Q rules (do return f (← x)) := by
  have hbind : Follows Q (rules ++ []) (do return f (← x)) :=
    hx.bind fun a ha => .allowed rfl (hf a ha)
  rwa [List.append_nil] at hbind

theorem map {x : Check α} {f : α → β} (hx : Follows P rules x) (hf : ∀ a, P a → Q (f a)) :
    Follows Q rules (f <$> x) :=
  map_eq_pure_bind f x ▸ hx.last hf

theorem holds {r : Rule} {a : α} (hr : r.Holds) (ha : P a) : Follows P [r] (.ok a) :=
  .allowed (firstBroken_eq_none.mpr (by simpa using hr)) ha

theorem broken {r : Rule} {reason : String} (hr : ¬r.Holds) :
    Follows P (r :: rules) (.error (.invalid r.key reason)) :=
  .refused (by simp [firstBroken, hr])

/-- A rule that holds changes nothing. -/
theorem after {r : Rule} {x : Check α} (hr : r.Holds) (hx : Follows P rules x) :
    Follows P (r :: rules) x := by
  have hsame : firstBroken (r :: rules) = firstBroken rules := by simp [firstBroken, hr]
  cases hx with
  | allowed hrules ha => exact .allowed (hsame.trans hrules) ha
  | refused hrules => exact .refused (hsame.trans hrules)

end Follows

/-- A number that is given must not be zero, and the one that stands for it is not. -/
theorem follows_positive {r : Rule} {given : Option Nat} {standard : Nat}
    (hr : r.Holds ↔ given ≠ some 0) (h : 0 < standard) :
    Follows (· = given.getD standard) [r] (positive r.key (given.getD standard)) := by
  unfold positive
  split
  next hzero =>
    refine .broken fun hholds => hr.mp hholds ?_
    cases given with
    | none => exact absurd hzero (Nat.ne_of_gt h)
    | some n => exact congrArg some hzero
  next hne =>
    refine .holds (hr.mpr fun hzero => hne ?_) rfl
    rw [hzero]
    rfl

theorem follows_webUrl {r : Rule} {value : String} (hr : r.Holds ↔ onWeb value) :
    Follows (fun url => Url.parse (Text.trim value) = .ok url) [r] (webUrl r.key value) := by
  unfold webUrl
  split
  next e he => exact .broken (by simp [hr, onWeb, he])
  next url hurl =>
    split
    next hscheme => exact .holds (hr.mpr (by simpa [onWeb, hurl] using hscheme)) hurl
    next hscheme => exact .broken (by simpa [hr, onWeb, hurl] using hscheme)

/-! ### The sections -/

theorem follows_checkLogging (raw : RawLogging) :
    Follows raw.Makes raw.rules (checkLogging raw) := by
  have hlevel : Follows (fun v => raw.level.elim (some .info) Verbosity.parse? = some v) raw.rules
      (checkLevel raw.level) := by
    unfold checkLevel RawLogging.rules
    cases raw.level with
    | none => exact .holds (by simp) rfl
    | some s =>
      dsimp only
      cases hv : Verbosity.parse? s with
      | some v => exact .holds (by simp [hv]) hv
      | none => exact .broken (r := ⟨"logging.level", _⟩) (by simp [hv])
  exact hlevel.last fun v hv => ⟨hv, rfl⟩

theorem follows_checkDatabase (raw : RawDatabase) :
    Follows (· = raw.made) raw.rules (checkDatabase raw) :=
  (follows_positive .rfl (by decide)).last fun _ hconnections => by
    rw [hconnections]
    rfl

theorem follows_checkFanout (raw : RawFanout) :
    Follows (· = raw.made) raw.rules (checkFanout raw) :=
  (follows_positive .rfl (by decide)).bind fun _ hworkers =>
    (follows_positive .rfl (by decide)).last fun _ hqueue => by
      rw [hworkers, hqueue]
      rfl

theorem follows_checkMaintenance (raw : RawTimeline) :
    Follows (· = raw.upkeep)
      [⟨"timeline.cache_maintenance",
        raw.maintenance.map Text.trim ∈ [none, some "invalidate", some "push"]⟩]
      (checkMaintenance raw.maintenance) := by
  unfold checkMaintenance
  split
  next h => exact .holds (by simp [h]) (by simp [RawTimeline.upkeep, h])
  next h => exact .holds (by simp [h]) (by simp [RawTimeline.upkeep, h])
  next h => exact .holds (by simp [h]) (by simp [RawTimeline.upkeep, h])
  next other hinvalidate hpush h =>
    refine .broken (r := ⟨"timeline.cache_maintenance", _⟩) ?_
    rw [h]
    simpa using ⟨hinvalidate, hpush⟩

theorem follows_checkPublish (raw : RawTimeline) :
    Follows (· = raw.policy)
      [⟨"timeline.publish_policy",
          raw.publishPolicy.map Text.trim ∈ [none, some "strict", some "best_effort"]⟩,
        ⟨"timeline.publish_max_attempts",
          raw.publishPolicy.map Text.trim = some "best_effort" →
            raw.publishMaxAttempts ≠ some 0⟩]
      (checkPublish raw) := by
  unfold checkPublish
  split
  next h => exact .after (by simp [h]) (.holds (by simp [h]) (by simp [RawTimeline.policy, h]))
  next h => exact .after (by simp [h]) (.holds (by simp [h]) (by simp [RawTimeline.policy, h]))
  next h =>
    refine .after (by simp [h]) (Follows.last (follows_positive ?_ (by decide)) fun _ hn => ?_)
    · simp [h]
    · simp [RawTimeline.policy, h, hn]
  next other hstrict hbest h =>
    refine .broken (r := ⟨"timeline.publish_policy", _⟩) ?_
    rw [h]
    simpa using ⟨hstrict, hbest⟩

theorem follows_checkTimeline (raw : RawTimeline) :
    Follows (· = raw.made) raw.rules (checkTimeline raw) := by
  refine (follows_positive .rfl (by decide)).bind fun queryLimit hlimit => ?_
  refine (follows_positive .rfl (by decide)).bind fun refillTimeout htimeout => ?_
  subst hlimit htimeout
  dsimp only
  split
  next hlate => exact .broken (r := ⟨"timeline.cache_refill_guard_ms", _⟩) (Nat.not_le.mpr hlate)
  next hearly =>
    refine .after (Nat.not_lt.mp hearly) ?_
    refine (follows_checkMaintenance raw).bind fun maintenance hmaintenance => ?_
    refine (follows_checkPublish raw).last fun publish hpublish => ?_
    rw [hmaintenance, hpublish]
    rfl

theorem follows_checkCache (raw : RawCache) :
    Follows (· = raw.made) raw.rules (checkCache raw) := by
  unfold checkCache
  split
  next hzero => exact .broken (r := ⟨"cache.ttl_seconds", _⟩) fun hne => hne hzero
  next hne =>
    refine .after hne ?_
    refine (follows_positive .rfl (by decide)).bind fun users husers => ?_
    refine (follows_positive .rfl (by decide)).last fun entries hentries => ?_
    rw [husers, hentries]
    rfl

theorem onWeb_of_parse {value : String} {url : Url} (hurl : Url.parse (Text.trim value) = .ok url)
    (hscheme : url.scheme = "http") : onWeb value = true := by
  simp [onWeb, hurl, hscheme]

/-- The social graph that stands for one that is not given is on the web. -/
theorem onWeb_standard : onWeb "http://127.0.0.1:8081" = true := by
  have htrim : Text.trim "http://127.0.0.1:8081" = "http://127.0.0.1:8081" := by decide +kernel
  obtain ⟨url, hurl, hscheme⟩ := Url.parse_loopback
  exact onWeb_of_parse (htrim ▸ hurl) hscheme

theorem follows_checkGraph (raw : RawGraph) :
    Follows raw.Makes raw.rules (checkGraph raw) := by
  have hurl : Follows (fun url =>
      Url.parse (Text.trim (raw.baseUrl.getD "http://127.0.0.1:8081")) = .ok url) _ _ :=
    follows_webUrl (r := ⟨"social_graph.base_url", ∀ s ∈ raw.baseUrl, onWeb s⟩) ?_
  · refine hurl.bind fun url hparsed => ?_
    exact (follows_positive .rfl (by decide)).last fun timeout htimeout => ⟨hparsed, htimeout⟩
  · cases raw.baseUrl with
    | none => simp [onWeb_standard]
    | some s => simp

theorem follows_checkEvents (raw : RawEvents) :
    Follows raw.Makes raw.rules (checkEvents raw) := by
  have hrest {webhook : Option Url} (hcalls : raw.Calls webhook) :
      Follows raw.Makes
        [⟨"events.timeout_ms", raw.timeout ≠ some 0⟩,
          ⟨"events.broadcast_capacity", raw.broadcastCapacity ≠ some 0⟩]
        (do return ⟨webhook, ← positive "events.timeout_ms" (raw.timeout.getD 2000),
          ← positive "events.broadcast_capacity" (raw.broadcastCapacity.getD 1024)⟩) := by
    refine (follows_positive .rfl (by decide)).bind fun timeout htimeout => ?_
    exact (follows_positive .rfl (by decide)).last fun capacity hcapacity =>
      ⟨hcalls, htimeout, hcapacity⟩
  unfold checkEvents
  split
  next s hs =>
    have hgiven := Option.filter_eq_some_iff.mp hs
    refine Follows.bind (P := raw.Calls) ((follows_webUrl ?_).map fun url hurl => ?_)
      fun webhook hcalls => hrest hcalls
    · have hfull : Text.blank s = false := by simpa using hgiven.2
      simp [hgiven.1, hfull]
    · unfold RawEvents.Calls
      rw [hs]
      exact ⟨url, rfl, hurl⟩
  next hs =>
    refine .after ?_ (hrest ?_)
    · intro s hgiven
      have := Option.filter_eq_none_iff.mp hs s hgiven
      exact .inl (by simpa using this)
    · unfold RawEvents.Calls
      rw [hs]

/-- All checks together. -/
theorem follows_check (raw : Raw) : Follows raw.Makes raw.rules (check raw) := by
  unfold check Raw.rules
  simp only [List.append_assoc]
  refine (follows_checkLogging _).bind fun logging hlogging => ?_
  refine (follows_checkDatabase _).bind fun database hdatabase => ?_
  refine (follows_checkFanout _).bind fun fanout hfanout => ?_
  refine (follows_checkTimeline _).bind fun timeline htimeline => ?_
  refine (follows_checkCache _).bind fun cache hcache => ?_
  refine (follows_checkGraph _).bind fun graph hgraph => ?_
  refine (follows_checkEvents _).last fun events hevents => ?_
  exact ⟨hlogging, hdatabase, hfanout, htimeline, hcache, hgraph, hevents⟩

/-! ### What is allowed -/

/-- The engine's settings, of the values that are given or stand for what is not. -/
def Raw.serviceConfig (raw : Raw) : Service.Config where
  queryLimit := raw.timeline.queryLimit.getD 50
  cacheMaxEntries := raw.cache.maxEntries.getD 100
  refillTimeout := raw.timeline.refillTimeout.getD 2000
  refillGuard := raw.timeline.refillGuard.getD 1000
  maintenance := raw.timeline.upkeep
  publish := raw.timeline.policy
  bounds := raw.fanout.made

/-- The bounds of the cache, of the values that are given or stand for what is not. -/
def Raw.cacheConfig (raw : Raw) : Timelines.Cache.Config where
  maxUsers := raw.cache.maxUsers.getD 10000
  maxEntries := raw.cache.maxEntries.getD 100
  ttl := raw.cache.ttlSeconds.map (· * 1000)

theorem Raw.Makes.serviceConfig {raw : Raw} {s : Settings} (h : raw.Makes s) :
    s.serviceConfig = raw.serviceConfig := by
  rw [Settings.serviceConfig, h.fanout, h.timeline, h.cache]
  rfl

theorem Raw.Makes.cacheConfig {raw : Raw} {s : Settings} (h : raw.Makes s) :
    s.cacheConfig = raw.cacheConfig := by
  rw [Settings.cacheConfig, h.cache]
  rfl

/-- Where nothing is given every rule holds: each value that stands for another is allowed, and so
are all of them together. -/
theorem rules_empty : ∀ r ∈ Raw.empty.rules, r.Holds := by
  simp [Raw.rules, RawLogging.rules, RawDatabase.rules, RawFanout.rules, RawTimeline.rules,
    RawCache.rules, RawGraph.rules, RawEvents.rules, Raw.empty]

/-- **Settings are allowed just if the rules hold.** A failure is of the first rule that does not,
and names its key. Settings that are allowed are the given ones, and what the engine and the cache
get is what was given, or what stands for it, with the same bound on the posts of a slice. -/
theorem allowed_iff_rules (raw : Raw) :
    ((∃ s, check raw = .ok s) ↔ ∀ r ∈ raw.rules, r.Holds) ∧
      (∀ key, (∃ reason, check raw = .error (.invalid key reason)) ↔
        firstBroken raw.rules = some key) ∧
      ∀ s, check raw = .ok s →
        raw.Makes s ∧ s.serviceConfig = raw.serviceConfig ∧ s.cacheConfig = raw.cacheConfig ∧
          s.serviceConfig.cacheMaxEntries = s.cacheConfig.maxEntries := by
  have hfollows := follows_check raw
  generalize check raw = result at hfollows ⊢
  rw [← firstBroken_eq_none]
  cases hfollows with
  | @allowed s hrules hmakes =>
    refine ⟨iff_of_true ⟨s, rfl⟩ hrules, fun key => ?_, ?_⟩
    · rw [hrules]
      exact iff_of_false nofun nofun
    · rintro _ ⟨⟩
      exact ⟨hmakes, hmakes.serviceConfig, hmakes.cacheConfig, rfl⟩
  | @refused key reason hbroken =>
    rw [hbroken]
    refine ⟨iff_of_false ?_ nofun, fun other => ⟨?_, ?_⟩, fun s hs => by cases hs⟩
    · rintro ⟨s, hs⟩
      cases hs
    · rintro ⟨_, ⟨⟩⟩
      rfl
    · rintro ⟨⟩
      exact ⟨reason, rfl⟩

/-- Blanks around words do not count, and a blank webhook is none. A refill timeout of half a second
leaves the guard that stands for none too long; the cache could keep nobody either, but the guard
comes first. -/
theorem allowed_iff_rules_of_blanks :
    (∃ s, check { Raw.empty with
        timeline := ⟨none, none, none, some " push ", some "best_effort\n", some 5, none⟩
        events := ⟨some " ", none, none⟩ } = .ok s ∧
      s.events.webhookUrl = none ∧
      s.serviceConfig = ⟨50, 100, 2000, 1000, .push, .bestEffort 5 200, ⟨50, 100⟩⟩ ∧
      s.cacheConfig = ⟨10000, 100, none⟩) ∧
    ∃ reason, check { Raw.empty with
        timeline := ⟨none, some 500, none, none, none, none, none⟩
        cache := ⟨some 0, none, none⟩ } =
      .error (.invalid "timeline.cache_refill_guard_ms" reason) := by
  constructor
  · have hpush : Text.trim " push " = "push" := by decide +kernel
    have hbest : Text.trim "best_effort\n" = "best_effort" := by decide +kernel
    have hblank : Text.blank " " = true := by decide +kernel
    obtain ⟨hallowed, -, hmakes⟩ := allowed_iff_rules { Raw.empty with
      timeline := ⟨none, none, none, some " push ", some "best_effort\n", some 5, none⟩
      events := ⟨some " ", none, none⟩ }
    obtain ⟨s, hs⟩ := hallowed.mpr (by
      simp [Raw.rules, RawLogging.rules, RawDatabase.rules, RawFanout.rules, RawTimeline.rules,
        RawCache.rules, RawGraph.rules, RawEvents.rules, Raw.empty, hpush, hbest, hblank])
    obtain ⟨hraw, hservice, hcache, -⟩ := hmakes s hs
    refine ⟨s, hs, hraw.events.1, ?_, hcache⟩
    rw [hservice]
    decide +kernel
  · refine (allowed_iff_rules _).2.1 _ |>.mpr ?_
    simp [firstBroken, Raw.rules, RawLogging.rules, RawDatabase.rules, RawFanout.rules,
      RawTimeline.rules, Raw.empty]

end Timelines.Settings
